import Mathlib.Data.List.Chain
import SlabRings.Proofs.Pool.Views

/-!
# Circuits

A circuit leads from a head through a list of slots and back to the head, with
every two slots in a row linked to each other. Splicing is local: it opens or
closes one place of a circuit, and every link elsewhere stays as it is.
-/

namespace SlabRings.Links

/-- The second slot is ahead of the first, and the first behind the second. -/
def Joined (links : Links) (slot ahead : Nat) : Prop :=
  links.next slot = some ahead ∧ links.prev ahead = some slot

def Free (links : Links) (id : Nat) : Prop :=
  links.next id = none ∧ links.prev id = none

def Circuit (links : Links) (head : Nat) (ids : List Nat) : Prop :=
  (head :: (ids ++ [head])).IsChain links.Joined

namespace Joined

variable {links : Links} {slot ahead : Nat}

theorem eq_behind (joined : links.Joined slot ahead) {other : Nat}
    (otherJoined : links.Joined other ahead) : slot = other :=
  Option.some.inj (joined.2.symm.trans otherJoined.2)

theorem eq_ahead (joined : links.Joined slot ahead) {other : Nat}
    (leads : links.next slot = some other) : ahead = other :=
  Option.some.inj (joined.1.symm.trans leads)

theorem ne_of_free (joined : links.Joined slot ahead) {id : Nat} (free : links.Free id) :
    slot ≠ id ∧ ahead ≠ id := by
  constructor
  · intro same
    subst same
    simp [Free, joined.1] at free
  · intro same
    subst same
    simp [Free, joined.2] at free

end Joined

/-! ## Chains -/

theorem isChain_concat_imp {Leads Others : Nat → Nat → Prop} {ids : List Nat} {finish : Nat}
    (changed : ∀ slot ∈ ids, ∀ ahead, Leads slot ahead → Others slot ahead)
    (chain : (ids ++ [finish]).IsChain Leads) : (ids ++ [finish]).IsChain Others := by
  induction ids with
  | nil => exact List.isChain_singleton finish
  | cons slot rest induction =>
      have later := fun other member => changed other (List.mem_cons_of_mem slot member)
      cases rest with
      | nil =>
          have leads := List.isChain_pair.mp chain
          exact List.isChain_pair.mpr (changed slot List.mem_cons_self finish leads)
      | cons ahead others =>
          rcases List.isChain_cons_cons.mp chain with ⟨leads, chain⟩
          refine List.isChain_cons_cons.mpr ⟨?_, induction later chain⟩
          exact changed slot List.mem_cons_self ahead leads

theorem exists_ahead_of_isChain {Leads : Nat → Nat → Prop} {ids : List Nat} {start finish : Nat}
    (chain : (start :: (ids ++ [finish])).IsChain Leads) {slot : Nat}
    (member : slot ∈ start :: ids) : ∃ ahead ∈ ids ++ [finish], Leads slot ahead := by
  induction ids generalizing start with
  | nil =>
      rw [List.mem_singleton] at member
      subst member
      exact ⟨finish, List.mem_singleton_self finish, List.isChain_pair.mp chain⟩
  | cons first rest induction =>
      rcases List.isChain_cons_cons.mp chain with ⟨leads, chain⟩
      rcases List.mem_cons.mp member with rfl | member
      · exact ⟨first, List.mem_cons_self, leads⟩
      · rcases induction chain member with ⟨ahead, present, leads⟩
        exact ⟨ahead, List.mem_cons_of_mem first present, leads⟩

namespace Circuit

variable {links : Links} {head : Nat} {ids : List Nat}

theorem nil_iff : links.Circuit head [] ↔ links.Joined head head :=
  List.isChain_pair

theorem ahead (circuit : links.Circuit head ids) :
    (head :: (ids ++ [head])).IsChain fun slot other => links.next slot = some other :=
  circuit.imp fun _ _ joined => joined.1

theorem reversed (circuit : links.Circuit head ids) :
    (head :: (ids.reverse ++ [head])).IsChain fun slot other => links.Joined other slot := by
  have same : (head :: (ids ++ [head])).reverse = head :: (ids.reverse ++ [head]) := by simp
  rw [← same, List.isChain_reverse]
  exact circuit

theorem behind (circuit : links.Circuit head ids) :
    (head :: (ids.reverse ++ [head])).IsChain fun slot other => links.prev slot = some other :=
  circuit.reversed.imp fun _ _ joined => joined.2

theorem exists_ahead (circuit : links.Circuit head ids) {slot : Nat}
    (member : slot ∈ head :: ids) : ∃ other ∈ head :: ids, links.Joined slot other := by
  rcases exists_ahead_of_isChain circuit member with ⟨other, present, joined⟩
  exact ⟨other, by simpa [or_comm] using present, joined⟩

theorem exists_behind (circuit : links.Circuit head ids) {slot : Nat}
    (member : slot ∈ head :: ids) : ∃ other ∈ head :: ids, links.Joined other slot := by
  have member : slot ∈ head :: ids.reverse := by simpa using member
  rcases exists_ahead_of_isChain circuit.reversed member with ⟨other, present, joined⟩
  exact ⟨other, by simpa [or_comm] using present, joined⟩

theorem joined_of_next (circuit : links.Circuit head ids) {slot other : Nat}
    (member : slot ∈ head :: ids) (leads : links.next slot = some other) :
    other ∈ head :: ids ∧ links.Joined slot other := by
  rcases circuit.exists_ahead member with ⟨ahead, present, joined⟩
  have same := joined.eq_ahead leads
  exact same ▸ ⟨present, joined⟩

theorem joined_of_prev (circuit : links.Circuit head ids) {slot other : Nat}
    (member : slot ∈ head :: ids) (leads : links.prev slot = some other) :
    other ∈ head :: ids ∧ links.Joined other slot := by
  rcases circuit.exists_behind member with ⟨behind, present, joined⟩
  have same : behind = other := Option.some.inj (joined.2.symm.trans leads)
  exact same ▸ ⟨present, joined⟩

theorem next_ne_self (circuit : links.Circuit head ids) (nodup : (head :: ids).Nodup) {id : Nat}
    (member : id ∈ ids) : links.next id ≠ some id := by
  intro itself
  rcases List.append_of_mem member with ⟨left, right, rfl⟩
  have chain := circuit.ahead
  rw [List.append_assoc, List.cons_append, List.isChain_cons_split] at chain
  rw [← List.cons_append] at nodup
  have apart := (List.nodup_append.mp nodup).2
  cases right with
  | nil =>
      have leads := (List.isChain_cons_cons.mp chain.2).1
      have same : id = head := Option.some.inj (itself.symm.trans leads)
      exact apart.2 head List.mem_cons_self id List.mem_cons_self same.symm
  | cons first rest =>
      have leads := (List.isChain_cons_cons.mp chain.2).1
      have same : id = first := Option.some.inj (itself.symm.trans leads)
      exact (List.nodup_cons.mp apart.1).1 (same ▸ List.mem_cons_self)

theorem imp (circuit : links.Circuit head ids) {others : Links}
    (same : ∀ slot ∈ head :: ids, ∀ ahead, links.Joined slot ahead → others.Joined slot ahead) :
    others.Circuit head ids :=
  isChain_concat_imp same circuit

end Circuit

/-! ## Splicing in -/

theorem joined_spliceIn_before {links : Links} {before id after : Nat} (different : id ≠ after) :
    (links.spliceIn before id after).Joined before id := by
  simp [Joined, spliceIn, setNext, setPrev, different]

theorem joined_spliceIn_after {links : Links} {before id after : Nat} (different : id ≠ before) :
    (links.spliceIn before id after).Joined id after := by
  simp [Joined, spliceIn, setNext, setPrev, different]

theorem Joined.spliceIn {links : Links} {slot ahead before id after : Nat}
    (joined : links.Joined slot ahead) (place : links.Joined before after) (free : links.Free id)
    (elsewhere : slot ≠ before) : (links.spliceIn before id after).Joined slot ahead := by
  rcases joined.ne_of_free free with ⟨notSlot, notAhead⟩
  have notAfter : ahead ≠ after := by
    intro same
    subst same
    exact elsewhere (joined.eq_behind place)
  exact ⟨by simp [Links.spliceIn, setNext, setPrev, elsewhere, notSlot, joined.1],
    by simp [Links.spliceIn, setNext, setPrev, notAfter, notAhead, joined.2]⟩

theorem Circuit.spliceIn {links : Links} {head id after : Nat} {ids : List Nat}
    (circuit : links.Circuit head ids) (headOnce : head ∉ ids)
    (leads : links.next head = some after) (free : links.Free id) :
    (links.spliceIn head id after).Circuit head (id :: ids) := by
  cases ids with
  | nil =>
      have place := nil_iff.mp circuit
      have alone := place.eq_ahead leads
      subst alone
      have notHead := (place.ne_of_free free).1.symm
      exact List.isChain_cons_cons.mpr ⟨joined_spliceIn_before notHead,
        List.isChain_pair.mpr (joined_spliceIn_after notHead)⟩
  | cons first rest =>
      rcases List.isChain_cons_cons.mp circuit with ⟨place, chain⟩
      have isFirst := place.eq_ahead leads
      subst isFirst
      rcases place.ne_of_free free with ⟨notHead, notFirst⟩
      have changed : ∀ slot ∈ first :: rest, ∀ other, links.Joined slot other →
          (links.spliceIn head id first).Joined slot other := by
        intro slot member other joined
        apply joined.spliceIn place free
        intro same
        subst same
        exact headOnce member
      apply List.isChain_cons_cons.mpr
      refine ⟨joined_spliceIn_before notFirst.symm, List.isChain_cons_cons.mpr ?_⟩
      exact ⟨joined_spliceIn_after notHead.symm, isChain_concat_imp changed chain⟩

/-! ## Splicing out -/

theorem Joined.spliceOut {links : Links} {slot ahead before id after : Nat}
    (joined : links.Joined slot ahead) (entering : links.Joined before id)
    (leaving : links.Joined id after) (notBefore : slot ≠ before) (notSlot : slot ≠ id) :
    (links.spliceOut before id after).Joined slot ahead := by
  have notAhead : ahead ≠ id := by
    intro same
    subst same
    exact notBefore (joined.eq_behind entering)
  have notAfter : ahead ≠ after := by
    intro same
    subst same
    exact notSlot (joined.eq_behind leaving)
  exact ⟨by simp [Links.spliceOut, setNext, setPrev, clear, notBefore, notSlot, joined.1],
    by simp [Links.spliceOut, setNext, setPrev, clear, notAfter, notAhead, joined.2]⟩

theorem joined_spliceOut (links : Links) (before id after : Nat) :
    (links.spliceOut before id after).Joined before after := by
  simp [Joined, spliceOut, setNext, setPrev, clear]

private theorem exists_around (head : Nat) (left right : List Nat) :
    ∃ before after earlier later, head :: left = earlier ++ [before] ∧
      right ++ [head] = after :: later := by
  have before := (List.dropLast_concat_getLast (List.cons_ne_nil head left)).symm
  cases right with
  | nil => exact ⟨_, head, _, [], before, rfl⟩
  | cons first rest => exact ⟨_, first, _, rest ++ [head], before, rfl⟩

/-- A slot taken off a circuit leaves the others on it, in their order. -/
theorem Circuit.spliceOut {links : Links} {head before id after : Nat} {left right : List Nat}
    (circuit : links.Circuit head (left ++ id :: right))
    (nodup : (head :: (left ++ id :: right)).Nodup)
    (behind : links.prev id = some before) (ahead : links.next id = some after) :
    (links.spliceOut before id after).Circuit head (left ++ right) := by
  rcases exists_around head left right with ⟨last, first, earlier, later, lasts, firsts⟩
  have around (rest : List Nat) : head :: (left ++ rest) = earlier ++ last :: rest := by
    rw [← List.cons_append, lasts, List.append_assoc]
    rfl
  rw [Circuit, List.append_assoc, List.cons_append, around, firsts,
    List.isChain_append_cons_cons, List.isChain_cons_cons] at circuit
  rcases circuit with ⟨leading, entering, leaving, trailing⟩
  have sameBefore : last = before := Option.some.inj (entering.2.symm.trans behind)
  have sameAfter := leaving.eq_ahead ahead
  subst sameBefore sameAfter
  rw [around] at nodup
  rcases List.nodup_append.mp nodup with ⟨_, ending, apart⟩
  rcases List.nodup_cons.mp ending with ⟨lastOnce, ending⟩
  rcases List.nodup_cons.mp ending with ⟨slotOnce, _⟩
  rw [Circuit, List.append_assoc, around, firsts, List.isChain_append_cons_cons]
  refine ⟨isChain_concat_imp ?_ leading, joined_spliceOut links last id first, ?_⟩
  · intro slot member other joined
    apply joined.spliceOut entering leaving
    · exact apart slot member last (by simp)
    · exact apart slot member id (by simp)
  · rw [← firsts] at trailing ⊢
    apply isChain_concat_imp ?_ trailing
    intro slot member other joined
    apply joined.spliceOut entering leaving
    · intro same
      subst same
      exact lastOnce (List.mem_cons_of_mem id member)
    · intro same
      subst same
      exact slotOnce member

/-! ## What a circuit determines -/

theorem Circuit.exists_ahead_of_both {links others : Links} {head : Nat} {ids : List Nat}
    (circuit : links.Circuit head ids) (otherCircuit : others.Circuit head ids) {slot : Nat}
    (member : slot ∈ head :: ids) :
    ∃ ahead, links.Joined slot ahead ∧ others.Joined slot ahead := by
  have both : (head :: (ids ++ [head])).IsChain fun slot ahead =>
      links.Joined slot ahead ∧ others.Joined slot ahead := by
    apply List.isChain_iff_forall_rel_of_append_cons_cons.mpr
    intro slot ahead left right split
    exact ⟨List.isChain_iff_forall_rel_of_append_cons_cons.mp circuit split,
      List.isChain_iff_forall_rel_of_append_cons_cons.mp otherCircuit split⟩
  rcases exists_ahead_of_isChain both member with ⟨ahead, _, joined⟩
  exact ⟨ahead, joined⟩

theorem Circuit.exists_behind_of_both {links others : Links} {head : Nat} {ids : List Nat}
    (circuit : links.Circuit head ids) (otherCircuit : others.Circuit head ids) {slot : Nat}
    (member : slot ∈ head :: ids) :
    ∃ behind, links.Joined behind slot ∧ others.Joined behind slot := by
  rcases circuit.exists_behind member with ⟨behind, present, joined⟩
  rcases circuit.exists_ahead_of_both otherCircuit present with ⟨ahead, leaving, otherLeaving⟩
  have same := leaving.eq_ahead joined.1
  subst same
  exact ⟨behind, leaving, otherLeaving⟩

theorem Circuit.prev_eq_next_iff {links : Links} {head id : Nat} {ids : List Nat}
    (circuit : links.Circuit head ids) (nodup : (head :: ids).Nodup) (member : id ∈ ids) :
    links.prev id = links.next id ↔ ids = [id] := by
  rcases List.append_of_mem member with ⟨left, right, rfl⟩
  rcases exists_around head left right with ⟨before, after, earlier, later, lasts, firsts⟩
  have chain := circuit
  rw [Circuit, List.append_assoc, List.cons_append, ← List.cons_append, lasts, firsts,
    List.append_assoc, List.singleton_append, List.isChain_append_cons_cons,
    List.isChain_cons_cons] at chain
  rcases chain with ⟨_, entering, leaving, _⟩
  rw [entering.2, leaving.1, Option.some.injEq]
  constructor
  · intro same
    subst same
    have headOnce := (List.nodup_cons.mp nodup).1
    rw [← List.cons_append] at nodup
    have apart := (List.nodup_append.mp nodup).2.2
    -- One neighbour for both stands on either side of the slot, and only the head does.
    have onLeft : before ∈ head :: left := lasts ▸ List.mem_concat_self
    have rightNil : right = [] := by
      cases right with
      | nil => rfl
      | cons first rest =>
          cases firsts
          exact absurd rfl (apart before onLeft before (by simp))
    subst rightNil
    cases firsts
    cases earlier with
    | nil =>
        cases lasts
        rfl
    | cons _ rest =>
        rw [List.cons_append, List.cons.injEq] at lasts
        exact absurd (by simp [lasts.2]) headOnce
  · intro alone
    have nils : left = [] ∧ right = [] := by
      have length := congrArg List.length alone
      simp only [List.length_append, List.length_cons, List.length_nil] at length
      exact ⟨List.length_eq_zero_iff.mp (by omega), List.length_eq_zero_iff.mp (by omega)⟩
    rcases nils with ⟨rfl, rfl⟩
    cases firsts
    cases List.append_inj_right' (show [] ++ [head] = earlier ++ [before] from lasts) rfl
    rfl

end SlabRings.Links
