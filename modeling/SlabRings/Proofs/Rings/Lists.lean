import SlabRings.Proofs.Rings.Circuit

/-!
# Lists on links

What the rings stand for is one plain list of slabs a head. The links carry the
lists where each head has a circuit through its list, no two circuits have a
slot in common, and a slot on no circuit is not linked at all. Splicing a slot
in behind a head puts it at the front of the list of that head; splicing it out
takes it from the one list that has it.
-/

namespace SlabRings

/-- The slabs on the ring of each head, the one linked last first. -/
abbrev Lists : Type :=
  Nat → Option (List Nat)

namespace Lists

def addHead (lists : Lists) (id : Nat) : Lists :=
  Function.update lists id (some [])

def pushFront (lists : Lists) (head id : Nat) : Lists :=
  Function.update lists head ((lists head).map (id :: ·))

def remove (lists : Lists) (id : Nat) : Lists :=
  fun head => (lists head).map (·.erase id)

theorem addHead_eq_some_iff {lists : Lists} {id head : Nat} {ids : List Nat} :
    lists.addHead id head = some ids ↔
      head = id ∧ ids = [] ∨ head ≠ id ∧ lists head = some ids := by
  by_cases same : head = id
  · subst same
    simp [addHead, eq_comm]
  · simp [addHead, same]

theorem pushFront_eq_some_iff {lists : Lists} {head id other : Nat} {ids others : List Nat}
    (present : lists head = some ids) :
    lists.pushFront head id other = some others ↔
      other = head ∧ others = id :: ids ∨ other ≠ head ∧ lists other = some others := by
  by_cases same : other = head
  · subst same
    simp [pushFront, present, eq_comm]
  · simp [pushFront, same]

def Has (lists : Lists) (head slot : Nat) : Prop :=
  ∃ ids, lists head = some ids ∧ slot ∈ head :: ids

theorem has_head {lists : Lists} {head : Nat} {ids : List Nat} (present : lists head = some ids) :
    lists.Has head head :=
  ⟨ids, present, List.mem_cons_self⟩

theorem has_iff_of_eq_some {lists : Lists} {head slot : Nat} {ids : List Nat}
    (present : lists head = some ids) : lists.Has head slot ↔ slot ∈ head :: ids := by
  simp [Has, present]

theorem has_addHead_iff {lists : Lists} {id : Nat} (fresh : lists id = none) (head slot : Nat) :
    (lists.addHead id).Has head slot ↔ (head = id ∧ slot = id) ∨ lists.Has head slot := by
  by_cases same : head = id
  · subst same
    simp [Has, addHead, fresh]
  · simp [Has, addHead, same]

theorem has_pushFront_iff {lists : Lists} {head id : Nat} {ids : List Nat}
    (present : lists head = some ids) (other slot : Nat) :
    (lists.pushFront head id).Has other slot ↔
      (other = head ∧ slot = id) ∨ lists.Has other slot := by
  by_cases same : other = head
  · subst same
    simp [Has, pushFront, present, or_left_comm]
  · simp [Has, pushFront, same]

theorem has_remove_iff {lists : Lists} {id head : Nat}
    (nodup : ∀ ids, lists head = some ids → (head :: ids).Nodup) (notHead : lists id = none)
    (slot : Nat) : (lists.remove id).Has head slot ↔ slot ≠ id ∧ lists.Has head slot := by
  cases present : lists head with
  | none => simp [Has, remove, present]
  | some ids =>
      have once := (List.nodup_cons.mp (nodup ids present)).2
      simp only [Has, remove, present, Option.map_some, Option.some.injEq, exists_eq_left',
        List.mem_cons, once.mem_erase_iff]
      constructor
      · rintro (rfl | ⟨different, member⟩)
        · refine ⟨?_, .inl rfl⟩
          intro same
          subst same
          simp [present] at notHead
        · exact ⟨different, .inr member⟩
      · rintro ⟨different, rfl | member⟩
        · exact .inl rfl
        · exact .inr ⟨different, member⟩

theorem remove_of_absent {lists : Lists} {id : Nat} (absent : ∀ head, ¬lists.Has head id) :
    lists.remove id = lists := by
  funext head
  cases present : lists head with
  | none => simp [remove, present]
  | some ids =>
      have notListed : id ∉ ids := fun member =>
        absent head ⟨ids, present, List.mem_cons_of_mem head member⟩
      simp [remove, present, List.erase_of_not_mem notListed]

theorem remove_pushFront {lists : Lists} {id : Nat} (absent : ∀ head, ¬lists.Has head id)
    (head : Nat) : (lists.pushFront head id).remove id = lists := by
  funext other
  have unchanged := congrFun (remove_of_absent absent) other
  by_cases same : other = head
  · subst same
    cases present : lists other <;> simp [remove, pushFront, present]
  · simpa [remove, pushFront, same] using unchanged

end Lists

namespace Links

structure Carries (links : Links) (lists : Lists) : Prop where
  circuit {head : Nat} {ids : List Nat} : lists head = some ids → links.Circuit head ids
  nodup {head : Nat} {ids : List Nat} : lists head = some ids → (head :: ids).Nodup
  same_head {head other slot : Nat} : lists.Has head slot → lists.Has other slot → head = other
  on_list (slot : Nat) : ¬links.Free slot → ∃ head, lists.Has head slot

namespace Carries

variable {links : Links} {lists : Lists}

theorem empty : Carries ⟨fun _ => none, fun _ => none⟩ fun _ => none where
  circuit present := by cases present
  nodup present := by cases present
  same_head has := by
    rcases has with ⟨_, present, _⟩
    cases present
  on_list _ linked := absurd ⟨rfl, rfl⟩ linked

theorem exists_neighbours (carries : links.Carries lists) {head slot : Nat}
    (has : lists.Has head slot) :
    ∃ behind ahead, lists.Has head behind ∧ lists.Has head ahead ∧
      links.Joined behind slot ∧ links.Joined slot ahead := by
  rcases has with ⟨ids, present, member⟩
  rcases (carries.circuit present).exists_behind member with ⟨behind, onBehind, entering⟩
  rcases (carries.circuit present).exists_ahead member with ⟨ahead, onAhead, leaving⟩
  exact ⟨behind, ahead, ⟨ids, present, onBehind⟩, ⟨ids, present, onAhead⟩, entering, leaving⟩

theorem not_free_of_has (carries : links.Carries lists) {head slot : Nat}
    (has : lists.Has head slot) : ¬links.Free slot := by
  rcases carries.exists_neighbours has with ⟨_, ahead, _, _, _, leaving⟩
  intro free
  simp [Free, leaving.1] at free

theorem not_mem_of_head (carries : links.Carries lists) {head id : Nat} {ids : List Nat}
    (present : lists head = some ids) (member : id ∈ ids) : lists id = none := by
  cases own : lists id with
  | none => rfl
  | some others =>
      have has : lists.Has head id := ⟨ids, present, List.mem_cons_of_mem head member⟩
      have same := carries.same_head has (Lists.has_head own)
      subst same
      exact absurd member (List.nodup_cons.mp (carries.nodup present)).1

theorem same_head_of_has_iff (carries : links.Carries lists) {more : Lists} {holder id : Nat}
    (free : links.Free id)
    (has_iff : ∀ head slot, more.Has head slot ↔ (head = holder ∧ slot = id) ∨ lists.Has head slot)
    {head other slot : Nat} (has : more.Has head slot) (hasOther : more.Has other slot) :
    head = other := by
  rw [has_iff] at has hasOther
  rcases has with ⟨rfl, rfl⟩ | has
  · rcases hasOther with ⟨rfl, _⟩ | hasOther
    · rfl
    · exact absurd free (carries.not_free_of_has hasOther)
  · rcases hasOther with ⟨rfl, rfl⟩ | hasOther
    · exact absurd free (carries.not_free_of_has has)
    · exact carries.same_head has hasOther

end Carries

/-! ## A new head -/

def close (links : Links) (id : Nat) : Links :=
  (links.setNext id id).setPrev id id

theorem Joined.close {links : Links} {slot ahead id : Nat} (joined : links.Joined slot ahead)
    (free : links.Free id) : (links.close id).Joined slot ahead := by
  rcases joined.ne_of_free free with ⟨notSlot, notAhead⟩
  exact ⟨by simp [Links.close, setNext, setPrev, notSlot, joined.1],
    by simp [Links.close, setNext, setPrev, notAhead, joined.2]⟩

theorem Carries.addHead {links : Links} {lists : Lists} {id : Nat} (carries : links.Carries lists)
    (fresh : lists id = none) (free : links.Free id) :
    (links.close id).Carries (lists.addHead id) where
  circuit present := by
    rcases Lists.addHead_eq_some_iff.mp present with ⟨rfl, rfl⟩ | ⟨_, earlier⟩
    · exact Circuit.nil_iff.mpr (by simp [Joined, Links.close, setNext, setPrev])
    · exact (carries.circuit earlier).imp fun _ _ _ joined => joined.close free
  nodup present := by
    rcases Lists.addHead_eq_some_iff.mp present with ⟨rfl, rfl⟩ | ⟨_, earlier⟩
    · simp
    · exact carries.nodup earlier
  same_head has hasOther :=
    carries.same_head_of_has_iff free (Lists.has_addHead_iff fresh) has hasOther
  on_list slot linked := by
    simp only [Lists.has_addHead_iff fresh]
    by_cases same : slot = id
    · exact ⟨id, .inl ⟨rfl, same⟩⟩
    · have before : ¬links.Free slot := by
        simpa [Free, Links.close, setNext, setPrev, same] using linked
      rcases carries.on_list slot before with ⟨head, has⟩
      exact ⟨head, .inr has⟩

/-! ## A slab put in -/

theorem free_spliceIn_iff {links : Links} {before id after slot : Nat} (notSlot : slot ≠ id)
    (notBefore : slot ≠ before) (notAfter : slot ≠ after) :
    (links.spliceIn before id after).Free slot ↔ links.Free slot := by
  simp [Free, Links.spliceIn, setNext, setPrev, notSlot, notBefore, notAfter]

theorem Carries.pushFront {links : Links} {lists : Lists} {head id after : Nat} {ids : List Nat}
    (carries : links.Carries lists) (present : lists head = some ids)
    (ahead : links.next head = some after) (free : links.Free id) :
    (links.spliceIn head id after).Carries (lists.pushFront head id) where
  circuit {other others} presentOther := by
    rcases (Lists.pushFront_eq_some_iff present).mp presentOther with
      ⟨rfl, rfl⟩ | ⟨different, earlier⟩
    · have headOnce := (List.nodup_cons.mp (carries.nodup present)).1
      exact (carries.circuit present).spliceIn headOnce ahead free
    · have place := ((carries.circuit present).joined_of_next List.mem_cons_self ahead).2
      apply (carries.circuit earlier).imp
      intro slot member next joined
      apply joined.spliceIn place free
      intro isHead
      have has : lists.Has other head := ⟨others, earlier, isHead ▸ member⟩
      exact different (carries.same_head has (Lists.has_head present))
  nodup {other others} presentOther := by
    rcases (Lists.pushFront_eq_some_iff present).mp presentOther with
      ⟨rfl, rfl⟩ | ⟨_, earlier⟩
    · have fresh : id ∉ other :: ids := fun member =>
        carries.not_free_of_has ⟨ids, present, member⟩ free
      rcases List.nodup_cons.mp (carries.nodup present) with ⟨headOnce, once⟩
      simp only [List.mem_cons, not_or] at fresh
      simp [headOnce, once, fresh.2, Ne.symm fresh.1]
    · exact carries.nodup earlier
  same_head has hasOther :=
    carries.same_head_of_has_iff free (Lists.has_pushFront_iff present) has hasOther
  on_list slot linked := by
    simp only [Lists.has_pushFront_iff present]
    have hasAfter : lists.Has head after :=
      ⟨ids, present, ((carries.circuit present).joined_of_next List.mem_cons_self ahead).1⟩
    by_cases isSlot : slot = id
    · exact ⟨head, .inl ⟨rfl, isSlot⟩⟩
    by_cases isBefore : slot = head
    · subst isBefore
      exact ⟨slot, .inr (Lists.has_head present)⟩
    by_cases isAfter : slot = after
    · exact ⟨head, .inr (isAfter ▸ hasAfter)⟩
    rw [free_spliceIn_iff isSlot isBefore isAfter] at linked
    rcases carries.on_list slot linked with ⟨other, has⟩
    exact ⟨other, .inr has⟩

/-! ## A slab taken out -/

theorem free_spliceOut_iff {links : Links} {before id after slot : Nat} (notSlot : slot ≠ id)
    (notBefore : slot ≠ before) (notAfter : slot ≠ after) :
    (links.spliceOut before id after).Free slot ↔ links.Free slot := by
  simp [Free, Links.spliceOut, setNext, setPrev, clear, notSlot, notBefore, notAfter]

theorem Carries.remove {links : Links} {lists : Lists} {id before after : Nat}
    (carries : links.Carries lists) (notHead : lists id = none)
    (behind : links.prev id = some before) (ahead : links.next id = some after) :
    (links.spliceOut before id after).Carries (lists.remove id) := by
  have linked : ¬links.Free id := by simp [Free, ahead]
  rcases carries.on_list id linked with ⟨head, has⟩
  rcases has with ⟨ids, present, member⟩
  have circuit := carries.circuit present
  have nodup := carries.nodup present
  rcases circuit.joined_of_prev member behind with ⟨onBefore, entering⟩
  rcases circuit.joined_of_next member ahead with ⟨onAfter, leaving⟩
  have listed : id ∈ ids := by
    rcases List.mem_cons.mp member with rfl | listed
    · simp [present] at notHead
    · exact listed
  have notSelf := circuit.next_ne_self nodup listed
  have beforeApart : before ≠ id := by
    intro same
    subst same
    exact notSelf entering.1
  have afterApart : after ≠ id := by
    intro same
    subst same
    exact notSelf ahead
  have hasIff (other slot : Nat) :
      (lists.remove id).Has other slot ↔ slot ≠ id ∧ lists.Has other slot :=
    Lists.has_remove_iff (fun _ presentOther => carries.nodup presentOther) notHead slot
  exact {
    circuit := by
      intro other others presentOther
      rcases Option.map_eq_some_iff.mp presentOther with ⟨earlier, presentEarlier, rfl⟩
      by_cases same : other = head
      · subst same
        cases present.symm.trans presentEarlier
        rcases List.exists_erase_eq listed with ⟨left, right, _, rfl, erased⟩
        rw [erased]
        exact circuit.spliceOut nodup behind ahead
      · have elsewhere (slot : Nat) (onHead : slot ∈ head :: ids) : slot ∉ other :: earlier := by
          intro onOther
          exact same (carries.same_head ⟨earlier, presentEarlier, onOther⟩ ⟨ids, present, onHead⟩)
        have absent : id ∉ earlier := fun onOther =>
          elsewhere id member (List.mem_cons_of_mem other onOther)
        rw [List.erase_of_not_mem absent]
        apply (carries.circuit presentEarlier).imp
        intro slot onOther next joined
        apply joined.spliceOut entering leaving
        · intro same
          subst same
          exact elsewhere _ onBefore onOther
        · intro same
          subst same
          exact elsewhere _ member onOther
    nodup := by
      intro other others presentOther
      rcases Option.map_eq_some_iff.mp presentOther with ⟨earlier, presentEarlier, rfl⟩
      rcases List.nodup_cons.mp (carries.nodup presentEarlier) with ⟨headOnce, once⟩
      have stillOnce : other ∉ earlier.erase id := fun erased =>
        headOnce (List.mem_of_mem_erase erased)
      exact List.nodup_cons.mpr ⟨stillOnce, once.erase id⟩
    same_head := by
      intro left right slot hasLeft hasRight
      rw [hasIff] at hasLeft hasRight
      exact carries.same_head hasLeft.2 hasRight.2
    on_list := by
      intro slot stillLinked
      simp only [hasIff]
      have isOther : slot ≠ id := by
        intro same
        subst same
        simp [Free, Links.spliceOut, setNext, setPrev, clear, beforeApart.symm,
          afterApart.symm] at stillLinked
      by_cases isBefore : slot = before
      · exact ⟨head, isOther, ids, present, isBefore ▸ onBefore⟩
      by_cases isAfter : slot = after
      · exact ⟨head, isOther, ids, present, isAfter ▸ onAfter⟩
      rw [free_spliceOut_iff isOther isBefore isAfter] at stillLinked
      rcases carries.on_list slot stillLinked with ⟨other, has⟩
      exact ⟨other, isOther, has⟩ }

end Links

end SlabRings
