import SlabRings.Proofs.Pool.Effects

/-!
# Vacant slots

The slots that fell vacant form a chain through the table, the one vacated last
first. The chain has every vacant slot once and no other, so a new entry never
lands on a head or a slab, and can always be made.
-/

namespace SlabRings

def Slot.vacancy? : Slot → Option (Option Nat)
  | vacant earlier => some earlier
  | head _ | slab _ => none

def Pool.vacancy (pool : Pool) (id : Nat) : Option (Option Nat) :=
  pool.slots[id]?.bind Slot.vacancy?

/-- From a slot on, or from none, vacant slots lead through the list to its end. -/
inductive Chained (vacancy : Nat → Option (Option Nat)) : Option Nat → List Nat → Prop where
  | done : Chained vacancy none []
  | slot {id : Nat} {earlier : Option Nat} {rest : List Nat}
      (vacant : vacancy id = some earlier) (chained : Chained vacancy earlier rest) :
      Chained vacancy (some id) (id :: rest)

namespace Chained

variable {vacancy : Nat → Option (Option Nat)} {start : Option Nat} {ids : List Nat}

theorem vacant_of_mem (chained : Chained vacancy start ids) {id : Nat} (member : id ∈ ids) :
    vacancy id ≠ none := by
  induction chained with
  | done => cases member
  | slot vacant _ induction =>
      rcases List.mem_cons.mp member with rfl | later
      · simp [vacant]
      · exact induction later

theorem update (chained : Chained vacancy start ids) {id : Nat} (absent : id ∉ ids)
    (changed : Option (Option Nat)) : Chained (Function.update vacancy id changed) start ids := by
  induction chained with
  | done => exact .done
  | slot vacant _ induction =>
      rcases not_or.mp (List.mem_cons.not.mp absent) with ⟨different, later⟩
      apply Chained.slot _ (induction later)
      rw [Function.update_of_ne (Ne.symm different), vacant]

end Chained

namespace Pool

/-! ## The chain of a pool -/

/-- The vacant slots of the pool, the one vacated last first. -/
structure Vacancies (pool : Pool) (ids : List Nat) : Prop where
  chained : Chained pool.vacancy pool.lastVacated ids
  nodup : ids.Nodup
  mem_of_vacant (id : Nat) : pool.vacancy id ≠ none → id ∈ ids

theorem vacancy_eq_some_iff {pool : Pool} {id : Nat} {earlier : Option Nat} :
    pool.vacancy id = some earlier ↔ pool.slots[id]? = some (.vacant earlier) := by
  rw [vacancy, Option.bind_eq_some_iff]
  constructor
  · intro ⟨slot, stored, isVacant⟩
    cases slot with
    | vacant other =>
        cases isVacant
        exact stored
    | head _ => cases isVacant
    | slab _ => cases isVacant
  · intro stored
    exact ⟨_, stored, rfl⟩

theorem vacancy_eq_none_of_slab {pool : Pool} {id : Nat} {slab : Slab}
    (live : pool.slab id = .ok slab) : pool.vacancy id = none := by
  simp [vacancy, slab_eq_ok_iff.mp live, Slot.vacancy?]

theorem Writes.vacancy {before after : Pool} {id : Nat} {slot : Slot}
    (writes : before.Writes id slot after) :
    after.vacancy = Function.update before.vacancy id slot.vacancy? := by
  funext other
  by_cases same : other = id
  · subst same
    simp [Pool.vacancy, writes.written]
  · simp [Pool.vacancy, writes.kept other same, same]

theorem vacancy_of_bare_eq {before after : Pool} (same : after.bare = before.bare) :
    after.vacancy = before.vacancy := by
  have bare (pool : Pool) : pool.bare.vacancy = pool.vacancy := by
    funext id
    rw [vacancy, vacancy, getElem?_bare]
    rcases pool.slots[id]? with _ | _ | _ | _ <;> rfl
  rw [← bare after, same, bare]

theorem vacancies_empty (pageSize : UInt64) : (Pool.empty pageSize).Vacancies [] where
  chained := .done
  nodup := List.nodup_nil
  mem_of_vacant _ vacant := absurd rfl vacant

namespace Vacancies

variable {pool after : Pool} {ids : List Nat} {id : Nat}

theorem keep (vacancies : pool.Vacancies ids) (same : after.vacancy = pool.vacancy)
    (sameLast : after.lastVacated = pool.lastVacated) : after.Vacancies ids where
  chained := by
    rw [same, sameLast]
    exact vacancies.chained
  nodup := vacancies.nodup
  mem_of_vacant id vacant := vacancies.mem_of_vacant id (same ▸ vacant)

theorem keep_bare (vacancies : pool.Vacancies ids) (same : after.bare = pool.bare) :
    after.Vacancies ids :=
  vacancies.keep (vacancy_of_bare_eq same)
    (congrArg Pool.lastVacated same : after.bare.lastVacated = pool.bare.lastVacated)

theorem book (vacancies : pool.Vacancies ids) {old : Slab} (live : pool.slab id = .ok old)
    (new : Slab) (counters : Counters) : (pool.book id new counters).Vacancies ids := by
  have same : (pool.book id new counters).vacancy = pool.vacancy := by
    rw [(writes_book live new counters).vacancy, Slot.vacancy?, ← vacancy_eq_none_of_slab live,
      Function.update_eq_self]
  exact vacancies.keep same rfl

theorem count (vacancies : pool.Vacancies ids) (counters : Counters) :
    Vacancies { pool with counters } ids :=
  vacancies.keep rfl rfl

theorem link (vacancies : pool.Vacancies ids) {head : Nat}
    (linked : pool.link id head = .ok after) : after.Vacancies ids :=
  vacancies.keep_bare (bare_of_link linked)

theorem unlink (vacancies : pool.Vacancies ids) (unlinked : pool.unlink id = .ok after) :
    after.Vacancies ids := by
  exact vacancies.keep_bare (bare_of_unlink unlinked)

theorem configure (vacancies : pool.Vacancies ids) {head : Nat} {elementSize : UInt64}
    (configured : pool.configure id head elementSize = .ok after) : after.Vacancies ids := by
  rcases configure_eq_ok_iff.mp configured with ⟨slab, counters, live, _, linked⟩
  exact (vacancies.book live (slab.divide elementSize) counters).link linked

/-! ## Claiming and vacating -/

theorem exists_claim (vacancies : pool.Vacancies ids) (entry : Nat → Slot) :
    ∃ id after, pool.claim entry = .ok (id, after) := by
  have chained := vacancies.chained
  unfold claim
  cases last : pool.lastVacated with
  | none => exact ⟨_, _, rfl⟩
  | some vacated =>
      rw [last] at chained
      cases chained with
      | @slot _ earlier _ vacant _ =>
          dsimp only
          rw [vacancy_eq_some_iff.mp vacant]
          exact ⟨_, _, rfl⟩

theorem claim (vacancies : pool.Vacancies ids) {entry : Nat → Slot}
    (claimed : pool.claim entry = .ok (id, after)) (occupied : (entry id).vacancy? = none) :
    id = ids.headD pool.slots.size ∧ after.Vacancies ids.tail := by
  have writes := (writes_claim claimed).1
  have chained := vacancies.chained
  unfold Pool.claim at claimed
  cases last : pool.lastVacated with
  | none =>
      rw [last] at claimed chained
      cases claimed
      cases chained
      have beyond : pool.vacancy pool.slots.size = none := by simp [vacancy]
      refine ⟨rfl, vacancies.keep ?_ last.symm⟩
      rw [writes.vacancy, occupied, ← beyond, Function.update_eq_self]
  | some vacated =>
      rw [last] at claimed chained
      cases chained with
      | @slot _ earlier rest vacant chained =>
          dsimp only at claimed
          rw [vacancy_eq_some_iff.mp vacant] at claimed
          cases claimed
          rcases List.nodup_cons.mp vacancies.nodup with ⟨absent, once⟩
          refine ⟨rfl, ?_, once, ?_⟩
          · rw [writes.vacancy]
            exact chained.update absent _
          · intro other stillVacant
            rw [writes.vacancy, occupied] at stillVacant
            by_cases same : other = id
            · subst same
              simp at stillVacant
            · rw [Function.update_of_ne same] at stillVacant
              rcases List.mem_cons.mp (vacancies.mem_of_vacant other stillVacant) with
                equal | later
              · exact absurd equal same
              · exact later

theorem vacate (vacancies : pool.Vacancies ids) {slab : Slab} (live : pool.slab id = .ok slab) :
    (pool.vacate id).Vacancies (id :: ids) := by
  have writes := writes_vacate (slab_eq_ok_iff.mp live)
  have absent : id ∉ ids := by
    intro member
    exact vacancies.chained.vacant_of_mem member (vacancy_eq_none_of_slab live)
  exact {
    chained := by
      apply Chained.slot
      · rw [writes.vacancy, Function.update_self]
        rfl
      · rw [writes.vacancy]
        exact vacancies.chained.update absent _
    nodup := List.nodup_cons.mpr ⟨absent, vacancies.nodup⟩
    mem_of_vacant := by
      intro other vacant
      by_cases same : other = id
      · exact List.mem_cons.mpr (.inl same)
      · rw [writes.vacancy, Function.update_of_ne same] at vacant
        exact List.mem_cons_of_mem id (vacancies.mem_of_vacant other vacant) }

end Vacancies

/-! ## Every step -/

def vacanciesAfter (ids : List Nat) (operation : Operation) (answer : Answer) : List Nat :=
  match operation, answer with
  | .newHead, _ => ids.tail
  | .insert _ _ _ _, .inserted (some _) => ids.tail
  | .destroy id, _ => id :: ids
  | _, _ => ids

theorem Effect.vacancies {pool after : Pool} {operation : Operation} {answer : Answer}
    {ids : List Nat} (effect : Effect pool operation answer after)
    (vacancies : pool.Vacancies ids) :
    after.Vacancies (vacanciesAfter ids operation answer) := by
  cases effect with
  | headMade claimed => exact (vacancies.claim claimed rfl).2
  | inserted _ claimed configured => exact (vacancies.claim claimed rfl).2.configure configured
  | configured configured => exact vacancies.configure configured
  | sizeRefused | unsizedGiven | nothingGiven | unsizedReturned => exact vacancies
  | given live _ _ _ _ => exact vacancies.book live _ _
  | @lastGiven _ _ taken _ _ _ live _ _ _ unlinked _ =>
      have stored := vacancies.book live taken pool.counters
      exact (stored.unlink unlinked).count _
  | firstReturned live _ _ _ _ linked => exact (vacancies.book live _ _).link linked
  | returned live _ _ _ _ _ => exact vacancies.book live _ _
  | retired live _ _ _ _ _ _ unlinked _ =>
      exact ((vacancies.book live _ _).unlink unlinked).count _
  | linked linked => exact vacancies.link linked
  | unlinked unlinked => exact vacancies.unlink unlinked
  | destroyed live _ _ => exact (vacancies.vacate live).count _

end Pool

theorem Reachable.exists_vacancies {pageSize : UInt64} {pool : Pool}
    (reachable : Reachable pageSize pool) : ∃ ids, pool.Vacancies ids := by
  induction reachable with
  | empty => exact ⟨[], Pool.vacancies_empty pageSize⟩
  | step _ applied induction =>
      rcases induction with ⟨ids, vacancies⟩
      exact ⟨_, (Pool.apply_eq_ok_iff.mp applied).vacancies vacancies⟩

end SlabRings
