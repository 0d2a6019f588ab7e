import SlabRings.Proofs.Pool.Ledger
import SlabRings.Proofs.Pool.Underflow

/-!
# Tracking counters

The counters of a pool tell what its history did and what its slabs are. The
active slabs are the slabs in service; each element that was given came back, is
taken still, or was given up with the account of its slab.
-/

namespace SlabRings

/-! ## What a history did -/

def Slab.taken (slab : Slab) : Nat :=
  slab.occupancy.count

namespace Transition

def given (transition : Transition) : Nat :=
  match transition.operation, transition.answer with
  | .allocate id, .allocated (some _) =>
      if Accounts.isSized transition.before.account id then 1 else 0
  | _, _ => 0

def returned (transition : Transition) : Nat :=
  match transition.operation with
  | .free id _ _ => if Accounts.isSized transition.before.account id then 1 else 0
  | _ => 0

/-- The taken elements of a slab that is divided anew or destroyed. -/
def discarded (transition : Transition) : Nat :=
  match transition.operation with
  | .configure id _ _ | .destroy id => (transition.before.account id).elim 0 Slab.taken
  | _ => 0

def retirements (transition : Transition) : Nat :=
  if transition.answer == .freed false then 1 else 0

end Transition

def elementsDiscarded (pageSize : UInt64) (operations : List Operation) : Nat :=
  (((Pool.empty pageSize).transitions operations).map Transition.discarded).sum

/-! ## Every step -/

theorem Slab.taken_of_take {slab left : Slab} {element : Nat}
    (takes : slab.take = .ok (element, left)) : left.taken = slab.taken + 1 := by
  rcases take_eq_ok_iff.mp takes with ⟨_, _, grows, _, rfl⟩
  exact Occupancy.count_of_insert grows

theorem Slab.taken_of_release {slab released : Slab} {element : Nat}
    (releases : slab.release element = .ok released) : released.taken + 1 = slab.taken := by
  rcases release_eq_ok_iff.mp releases with ⟨_, _, shrinks, _, rfl⟩
  exact Occupancy.count_of_erase shrinks

theorem Slab.taken_divide (slab : Slab) (elementSize : UInt64) :
    (slab.divide elementSize).taken = 0 :=
  Occupancy.count_vacant _

namespace Accounts.Step

variable {pageSize : UInt64} {settled : Accounts} {operation : Operation} {answer : Answer}
  {before after : Pool}

theorem taken (step : Step pageSize before.account operation answer settled) :
    Changes Slab.taken (Transition.given ⟨before, operation, answer, after⟩)
      (Transition.returned ⟨before, operation, answer, after⟩ +
        Transition.discarded ⟨before, operation, answer, after⟩) before.account settled := by
  cases step with
  | headMade | sizeRefused | nothingGiven | linked | unlinked => exact .keep rfl
  | inserted _ fresh => exact .enter fresh (Slab.taken_divide _ _)
  | configured live =>
      apply Changes.rewrite live
      simp [Transition.given, Transition.returned, Transition.discarded, live, Slab.taken_divide]
  | unsizedGiven live unsized _ | unsizedReturned live unsized =>
      apply Changes.keep
      simp [Transition.given, Transition.returned, Transition.discarded, isSized, live, unsized]
  | given live serves takes =>
      apply Changes.rewrite live
      simp [Transition.given, Transition.returned, Transition.discarded, isSized, live, serves.1,
        Slab.taken_of_take (Slab.take_of_takeHandle takes).1]
  | returned live sized releases =>
      apply Changes.rewrite live
      simp [Transition.given, Transition.returned, Transition.discarded, isSized, live, sized,
        Slab.taken_of_release releases]
  | @retired _ _ _ slab released live sized releases _ _ =>
      have same : released.retire.taken = released.taken := rfl
      apply Changes.rewrite live
      simp [Transition.given, Transition.returned, Transition.discarded, isSized, live, sized,
        same, Slab.taken_of_release releases]
  | destroyed live =>
      apply Changes.leave live
      simp [Transition.given, Transition.returned, Transition.discarded, live]

theorem counted (step : Step pageSize before.account operation answer settled)
    (counters : Counters) :
    (counters.advance before.account operation answer).allocations =
        counters.allocations + Transition.given ⟨before, operation, answer, after⟩ ∧
      (counters.advance before.account operation answer).frees =
        counters.frees + Transition.returned ⟨before, operation, answer, after⟩ ∧
      (counters.advance before.account operation answer).retirements =
        counters.retirements + Transition.retirements ⟨before, operation, answer, after⟩ := by
  cases step with
  | headMade | sizeRefused | inserted | nothingGiven | linked | unlinked =>
      simp [Counters.advance, Transition.given, Transition.returned, Transition.retirements]
  | configured live | destroyed live =>
      simp only [Counters.advance]
      split <;> simp [Transition.given, Transition.returned, Transition.retirements]
  | unsizedGiven live unsized _ | unsizedReturned live unsized =>
      simp [Counters.advance, Transition.given, Transition.returned, Transition.retirements,
        isSized, live, unsized]
  | given live serves takes =>
      simp [Counters.advance, Transition.given, Transition.returned, Transition.retirements,
        isSized, live, serves.1]
  | returned live sized releases | retired live sized releases _ _ =>
      simp [Counters.advance, Transition.given, Transition.returned, Transition.retirements,
        isSized, live, sized]

end Accounts.Step

namespace Pool.Effect

variable {before after : Pool} {operation : Operation} {answer : Answer}

theorem allocations (effect : Effect before operation answer after) :
    after.counters.allocations = before.counters.allocations +
      Transition.given ⟨before, operation, answer, after⟩ := by
  rw [effect.counters]
  exact (effect.accounts.counted before.counters).1

theorem frees (effect : Effect before operation answer after) :
    after.counters.frees = before.counters.frees +
      Transition.returned ⟨before, operation, answer, after⟩ := by
  rw [effect.counters]
  exact (effect.accounts.counted before.counters).2.1

theorem retirements (effect : Effect before operation answer after) :
    after.counters.retirements = before.counters.retirements +
      Transition.retirements ⟨before, operation, answer, after⟩ := by
  rw [effect.counters]
  exact (effect.accounts.counted before.counters).2.2

end Pool.Effect

/-! ## Every history -/

private theorem sum_map_ite {Item : Type} (holds : Item → Bool) (items : List Item) :
    (items.map fun item => if holds item then 1 else 0).sum = items.countP holds := by
  induction items with
  | nil => rfl
  | cons item rest induction =>
      rw [List.map_cons, List.sum_cons, induction, List.countP_cons, Nat.add_comm]

theorem Reachable.activeSlabs_eq_countP {pageSize : UInt64} {pool : Pool}
    (reachable : Reachable pageSize pool) :
    pool.counters.activeSlabs = pool.slabs.countP Slab.active := by
  rw [reachable.activeSlabs_eq_total, Pool.total_eq_sum Slab.inService pool fun _ => rfl]
  exact sum_map_ite Slab.active pool.slabs

section Histories

variable {pageSize : UInt64} {operations : List Operation} {answers : List Answer} {pool : Pool}

theorem retirements_eq_count (ran : (Pool.empty pageSize).run operations = .ok (answers, pool)) :
    pool.counters.retirements = answers.count (.freed false) :=
  calc
    pool.counters.retirements
      = (((Pool.empty pageSize).transitions operations).map Transition.retirements).sum :=
        Pool.tally_eq_sum Counters.retirements Transition.retirements
          (fun _ _ _ _ effect => effect.retirements) rfl ran
    _ = (answers.map fun answer => if answer == .freed false then 1 else 0).sum := by
        rw [← Pool.map_answer_transitions ran, List.map_map]
        rfl
    _ = answers.count (.freed false) := sum_map_ite (· == .freed false) answers

theorem allocations_eq_add (ran : (Pool.empty pageSize).run operations = .ok (answers, pool)) :
    pool.counters.allocations = pool.counters.frees +
      (pool.slabs.map fun slab => slab.occupancy.count).sum +
      elementsDiscarded pageSize operations := by
  have given := Pool.tally_eq_sum Counters.allocations Transition.given
    (fun _ _ _ _ effect => effect.allocations) rfl ran
  have returned := Pool.tally_eq_sum Counters.frees Transition.returned
    (fun _ _ _ _ effect => effect.frees) rfl ran
  have taken := Pool.ledger (Pool.total Slab.taken) Transition.given
    (fun transition => transition.returned + transition.discarded)
    (fun _ _ _ _ _ effect => Pool.total_add_of_changes effect.accounts.taken) .empty ran
  have total : pool.total Slab.taken = (pool.slabs.map fun slab => slab.occupancy.count).sum :=
    Pool.total_eq_sum Slab.taken pool fun _ => rfl
  have nothing : (Pool.empty pageSize).total Slab.taken = 0 := rfl
  rw [List.sum_map_add, ← given, ← returned, nothing, total] at taken
  rw [elementsDiscarded]
  omega

/-- The active slabs are those in service; retirements are the times that a slab was turned
over; and each element that was given came back, is taken still, or was discarded with the account
of its slab. No operation counts down from nothing. -/
theorem counters_exact (ran : (Pool.empty pageSize).run operations = .ok (answers, pool)) :
    pool.counters.activeSlabs = pool.slabs.countP Slab.active ∧
      pool.counters.retirements = answers.count (.freed false) ∧
      pool.counters.allocations = pool.counters.frees +
        (pool.slabs.map fun slab => slab.occupancy.count).sum +
        elementsDiscarded pageSize operations ∧
      pool.counters.frees ≤ pool.counters.allocations ∧
      ∀ operation : Operation, operation.apply pool ≠ .error .differenceOverflow := by
  have reachable := Reachable.empty.run ran
  have balance := allocations_eq_add ran
  refine ⟨reachable.activeSlabs_eq_countP, retirements_eq_count ran, balance, by omega, ?_⟩
  have balanced (id : Nat) (slab : Slab) (live : pool.slab id = .ok slab) : slab.Balanced :=
    (reachable.balanced live).1
  intro operation
  apply Pool.noUnderflow_apply operation balanced
  intro id slab live active
  exact Pool.one_le_activeSlabs_of_counted reachable.activeSlabs_eq_total live active

end Histories

/-- A slab is exhausted, divided anew with both elements taken, and retired after one more went
and came back. Beside it another slab has an element taken. -/
theorem counters_exact_after_discard :
    ∃ answers pool,
      (Pool.empty 32).run [.newHead, .insert 0 5 0 16, .allocate 1, .allocate 1,
        .configure 1 0 16, .insert 0 6 32 16, .allocate 1, .free 1 0 0, .allocate 2] =
          .ok (answers, pool) ∧
      pool.counters = { activeSlabs := 1, allocations := 4, frees := 1, retirements := 1 } ∧
      pool.slabs.countP Slab.active = 1 ∧ answers.count (.freed false) = 1 ∧
      4 = 1 + (pool.slabs.map fun slab => slab.occupancy.count).sum +
        elementsDiscarded 32 [.newHead, .insert 0 5 0 16, .allocate 1, .allocate 1,
          .configure 1 0 16, .insert 0 6 32 16, .allocate 1, .free 1 0 0, .allocate 2] ∧
      elementsDiscarded 32 [.newHead, .insert 0 5 0 16, .allocate 1, .allocate 1,
        .configure 1 0 16, .insert 0 6 32 16, .allocate 1, .free 1 0 0, .allocate 2] = 2 ∧
      ∀ operation : Operation, operation.apply pool ≠ .error .differenceOverflow := by
  let retired : Slab :=
    { run := ⟨5, 0, 32⟩
      elementSize := 16
      capacity := 2
      available := 2
      hint := some 0
      occupancy := ⟨#[0]⟩ }
  let serving : Slab :=
    { run := ⟨6, 32, 32⟩
      elementSize := 16
      capacity := 2
      available := 1
      active := true
      occupancy := ⟨#[1]⟩
      prev := some 0
      next := some 0 }
  let pool : Pool :=
    { pageSize := 32
      slots := #[.head ⟨2, 2⟩, .slab retired, .slab serving]
      counters := { activeSlabs := 1, allocations := 4, frees := 1, retirements := 1 } }
  have ran : (Pool.empty 32).run [.newHead, .insert 0 5 0 16, .allocate 1, .allocate 1,
      .configure 1 0 16, .insert 0 6 32 16, .allocate 1, .free 1 0 0, .allocate 2] =
        .ok ([.head 0, .inserted (some 1), .allocated (some ⟨0x4000000000000005#64⟩),
          .allocated (some ⟨0x4000000100000005#64⟩), .done, .inserted (some 2),
          .allocated (some ⟨0x4000000000000005#64⟩), .freed false,
          .allocated (some ⟨0x4000000000000006#64⟩)], pool) := by
    decide +kernel
  have discarded : elementsDiscarded 32 [.newHead, .insert 0 5 0 16, .allocate 1, .allocate 1,
      .configure 1 0 16, .insert 0 6 32 16, .allocate 1, .free 1 0 0, .allocate 2] = 2 := by
    decide +kernel
  rcases counters_exact ran with ⟨active, retirements, balance, _, enough⟩
  exact ⟨_, pool, ran, rfl, active.symm, retirements.symm, balance, discarded, enough⟩

end SlabRings
