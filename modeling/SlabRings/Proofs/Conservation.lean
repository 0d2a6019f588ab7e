import SlabRings.Proofs.Placement
import SlabRings.Proofs.Pool.Ledger

/-!
# Conservation of runs

A run comes into a pool with a new slab, and leaves it when that slab is
destroyed. In between it stays with the slab, however often the slab is divided,
exhausted, retired and linked, and wherever other slabs and heads come and go.
-/

namespace SlabRings

/-! ## What a history takes in and gives back -/

def Transition.runsIn (transition : Transition) : Multiset Run :=
  match transition.operation, transition.answer with
  | .insert _ coordinate offset _, .inserted (some _) =>
      {⟨coordinate, offset, transition.before.pageSize⟩}
  | _, _ => 0

def Transition.runsOut (transition : Transition) : Multiset Run :=
  match transition.answer with
  | .released run => {run}
  | _ => 0

def runsTakenIn (pageSize : UInt64) (operations : List Operation) : Multiset Run :=
  (((Pool.empty pageSize).transitions operations).map Transition.runsIn).sum

def runsGivenBack (pageSize : UInt64) (operations : List Operation) : Multiset Run :=
  (((Pool.empty pageSize).transitions operations).map Transition.runsOut).sum

/-! ## Every step -/

def Slab.held (slab : Slab) : Multiset Run :=
  {slab.run}

theorem Slab.held_eq {slab changed : Slab} (same : changed.run = slab.run) :
    changed.held = slab.held := by
  rw [held, held, same]

theorem Accounts.Step.held {accounts settled : Accounts} {operation : Operation} {answer : Answer}
    {before after : Pool} (step : Step before.pageSize accounts operation answer settled) :
    Changes Slab.held (Transition.runsIn ⟨before, operation, answer, after⟩)
      (Transition.runsOut ⟨before, operation, answer, after⟩) accounts settled := by
  cases step with
  | headMade | sizeRefused | unsizedGiven | nothingGiven | unsizedReturned | linked | unlinked =>
      exact .keep rfl
  | inserted _ fresh => exact .enter fresh (add_zero _)
  | configured live => exact .rewrite live rfl
  | given live _ takes =>
      have same := Slab.run_of_take (Slab.take_of_takeHandle takes).1
      exact .rewrite live (congrArg (· + 0) (Slab.held_eq same))
  | returned live _ releases =>
      have same := Slab.run_of_release releases
      exact .rewrite live (congrArg (· + 0) (Slab.held_eq same))
  | @retired _ _ _ slab released live _ releases _ _ =>
      have same := Slab.run_of_release releases
      have held : released.retire.held = slab.held := Slab.held_eq same
      exact .rewrite live (congrArg (· + 0) held)
  | destroyed live => exact .leave live (add_zero _).symm

theorem Accounts.Step.absent {pageSize : UInt64} {accounts settled : Accounts}
    {operation : Operation} {answer : Answer} {id : Nat}
    (step : Step pageSize accounts operation answer settled) (absent : accounts id = none)
    (unused : answer ≠ .inserted (some id)) : settled id = none := by
  have other_of_live {other : Nat} {slab : Slab} (live : accounts other = some slab) :
      id ≠ other := by
    intro same
    rw [← same, absent] at live
    cases live
  cases step with
  | headMade | sizeRefused | unsizedGiven | nothingGiven | unsizedReturned | linked | unlinked =>
      exact absent
  | @inserted _ other _ _ _ _ _ =>
      have different : id ≠ other := by
        intro same
        exact unused (by rw [same])
      rw [set_other accounts different, absent]
  | configured live | given live _ _ | returned live _ _ | retired live _ _ _ _ | destroyed live =>
      rw [set_other accounts (other_of_live live), absent]

/-! ## Every history -/

namespace Pool

theorem total_held (pool : Pool) :
    pool.total Slab.held = (pool.slabs.map Slab.run : Multiset Run) := by
  rw [total_eq_sum Slab.held pool fun _ => rfl, ← Multiset.sum_map_singleton (Multiset.ofList _),
    Multiset.map_coe, Multiset.sum_coe, List.map_map]
  rfl

theorem not_isSlab_of_run {pool final : Pool} {id : Nat} {operations : List Operation}
    {answers : List Answer} (absent : ¬pool.IsSlab id)
    (ran : pool.run operations = .ok (answers, final))
    (unused : .inserted (some id) ∉ answers) : ¬final.IsSlab id := by
  induction operations generalizing pool answers with
  | nil =>
      cases ran
      exact absent
  | cons operation rest induction =>
      rcases run_cons_eq_ok_iff.mp ran with ⟨answer, after, others, applied, restRan, rfl⟩
      rw [List.mem_cons, not_or] at unused
      have step := (apply_eq_ok_iff.mp applied).accounts
      have stillAbsent := step.absent (account_eq_none_iff.mpr absent) (Ne.symm unused.1)
      exact induction (account_eq_none_iff.mp stillAbsent) restRan unused.2

end Pool

/-- The runs that came in are those that were given back and those that the slabs are over. A
slab that is destroyed gives back the run that it was inserted with, and there is no slab in its
slot until another one comes to it. -/
theorem runs_conserved {pageSize : UInt64} {operations : List Operation} {answers : List Answer}
    {pool : Pool} (ran : (Pool.empty pageSize).run operations = .ok (answers, pool)) :
    runsTakenIn pageSize operations =
        runsGivenBack pageSize operations + (pool.slabs.map Slab.run : Multiset Run) ∧
      ∀ id run after, pool.destroy id = .ok (run, after) →
        runsGiven pageSize operations id = some run ∧
          ∀ later laterAnswers final, after.run later = .ok (laterAnswers, final) →
            .inserted (some id) ∉ laterAnswers → ¬final.IsSlab id := by
  refine ⟨?_, ?_⟩
  · have balanced := Pool.ledger (Pool.total Slab.held) Transition.runsIn Transition.runsOut
      (fun _ _ _ _ _ effect => Pool.total_add_of_changes effect.accounts.held)
      .empty ran
    have nothing : (Pool.empty pageSize).total Slab.held = 0 := rfl
    rw [Pool.total_held, nothing, zero_add, add_comm] at balanced
    exact balanced.symm
  · intro id run after destroyed
    cases Pool.destroy_eq_ok_iff.mp destroyed with
    | @destroyed _ slab counters live _ _ =>
        refine ⟨?_, ?_⟩
        · rw [← runs_eq_given ran]
          exact Pool.runs_of_slab live
        · intro later laterAnswers final laterRan unused
          have gone : ¬Pool.IsSlab { pool.vacate id with counters := counters } id := by
            apply Pool.account_eq_none_iff.mp
            change (pool.vacate id).account id = none
            rw [Pool.account_of_vacate live, Accounts.set_same]
          exact Pool.not_isSlab_of_run gone laterRan unused

theorem runs_conserved_in_reused_slot :
    ∃ answers pool run after laterAnswers final,
      (Pool.empty 64).run [.newHead, .insert 0 5 0 16, .insert 0 6 64 32, .allocate 1, .free 1 0 0,
        .destroy 1, .insert 0 7 128 64, .unlink 1] = .ok (answers, pool) ∧
      runsGivenBack 64 [.newHead, .insert 0 5 0 16, .insert 0 6 64 32, .allocate 1, .free 1 0 0,
        .destroy 1, .insert 0 7 128 64, .unlink 1] = {⟨5, 0, 64⟩} ∧
      runsTakenIn 64 [.newHead, .insert 0 5 0 16, .insert 0 6 64 32, .allocate 1, .free 1 0 0,
        .destroy 1, .insert 0 7 128 64, .unlink 1] = {⟨5, 0, 64⟩, ⟨7, 128, 64⟩, ⟨6, 64, 64⟩} ∧
      pool.destroy 1 = .ok (run, after) ∧
      runsGiven 64 [.newHead, .insert 0 5 0 16, .insert 0 6 64 32, .allocate 1, .free 1 0 0,
        .destroy 1, .insert 0 7 128 64, .unlink 1] 1 = some run ∧
      after.run [.newHead, .insert 1 8 192 64] = .ok (laterAnswers, final) ∧
      laterAnswers = [.head 1, .inserted (some 3)] ∧ ¬final.IsSlab 1 := by
  let other : Slab :=
    { run := ⟨6, 64, 64⟩
      elementSize := 32
      capacity := 2
      available := 2
      hint := some 0
      active := true
      occupancy := ⟨#[0]⟩
      prev := some 0
      next := some 0 }
  let reused : Slab :=
    { run := ⟨7, 128, 64⟩
      elementSize := 64
      capacity := 1
      available := 1
      hint := some 0
      active := true
      occupancy := ⟨#[0]⟩ }
  let pool : Pool :=
    { pageSize := 64
      slots := #[.head ⟨2, 2⟩, .slab reused, .slab other]
      counters := { activeSlabs := 2, allocations := 1, frees := 1, retirements := 1 } }
  let another : Slab :=
    { run := ⟨8, 192, 64⟩
      elementSize := 64
      capacity := 1
      available := 1
      hint := some 0
      active := true
      occupancy := ⟨#[0]⟩
      prev := some 1
      next := some 1 }
  let after : Pool :=
    { pageSize := 64
      slots := #[.head ⟨2, 2⟩, .vacant none, .slab other]
      lastVacated := some 1
      counters := { activeSlabs := 1, allocations := 1, frees := 1, retirements := 1 } }
  let final : Pool :=
    { pageSize := 64
      slots := #[.head ⟨2, 2⟩, .head ⟨3, 3⟩, .slab other, .slab another]
      counters := { activeSlabs := 2, allocations := 1, frees := 1, retirements := 1 } }
  have ran : (Pool.empty 64).run [.newHead, .insert 0 5 0 16, .insert 0 6 64 32, .allocate 1,
      .free 1 0 0, .destroy 1, .insert 0 7 128 64, .unlink 1] =
        .ok ([.head 0, .inserted (some 1), .inserted (some 2),
          .allocated (some ⟨0x4000000000000005#64⟩), .freed false, .released ⟨5, 0, 64⟩,
          .inserted (some 1), .done], pool) := by
    decide +kernel
  have destroyed : pool.destroy 1 = .ok (⟨7, 128, 64⟩, after) := by
    decide +kernel
  have laterRan : after.run [.newHead, .insert 1 8 192 64] =
      .ok ([.head 1, .inserted (some 3)], final) := by
    decide +kernel
  have givenBack : runsGivenBack 64 [.newHead, .insert 0 5 0 16, .insert 0 6 64 32, .allocate 1,
      .free 1 0 0, .destroy 1, .insert 0 7 128 64, .unlink 1] = {⟨5, 0, 64⟩} := by
    decide +kernel
  rcases runs_conserved ran with ⟨conserved, returned⟩
  rcases returned 1 _ _ destroyed with ⟨given, absent⟩
  rw [givenBack] at conserved
  exact ⟨_, pool, _, after, _, final, ran, givenBack, conserved, destroyed, given, laterRan, rfl,
    absent _ _ final laterRan (by decide)⟩

end SlabRings
