import SlabRings.Proofs.Pool.Accounts
import SlabRings.Proofs.Transitions

/-!
# Out of service

A slab that was retired still counts all its elements as free, and can be put on
a ring by hand. It serves nobody all the same: it hands nothing out, and nothing
can come back to it. Its account stays as retirement left it until the run is
divided anew or the slab is destroyed, and only the former brings it back.
-/

namespace SlabRings

def Operation.Reclaims (id : Nat) : Operation → Prop
  | .configure other _ _ => other = id
  | .destroy other => other = id
  | _ => False

/-! ## Accounts that no step touches -/

structure Slab.Retired (slab : Slab) : Prop where
  sized : slab.elementSize ≠ 0
  inactive : slab.active = false
  balanced : slab.Balanced

namespace Slab.Retired

variable {slab : Slab}

theorem not_canServe (retired : slab.Retired) : ¬slab.CanServe := by
  intro serves
  have active := serves.2.2
  rw [retired.inactive] at active
  cases active

theorem all_free (retired : slab.Retired) : slab.available = slab.capacity :=
  retired.balanced.retired_free retired.inactive

theorem not_mem (retired : slab.Retired) (element : Nat) : element ∉ slab.occupancy :=
  retired.balanced.not_mem_of_all_free retired.all_free element

theorem not_release (retired : slab.Retired) {element : Nat} {released : Slab} :
    slab.release element ≠ .ok released := by
  intro releases
  have active := retired.balanced.active_of_release releases
  rw [retired.inactive] at active
  cases active

end Slab.Retired

theorem Slab.retired_bare {slab : Slab} : slab.bare.Retired ↔ slab.Retired :=
  ⟨fun ⟨sized, inactive, balanced⟩ => ⟨sized, inactive, balanced_bare.mp balanced⟩,
    fun ⟨sized, inactive, balanced⟩ => ⟨sized, inactive, balanced_bare.mpr balanced⟩⟩

theorem Slab.Balanced.retired_of_release {slab released : Slab} {element : Nat}
    (balanced : slab.Balanced) (sized : slab.elementSize ≠ 0)
    (releases : slab.release element = .ok released)
    (allFree : released.available = released.capacity) : released.retire.Retired where
  sized := by
    rcases release_eq_ok_iff.mp releases with ⟨_, _, _, _, rfl⟩
    exact sized
  inactive := rfl
  balanced := (balanced.of_release releases).retire allFree

namespace Accounts.Step

variable {pageSize : UInt64} {accounts settled : Accounts} {operation : Operation}
  {answer : Answer} {id : Nat} {slab : Slab}

theorem kept_of_retired (step : Step pageSize accounts operation answer settled)
    (live : accounts id = some slab) (retired : slab.Retired)
    (spared : ¬operation.Reclaims id) : settled id = some slab := by
  cases step with
  | headMade | sizeRefused | unsizedGiven | nothingGiven | unsizedReturned | linked | unlinked =>
      exact live
  | @inserted _ other _ _ _ _ fresh =>
      have different : id ≠ other := by
        rintro rfl
        rw [fresh] at live
        cases live
      rw [set_other _ different, live]
  | configured _ | destroyed _ =>
      have different : id ≠ _ := fun same => spared same.symm
      rw [set_other _ different, live]
  -- What is taken or comes back belongs to a slab in service, so to another one.
  | @given other _ _ _ taken serves _ =>
      have different : id ≠ other := by
        rintro rfl
        cases live.symm.trans taken
        exact retired.not_canServe serves
      rw [set_other _ different, live]
  | @returned other _ _ _ _ taken _ releases | @retired other _ _ _ _ taken _ releases _ _ =>
      have different : id ≠ other := by
        rintro rfl
        cases live.symm.trans taken
        exact retired.not_release releases
      rw [set_other _ different, live]

theorem active_iff_of_retired (step : Step pageSize accounts operation answer settled)
    (live : accounts id = some slab) (retired : slab.Retired) :
    (∃ other, settled id = some other ∧ other.active = true) ↔
      ∃ head elementSize, operation = .configure id head elementSize := by
  constructor
  · intro ⟨other, present, active⟩
    by_cases reclaims : operation.Reclaims id
    · cases step with
      | configured _ =>
          cases reclaims
          exact ⟨_, _, rfl⟩
      | destroyed _ =>
          cases reclaims
          rw [set_same] at present
          cases present
      | _ => exact absurd reclaims (fun impossible => impossible)
    · rw [step.kept_of_retired live retired reclaims] at present
      cases present
      rw [retired.inactive] at active
      cases active
  · rintro ⟨head, elementSize, rfl⟩
    cases step with
    | configured _ => exact ⟨_, set_same _ _ _, rfl⟩

end Accounts.Step

theorem Accounts.Step.active_of_unsized {pageSize : UInt64} {accounts settled : Accounts}
    {operation : Operation} {answer : Answer}
    (serving : ∀ id slab, accounts id = some slab → slab.elementSize = 0 → slab.active = true)
    (step : Step pageSize accounts operation answer settled) :
    ∀ id slab, settled id = some slab → slab.elementSize = 0 → slab.active = true := by
  cases step with
  | headMade | sizeRefused | unsizedGiven | nothingGiven | unsizedReturned | linked | unlinked =>
      exact serving
  | inserted _ _ | configured _ => exact forall_set serving _ fun _ => rfl
  | given _ serves takes =>
      rcases Slab.take_eq_ok_iff.mp (Slab.take_of_takeHandle takes).1 with ⟨_, _, _, _, rfl⟩
      exact forall_set serving _ fun unsized => absurd unsized serves.1
  | returned _ sized releases | retired _ sized releases _ _ =>
      rcases Slab.release_eq_ok_iff.mp releases with ⟨_, _, _, _, rfl⟩
      exact forall_set serving _ fun unsized => absurd unsized sized
  | destroyed _ => exact forall_set_none serving _

theorem Reachable.active_of_unsized {pageSize : UInt64} {pool : Pool}
    (reachable : Reachable pageSize pool) {id : Nat} {slab : Slab}
    (live : pool.slab id = .ok slab) (unsized : slab.elementSize = 0) : slab.active = true := by
  have serving : ∀ id slab, pool.account id = some slab → slab.elementSize = 0 →
      slab.active = true := by
    clear live unsized
    induction reachable with
    | empty =>
        intro id slab present
        cases present
    | step _ applied induction =>
        exact (Pool.apply_eq_ok_iff.mp applied).accounts.active_of_unsized induction
  exact serving id slab.bare (Pool.account_of_slab live) unsized

theorem Reachable.retired {pageSize : UInt64} {pool : Pool} (reachable : Reachable pageSize pool)
    {id : Nat} {slab : Slab} (live : pool.slab id = .ok slab) (inactive : slab.active = false) :
    slab.Retired where
  sized := by
    intro unsized
    have active := reachable.active_of_unsized live unsized
    rw [inactive] at active
    cases active
  inactive := inactive
  balanced := (reachable.balanced live).1

/-! ## What a retired slab shows -/

namespace Pool

/-- The slab is out of service: all of it is free, none of it is handed out, nothing comes back to
it, and its summary says so. -/
structure OutOfService (pool : Pool) (id : Nat) (slab : Slab) : Prop where
  live : pool.slab id = .ok slab
  inactive : slab.active = false
  all_free : slab.available = slab.capacity
  not_mem (element : Nat) : element ∉ slab.occupancy
  allocate_eq : pool.allocate id = .ok (none, pool)
  free_eq (head element : Nat) : pool.free id head element =
    .error (if element < slab.capacity then .notAllocated element
      else .beyondCapacity element slab.run.coordinate)
  summary_eq : slab.summary = .ok s!"({slab.run.coordinate.toNat}: not in use)"

theorem free_eq_of_not_mem {pool : Pool} {id element : Nat} {slab : Slab}
    (live : pool.slab id = .ok slab) (sized : slab.elementSize ≠ 0) (balanced : slab.Balanced)
    (absent : element ∉ slab.occupancy) (head : Nat) :
    pool.free id head element = .error (if element < slab.capacity then .notAllocated element
      else .beyondCapacity element slab.run.coordinate) := by
  rw [free, live]
  change (if slab.elementSize = 0 then _ else _) = _
  rw [if_neg sized, balanced.release_eq_error absent]
  rfl

theorem mem_of_free {pool after : Pool} {id head element : Nat} {slab : Slab} {resident : Bool}
    (live : pool.slab id = .ok slab) (sized : slab.elementSize ≠ 0) (balanced : slab.Balanced)
    (freed : pool.free id head element = .ok (resident, after)) : element ∈ slab.occupancy := by
  by_contra absent
  rw [free_eq_of_not_mem live sized balanced absent] at freed
  cases freed

theorem outOfService {pool : Pool} {id : Nat} {slab : Slab} (live : pool.slab id = .ok slab)
    (retired : slab.Retired) : pool.OutOfService id slab where
  live := live
  inactive := retired.inactive
  all_free := retired.all_free
  not_mem := retired.not_mem
  allocate_eq :=
    allocate_eq_ok_iff.mpr (.nothingGiven live retired.sized retired.not_canServe)
  free_eq head element :=
    free_eq_of_not_mem live retired.sized retired.balanced (retired.not_mem element) head
  summary_eq := by simp [Slab.summary, retired.inactive]

theorem retired_of_free {pageSize : UInt64} {before after : Pool} {id head element : Nat}
    (reachable : Reachable pageSize before)
    (freed : before.free id head element = .ok (false, after)) :
    ∃ slab, after.slab id = .ok slab ∧ slab.Retired := by
  cases free_eq_ok_iff.mp freed with
  | @retired _ _ _ slab released _ counters middle live sized releases _ allFree _ _ unlinked _ =>
      have out := (reachable.balanced live).1.retired_of_release sized releases allFree
      have present : middle.account id = some released.retire.bare := by
        rw [account_of_book_unlink live unlinked, Accounts.set_same]
      rcases account_eq_some_iff.mp present with ⟨left, leftLive, same⟩
      rw [← Slab.retired_bare, ← same, Slab.retired_bare] at out
      exact ⟨left, leftLive, out⟩

theorem account_of_run {retired pool : Pool} {id : Nat} {slab : Slab} {operations : List Operation}
    {answers : List Answer} (live : retired.account id = some slab) (out : slab.Retired)
    (spared : ∀ operation ∈ operations, ¬operation.Reclaims id)
    (ran : retired.run operations = .ok (answers, pool)) : pool.account id = some slab :=
  kept_of (fun operation => ¬operation.Reclaims id) (fun pool => pool.account id = some slab)
    (fun _ _ _ _ spared live effect => effect.accounts.kept_of_retired live out spared)
    spared live ran

end Pool

/-- A slab that was retired stays out of service, and as retirement left it, until its run is
divided anew or given back. Of single operations, only dividing it brings it back. -/
theorem retired_stays_out {pageSize : UInt64} {before retired pool : Pool} {id head element : Nat}
    {operations : List Operation} {answers : List Answer} (reachable : Reachable pageSize before)
    (freed : before.free id head element = .ok (false, retired))
    (spared : ∀ operation ∈ operations, ¬operation.Reclaims id)
    (ran : retired.run operations = .ok (answers, pool)) :
    ∃ slab, pool.OutOfService id slab ∧
      (∃ left, retired.slab id = .ok left ∧ slab.bare = left.bare) ∧
      ∀ (operation : Operation) (answer : Answer) (after : Pool),
        operation.apply pool = .ok (answer, after) →
          ((∃ other, after.slab id = .ok other ∧ other.active = true) ↔
            ∃ head elementSize, operation = .configure id head elementSize) := by
  rcases Pool.retired_of_free reachable freed with ⟨left, leftLive, leftOut⟩
  have bareOut := Slab.retired_bare.mpr leftOut
  have kept := Pool.account_of_run (Pool.account_of_slab leftLive) bareOut spared ran
  rcases Pool.account_eq_some_iff.mp kept with ⟨slab, live, same⟩
  have out : slab.Retired := by rwa [← Slab.retired_bare, same]
  refine ⟨slab, Pool.outOfService live out, ⟨left, leftLive, same⟩, ?_⟩
  intro operation answer after applied
  have step := (Pool.apply_eq_ok_iff.mp applied).accounts
  rw [← step.active_iff_of_retired kept bareOut]
  constructor
  · intro ⟨other, otherLive, active⟩
    exact ⟨other.bare, Pool.account_of_slab otherLive, active⟩
  · intro ⟨account, present, active⟩
    rcases Pool.account_eq_some_iff.mp present with ⟨other, otherLive, rfl⟩
    exact ⟨other, otherLive, active⟩

theorem retired_stays_out_when_linked_by_hand :
    ∃ answers before retired others pool slab,
      (Pool.empty 32).run [.newHead, .insert 0 5 0 16, .insert 0 6 32 16, .allocate 1] =
        .ok (answers, before) ∧
      before.free 1 0 0 = .ok (false, retired) ∧
      retired.run [.link 1 0, .allocate 1, .allocate 2, .unlink 1, .link 1 0] =
        .ok (others, pool) ∧
      (pool.ring 0).toOption = some [1, 2] ∧ pool.OutOfService 1 slab ∧
      slab.summary = .ok "(5: not in use)" ∧
      pool.free 1 0 0 = .error (.notAllocated 0) ∧
      pool.free 1 0 2 = .error (.beyondCapacity 2 5) := by
  let used : Slab :=
    { run := ⟨5, 0, 32⟩
      elementSize := 16
      capacity := 2
      available := 1
      active := true
      occupancy := ⟨#[1]⟩
      prev := some 2
      next := some 0 }
  let fresh : Slab :=
    { run := ⟨6, 32, 32⟩
      elementSize := 16
      capacity := 2
      available := 2
      hint := some 0
      active := true
      occupancy := ⟨#[0]⟩
      prev := some 0
      next := some 1 }
  let out : Slab :=
    { used with
      available := 2, hint := some 0, active := false, occupancy := ⟨#[0]⟩
      prev := none, next := none }
  let before : Pool :=
    { pageSize := 32
      slots := #[.head ⟨1, 2⟩, .slab used, .slab fresh]
      counters := { activeSlabs := 2, allocations := 1 } }
  let retired : Pool :=
    { pageSize := 32
      slots := #[.head ⟨2, 2⟩, .slab out, .slab { fresh with next := some 0 }]
      counters := { activeSlabs := 1, allocations := 1, frees := 1, retirements := 1 } }
  let linked : Slab := { out with prev := some 0, next := some 2 }
  let serving : Slab :=
    { fresh with
      available := 1, hint := none, occupancy := ⟨#[1]⟩, prev := some 1, next := some 0 }
  let pool : Pool :=
    { pageSize := 32
      slots := #[.head ⟨2, 1⟩, .slab linked, .slab serving]
      counters := { activeSlabs := 1, allocations := 2, frees := 1, retirements := 1 } }
  have reached : (Pool.empty 32).run [.newHead, .insert 0 5 0 16, .insert 0 6 32 16,
      .allocate 1] = .ok ([.head 0, .inserted (some 1), .inserted (some 2),
        .allocated (some ⟨0x4000000000000005#64⟩)], before) := by
    decide +kernel
  have freed : before.free 1 0 0 = .ok (false, retired) := by decide +kernel
  have ran : retired.run [.link 1 0, .allocate 1, .allocate 2, .unlink 1, .link 1 0] =
      .ok ([.done, .allocated none, .allocated (some ⟨0x4000000000000006#64⟩), .done, .done],
        pool) := by
    decide +kernel
  have spared : ∀ operation ∈ [Operation.link 1 0, .allocate 1, .allocate 2, .unlink 1,
      .link 1 0], ¬operation.Reclaims 1 := by
    simp [Operation.Reclaims]
  rcases retired_stays_out (Reachable.empty.run reached) freed spared ran with ⟨slab, service, _⟩
  have same : slab = linked := Except.ok.inj service.live.symm
  refine ⟨_, before, retired, _, pool, slab, reached, freed, ran, by decide +kernel, service, ?_⟩
  subst same
  exact ⟨service.summary_eq.trans (by decide +kernel), service.free_eq 0 0, service.free_eq 0 2⟩

end SlabRings
