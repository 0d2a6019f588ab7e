import Mathlib.Algebra.Order.BigOperators.Group.Finset
import SlabRings.Proofs.Pool.Accounts
import SlabRings.Proofs.Transitions

/-!
# Counting

Each operation changes the account of one slab at most, so what the slabs of a
pool weigh together changes as that slab does. The counter of active slabs is
such a total, and no counter rises by more than one in a step.
-/

namespace SlabRings

open Checked (bind_eq_ok_iff)

/-! ## Changes of the counters -/

namespace Accounts

def isActive (accounts : Accounts) (id : Nat) : Bool :=
  (accounts id).any (·.active)

def isSized (accounts : Accounts) (id : Nat) : Bool :=
  (accounts id).any (·.elementSize ≠ 0)

end Accounts

namespace Counters

variable {counters after : Counters}

private theorem add_then_eq_ok_iff {left right : Nat} {change : Nat → Counters} :
    (do return change (← Checked.add left right)) = .ok after ↔
      left + right < Checked.wordValues ∧ after = change (left + right) := by
  rw [bind_eq_ok_iff]
  constructor
  · intro ⟨total, added, changed⟩
    rcases Checked.add_eq_ok_iff.mp added with ⟨fits, rfl⟩
    cases changed
    exact ⟨fits, rfl⟩
  · rintro ⟨fits, rfl⟩
    exact ⟨_, Checked.add_eq_ok_iff.mpr ⟨fits, rfl⟩, rfl⟩

theorem activated_eq_ok_iff : counters.activated = .ok after ↔
    counters.activeSlabs + 1 < Checked.wordValues ∧
      after = { counters with activeSlabs := counters.activeSlabs + 1 } :=
  add_then_eq_ok_iff

theorem allocated_eq_ok_iff : counters.allocated = .ok after ↔
    counters.allocations + 1 < Checked.wordValues ∧
      after = { counters with allocations := counters.allocations + 1 } :=
  add_then_eq_ok_iff

theorem freed_eq_ok_iff : counters.freed = .ok after ↔
    counters.frees + 1 < Checked.wordValues ∧
      after = { counters with frees := counters.frees + 1 } :=
  add_then_eq_ok_iff

theorem deactivated_eq_ok_iff : counters.deactivated = .ok after ↔
    1 ≤ counters.activeSlabs ∧
      after = { counters with activeSlabs := counters.activeSlabs - 1 } := by
  rw [deactivated, bind_eq_ok_iff]
  constructor
  · intro ⟨fewer, subtracted, changed⟩
    rcases Checked.sub_eq_ok_iff.mp subtracted with ⟨some, rfl⟩
    cases changed
    exact ⟨some, rfl⟩
  · rintro ⟨some, rfl⟩
    exact ⟨_, Checked.sub_eq_ok_iff.mpr ⟨some, rfl⟩, rfl⟩

theorem retired_eq_ok_iff : counters.retired = .ok after ↔
    1 ≤ counters.activeSlabs ∧ counters.retirements + 1 < Checked.wordValues ∧
      after = { counters with
        activeSlabs := counters.activeSlabs - 1, retirements := counters.retirements + 1 } := by
  rw [retired, bind_eq_ok_iff]
  constructor
  · intro ⟨middle, fewer, changed⟩
    rcases deactivated_eq_ok_iff.mp fewer with ⟨some, rfl⟩
    rcases add_then_eq_ok_iff.mp changed with ⟨fits, rfl⟩
    exact ⟨some, fits, rfl⟩
  · rintro ⟨some, fits, rfl⟩
    exact ⟨_, deactivated_eq_ok_iff.mpr ⟨some, rfl⟩, add_then_eq_ok_iff.mpr ⟨fits, rfl⟩⟩

theorem activatedBy_eq_ok_iff {slab : Slab} : counters.activatedBy slab = .ok after ↔
    (slab.active = false → counters.activeSlabs + 1 < Checked.wordValues) ∧
      after = if slab.active then counters
        else { counters with activeSlabs := counters.activeSlabs + 1 } := by
  cases active : slab.active with
  | true =>
      rw [activatedBy, if_pos active]
      simp [eq_comm]
  | false =>
      rw [activatedBy, if_neg (by simp [active]), activated_eq_ok_iff]
      simp

theorem deactivatedBy_eq_ok_iff {slab : Slab} : counters.deactivatedBy slab = .ok after ↔
    (slab.active = true → 1 ≤ counters.activeSlabs) ∧
      after = if slab.active then { counters with activeSlabs := counters.activeSlabs - 1 }
        else counters := by
  cases active : slab.active with
  | true =>
      rw [deactivatedBy, if_pos active, deactivated_eq_ok_iff]
      simp
  | false =>
      rw [deactivatedBy, if_neg (by simp [active])]
      simp [eq_comm]

def advance (counters : Counters) (accounts : Accounts) (operation : Operation)
    (answer : Answer) : Counters :=
  match operation, answer with
  | .insert _ _ _ _, .inserted (some _) =>
      { counters with activeSlabs := counters.activeSlabs + 1 }
  | .configure id _ _, _ =>
      if accounts.isActive id then counters
      else { counters with activeSlabs := counters.activeSlabs + 1 }
  | .allocate id, .allocated (some _) =>
      if accounts.isSized id then { counters with allocations := counters.allocations + 1 }
      else counters
  | .free id _ _, .freed true =>
      if accounts.isSized id then { counters with frees := counters.frees + 1 } else counters
  | .free _ _ _, .freed false =>
      { counters with
        activeSlabs := counters.activeSlabs - 1
        frees := counters.frees + 1
        retirements := counters.retirements + 1 }
  | .destroy id, _ =>
      if accounts.isActive id then { counters with activeSlabs := counters.activeSlabs - 1 }
      else counters
  | _, _ => counters

structure Below (counters : Counters) (bound : Nat) : Prop where
  activeSlabs_le : counters.activeSlabs ≤ bound
  allocations_le : counters.allocations ≤ bound
  frees_le : counters.frees ≤ bound
  retirements_le : counters.retirements ≤ bound

theorem Below.mono {bound more : Nat} (below : counters.Below bound) (larger : bound ≤ more) :
    counters.Below more where
  activeSlabs_le := below.activeSlabs_le.trans larger
  allocations_le := below.allocations_le.trans larger
  frees_le := below.frees_le.trans larger
  retirements_le := below.retirements_le.trans larger

theorem Below.advance {bound : Nat} (below : counters.Below bound) (accounts : Accounts)
    (operation : Operation) (answer : Answer) :
    (counters.advance accounts operation answer).Below (bound + 1) := by
  have kept : counters.Below (bound + 1) := below.mono (Nat.le_succ bound)
  have activated : Below { counters with activeSlabs := counters.activeSlabs + 1 } (bound + 1) :=
    { kept with activeSlabs_le := Nat.succ_le_succ below.activeSlabs_le }
  have deactivated : Below { counters with activeSlabs := counters.activeSlabs - 1 } (bound + 1) :=
    { kept with activeSlabs_le := (Nat.sub_le _ 1).trans kept.activeSlabs_le }
  have freed : Below { counters with frees := counters.frees + 1 } (bound + 1) :=
    { kept with frees_le := Nat.succ_le_succ below.frees_le }
  cases operation with
  | newHead | link | unlink => exact kept
  | insert =>
      cases answer with
      | inserted id =>
          cases id with
          | none => exact kept
          | some id => exact activated
      | _ => exact kept
  | configure id =>
      change Below (if accounts.isActive id then _ else _) _
      split
      · exact kept
      · exact activated
  | allocate id =>
      cases answer with
      | allocated handle =>
          cases handle with
          | none => exact kept
          | some handle =>
              change Below (if accounts.isSized id then _ else _) _
              split
              · exact { kept with allocations_le := Nat.succ_le_succ below.allocations_le }
              · exact kept
      | _ => exact kept
  | free id =>
      cases answer with
      | freed resident =>
          cases resident with
          | true =>
              change Below (if accounts.isSized id then _ else _) _
              split
              · exact freed
              · exact kept
          | false =>
              exact {
                activeSlabs_le := deactivated.activeSlabs_le
                allocations_le := kept.allocations_le
                frees_le := freed.frees_le
                retirements_le := Nat.succ_le_succ below.retirements_le }
      | _ => exact kept
  | destroy id =>
      change Below (if accounts.isActive id then _ else _) _
      split
      · exact deactivated
      · exact kept

end Counters

/-! ## Totals -/

namespace Accounts

variable {Weight : Type} [AddCommMonoid Weight]

def total (weigh : Slab → Weight) (limit : Nat) (accounts : Accounts) : Weight :=
  ∑ id ∈ Finset.range limit, (accounts id).elim 0 weigh

theorem total_of_le (weigh : Slab → Weight) {accounts : Accounts} {limit larger : Nat}
    (absent : ∀ id, limit ≤ id → accounts id = none) (more : limit ≤ larger) :
    accounts.total weigh larger = accounts.total weigh limit := by
  symm
  apply Finset.sum_subset (Finset.range_subset_range.mpr more)
  intro id _ beyond
  rw [absent id (Nat.le_of_not_lt fun below => beyond (Finset.mem_range.mpr below))]
  rfl

theorem total_add_of_agree (weigh : Slab → Weight) {accounts settled : Accounts} {id limit : Nat}
    (inRange : id < limit) (agree : ∀ other, other ≠ id → settled other = accounts other) :
    settled.total weigh limit + (accounts id).elim 0 weigh =
      accounts.total weigh limit + (settled id).elim 0 weigh := by
  have member := Finset.mem_range.mpr inRange
  have others : ∑ other ∈ (Finset.range limit).erase id, (settled other).elim 0 weigh =
      ∑ other ∈ (Finset.range limit).erase id, (accounts other).elim 0 weigh := by
    apply Finset.sum_congr rfl
    intro other remains
    rw [agree other (Finset.ne_of_mem_erase remains)]
  unfold total
  rw [← Finset.add_sum_erase _ _ member, others, ← Finset.add_sum_erase _ _ member,
    add_right_comm, add_comm ((settled id).elim 0 weigh), add_right_comm]

end Accounts

namespace Pool

def total {Weight : Type} [AddCommMonoid Weight] (weigh : Slab → Weight) (pool : Pool) : Weight :=
  Accounts.total weigh pool.slots.size pool.account

theorem account_eq_none_of_size_le {pool : Pool} {id : Nat} (beyond : pool.slots.size ≤ id) :
    pool.account id = none := by
  simp [account, beyond]

theorem total_add_of_agree {Weight : Type} [AddCommMonoid Weight] (weigh : Slab → Weight)
    {before after : Pool} {id : Nat}
    (agree : ∀ other, other ≠ id → after.account other = before.account other) :
    after.total weigh + (before.account id).elim 0 weigh =
      before.total weigh + (after.account id).elim 0 weigh := by
  let limit := max (id + 1) (max before.slots.size after.slots.size)
  have total_eq (pool : Pool) (fits : pool.slots.size ≤ limit) :
      Accounts.total weigh limit pool.account = pool.total weigh :=
    Accounts.total_of_le weigh (fun _ beyond => account_eq_none_of_size_le beyond) fits
  rw [← total_eq before (by omega), ← total_eq after (by omega)]
  exact Accounts.total_add_of_agree weigh (by omega) agree

theorem le_total (weigh : Slab → Nat) (pool : Pool) (id : Nat) :
    (pool.account id).elim 0 weigh ≤ pool.total weigh := by
  by_cases inTable : id < pool.slots.size
  · exact Finset.single_le_sum (f := fun id => (pool.account id).elim 0 weigh)
      (fun _ _ => Nat.zero_le _) (Finset.mem_range.mpr inTable)
  · rw [account_eq_none_of_size_le (Nat.le_of_not_lt inTable)]
    exact Nat.zero_le _

/-! ## The counters of a pool -/

theorem isActive_account {pool : Pool} {id : Nat} {slab : Slab} (live : pool.slab id = .ok slab) :
    Accounts.isActive pool.account id = slab.active := by
  rw [Accounts.isActive, account_of_slab live]
  rfl

theorem isSized_account {pool : Pool} {id : Nat} {slab : Slab} (live : pool.slab id = .ok slab) :
    Accounts.isSized pool.account id = decide (slab.elementSize ≠ 0) := by
  rw [Accounts.isSized, account_of_slab live]
  rfl

theorem counters_of_bare_eq {before after : Pool} (same : after.bare = before.bare) :
    after.counters = before.counters :=
  (congrArg Pool.counters same : after.bare.counters = before.bare.counters)

private theorem counters_configure {pool after : Pool} {id head : Nat} {elementSize : UInt64}
    (configured : pool.configure id head elementSize = .ok after) :
    after.counters = if Accounts.isActive pool.account id then pool.counters
      else { pool.counters with activeSlabs := pool.counters.activeSlabs + 1 } := by
  rcases configure_eq_ok_iff.mp configured with ⟨slab, counters, live, counted, linked⟩
  rw [counters_of_bare_eq (bare_of_link linked), isActive_account live]
  exact (Counters.activatedBy_eq_ok_iff.mp counted).2

theorem Effect.counters {pool after : Pool} {operation : Operation} {answer : Answer}
    (effect : Effect pool operation answer after) :
    after.counters = pool.counters.advance pool.account operation answer := by
  cases effect with
  | headMade claimed =>
      rcases writes_claim claimed with ⟨_, _, _, same, _⟩
      exact same
  | sizeRefused | nothingGiven => rfl
  | inserted _ claimed configured =>
      rcases writes_claim claimed with ⟨writes, _, _, same, _⟩
      rw [counters_configure configured, Accounts.isActive, writes.account,
        Function.update_self, same]
      rfl
  | configured configured => exact counters_configure configured
  | unsizedGiven live unsized _ | unsizedReturned live unsized =>
      simp [Counters.advance, isSized_account live, unsized]
  | given live serves _ _ counted =>
      simpa [Counters.advance, isSized_account live, serves.1] using
        (Counters.allocated_eq_ok_iff.mp counted).2
  | lastGiven live serves _ _ unlinked counted =>
      rw [counters_of_bare_eq (bare_of_unlink unlinked)] at counted
      simpa [Counters.advance, isSized_account live, serves.1] using
        (Counters.allocated_eq_ok_iff.mp counted).2
  | firstReturned live sized _ _ counted linked =>
      rw [counters_of_bare_eq (bare_of_link linked)]
      simpa [Counters.advance, isSized_account live, sized] using
        (Counters.freed_eq_ok_iff.mp counted).2
  | returned live sized _ _ _ counted =>
      simpa [Counters.advance, isSized_account live, sized] using
        (Counters.freed_eq_ok_iff.mp counted).2
  | retired live _ _ _ _ _ countedReturn unlinked countedRetirement =>
      rcases Counters.freed_eq_ok_iff.mp countedReturn with ⟨_, rfl⟩
      rw [counters_of_bare_eq (bare_of_unlink unlinked)] at countedRetirement
      exact (Counters.retired_eq_ok_iff.mp countedRetirement).2.2
  | linked linked =>
      exact counters_of_bare_eq (bare_of_link linked)
  | unlinked unlinked =>
      exact counters_of_bare_eq (bare_of_unlink unlinked)
  | destroyed live _ counted =>
      simpa [Counters.advance, isActive_account live] using
        (Counters.deactivatedBy_eq_ok_iff.mp counted).2

end Pool

theorem Pool.below_of_run {pool final : Pool} {operations : List Operation}
    {answers : List Answer} {bound : Nat} (below : pool.counters.Below bound)
    (ran : pool.run operations = .ok (answers, final)) :
    final.counters.Below (bound + operations.length) := by
  induction operations generalizing pool answers bound with
  | nil =>
      cases ran
      exact below
  | cons operation rest induction =>
      rcases run_cons_eq_ok_iff.mp ran with ⟨answer, middle, others, applied, restRan, _⟩
      have effect := apply_eq_ok_iff.mp applied
      have once : middle.counters.Below (bound + 1) := by
        rw [effect.counters]
        exact below.advance _ _ _
      have later := induction once restRan
      rwa [Nat.add_right_comm, Nat.add_assoc] at later

theorem below_length {pageSize : UInt64} {operations : List Operation} {answers : List Answer}
    {pool : Pool} (ran : (Pool.empty pageSize).run operations = .ok (answers, pool)) :
    pool.counters.Below operations.length := by
  have start : (Pool.empty pageSize).counters.Below 0 :=
    ⟨Nat.le_refl 0, Nat.le_refl 0, Nat.le_refl 0, Nat.le_refl 0⟩
  simpa using Pool.below_of_run start ran

/-! ## Active slabs -/

def Slab.inService (slab : Slab) : Nat :=
  if slab.active then 1 else 0

theorem Accounts.Step.activeSlabs {pageSize : UInt64} {accounts settled : Accounts}
    {operation : Operation} {answer : Answer} {counters : Counters}
    (step : Step pageSize accounts operation answer settled) (sound : accounts.Sound pageSize)
    (counted : ∀ id, (accounts id).elim 0 Slab.inService ≤ counters.activeSlabs) :
    ∃ id, (∀ other, other ≠ id → settled other = accounts other) ∧
      (counters.advance accounts operation answer).activeSlabs +
          (accounts id).elim 0 Slab.inService =
        counters.activeSlabs + (settled id).elim 0 Slab.inService := by
  have agree (id : Nat) (account : Option Slab) (other : Nat) (different : other ≠ id) :
      accounts.set id account other = accounts other :=
    set_other accounts different account
  cases step with
  | headMade | sizeRefused | nothingGiven | linked | unlinked => exact ⟨0, fun _ _ => rfl, rfl⟩
  | @inserted _ id _ _ _ _ fresh =>
      exact ⟨id, agree id _, by simp [Counters.advance, fresh, Slab.divide, Slab.inService]⟩
  | @configured id _ _ slab live =>
      refine ⟨id, agree id _, ?_⟩
      cases active : slab.active <;>
        simp [Counters.advance, isActive, live, active, Slab.divide, Slab.inService]
  | @unsizedGiven id slab _ live unsized _ | @unsizedReturned id _ _ slab live unsized =>
      exact ⟨0, fun _ _ => rfl, by simp [Counters.advance, isSized, live, unsized]⟩
  | @given id slab taken _ live serves takes =>
      refine ⟨id, agree id _, ?_⟩
      rcases Slab.take_eq_ok_iff.mp (Slab.take_of_takeHandle takes).1 with ⟨_, _, _, _, rfl⟩
      simp [Counters.advance, isSized, live, serves.1, Slab.inService]
  | @returned id _ _ slab released live sized releases =>
      refine ⟨id, agree id _, ?_⟩
      rcases Slab.release_eq_ok_iff.mp releases with ⟨_, _, _, _, rfl⟩
      simp [Counters.advance, isSized, live, sized, Slab.inService]
  | @retired id _ _ slab released live _ releases _ _ =>
      refine ⟨id, agree id _, ?_⟩
      have active := (sound id slab live).1.active_of_release releases
      have some : 1 ≤ counters.activeSlabs := by
        simpa [live, Slab.inService, active] using counted id
      simp [Counters.advance, live, active, Slab.retire, Slab.inService, Nat.sub_add_cancel some]
  | @destroyed id slab live =>
      refine ⟨id, agree id _, ?_⟩
      cases active : slab.active with
      | true =>
          have some : 1 ≤ counters.activeSlabs := by
            simpa [live, Slab.inService, active] using counted id
          simp [Counters.advance, isActive, live, active, Slab.inService,
            Nat.sub_add_cancel some]
      | false => simp [Counters.advance, isActive, live, active, Slab.inService]

theorem Pool.Effect.activeSlabs {pageSize : UInt64} {pool after : Pool} {operation : Operation}
    {answer : Answer} (effect : Effect pool operation answer after)
    (sound : Accounts.Sound pageSize pool.account) (size : pool.pageSize = pageSize)
    (counted : pool.counters.activeSlabs = pool.total Slab.inService) :
    after.counters.activeSlabs = after.total Slab.inService := by
  have step := effect.accounts
  rw [size] at step
  have enough (id : Nat) :
      (pool.account id).elim 0 Slab.inService ≤ pool.counters.activeSlabs := by
    rw [counted]
    exact pool.le_total Slab.inService id
  rcases step.activeSlabs sound enough with ⟨id, agree, changed⟩
  have total := total_add_of_agree Slab.inService agree
  rw [effect.counters]
  omega

theorem Reachable.activeSlabs_eq_total {pageSize : UInt64} {pool : Pool}
    (reachable : Reachable pageSize pool) :
    pool.counters.activeSlabs = pool.total Slab.inService := by
  induction reachable with
  | empty => rfl
  | step earlier applied counted =>
      have effect := Pool.apply_eq_ok_iff.mp applied
      exact effect.activeSlabs earlier.accounts_sound earlier.pageSize_eq counted

theorem Pool.one_le_activeSlabs_of_counted {pool : Pool}
    (counted : pool.counters.activeSlabs = pool.total Slab.inService) {id : Nat} {slab : Slab}
    (live : pool.slab id = .ok slab) (active : slab.active = true) :
    1 ≤ pool.counters.activeSlabs := by
  have one := pool.le_total Slab.inService id
  rw [account_of_slab live, ← counted] at one
  simpa [Slab.inService, Slab.bare, active] using one

end SlabRings
