import Mathlib.Algebra.GroupWithZero.Nat
import SlabRings.Proofs.Pool.Counting
import SlabRings.Proofs.Transitions

/-!
# Ledgers

A history adds to what a pool is worth and takes from it, one transition at a
time. Where every transition balances, the history does. What the slabs of a
pool are worth changes in a step as the one slab changes that the step is about.
-/

namespace SlabRings

/-! ## The slabs of a pool -/

def Slot.slab? : Slot → Option Slab
  | slab content => some content
  | head _ | vacant _ => none

namespace Pool

def slabs (pool : Pool) : List Slab :=
  pool.slots.toList.filterMap Slot.slab?

section Totals

variable {Weight : Type} [AddCommMonoid Weight]

private theorem sum_range_getElem? (weigh : Slot → Weight) (slots : List Slot) :
    ∑ id ∈ Finset.range slots.length, slots[id]?.elim 0 weigh = (slots.map weigh).sum := by
  induction slots with
  | nil => rfl
  | cons slot rest induction =>
      rw [List.length_cons, Finset.sum_range_succ', List.map_cons, List.sum_cons, ← induction,
        add_comm]
      rfl

private theorem sum_map_slab? (weigh : Slab → Weight) (slots : List Slot) :
    (slots.map fun slot => slot.slab?.elim 0 weigh).sum =
      ((slots.filterMap Slot.slab?).map weigh).sum := by
  induction slots with
  | nil => rfl
  | cons slot rest induction =>
      rw [List.map_cons, List.sum_cons, induction]
      cases slot with
      | slab content => rfl
      | head _ => exact zero_add _
      | vacant _ => exact zero_add _

theorem total_eq_sum (weigh : Slab → Weight) (pool : Pool)
    (sameBare : ∀ slab : Slab, weigh slab.bare = weigh slab) :
    pool.total weigh = (pool.slabs.map weigh).sum := by
  have weighed (id : Nat) : (pool.account id).elim 0 weigh =
      pool.slots.toList[id]?.elim 0 fun slot => slot.slab?.elim 0 weigh := by
    rw [account, Array.getElem?_toList]
    rcases pool.slots[id]? with _ | _ | content | _
    · rfl
    · rfl
    · exact sameBare content
    · rfl
  rw [slabs, ← sum_map_slab?, ← sum_range_getElem?, Array.length_toList, total, Accounts.total]
  exact Finset.sum_congr rfl fun id _ => weighed id

end Totals

end Pool

/-! ## Changes of one account -/

namespace Accounts

variable {Weight : Type} [AddCommMonoid Weight]

/-- One account at most changes, and what it weighs changes by the gain and the loss. -/
def Changes (weigh : Slab → Weight) (gain loss : Weight) (accounts settled : Accounts) : Prop :=
  ∃ id, (∀ other, other ≠ id → settled other = accounts other) ∧
    (settled id).elim 0 weigh + loss = (accounts id).elim 0 weigh + gain

namespace Changes

variable {weigh : Slab → Weight} {gain loss : Weight} {accounts : Accounts} {id : Nat}
  {old new : Slab}

theorem keep (balanced : loss = gain) : Changes weigh gain loss accounts accounts :=
  ⟨0, fun _ _ => rfl, congrArg _ balanced⟩

theorem enter (fresh : accounts id = none) (entered : weigh new + loss = gain) :
    Changes weigh gain loss accounts (accounts.set id (some new)) := by
  refine ⟨id, fun _ different => set_other accounts different _, ?_⟩
  rw [set_same, fresh]
  exact entered.trans (zero_add gain).symm

theorem rewrite (live : accounts id = some old) (changed : weigh new + loss = weigh old + gain) :
    Changes weigh gain loss accounts (accounts.set id (some new)) := by
  refine ⟨id, fun _ different => set_other accounts different _, ?_⟩
  rw [set_same, live]
  exact changed

theorem leave (live : accounts id = some old) (left : loss = weigh old + gain) :
    Changes weigh gain loss accounts (accounts.set id none) := by
  refine ⟨id, fun _ different => set_other accounts different _, ?_⟩
  rw [set_same, live]
  exact (zero_add loss).trans left

end Changes

end Accounts

namespace Pool

theorem total_add_of_changes {Weight : Type} [AddCancelCommMonoid Weight] {weigh : Slab → Weight}
    {before after : Pool} {gain loss : Weight}
    (changes : Accounts.Changes weigh gain loss before.account after.account) :
    after.total weigh + loss = before.total weigh + gain := by
  rcases changes with ⟨id, agree, changed⟩
  have moved := total_add_of_agree weigh agree
  apply add_right_cancel (b := (before.account id).elim 0 weigh)
  calc
    after.total weigh + loss + (before.account id).elim 0 weigh
      = before.total weigh + ((after.account id).elim 0 weigh + loss) := by
        rw [add_right_comm, moved, add_assoc]
    _ = before.total weigh + gain + (before.account id).elim 0 weigh := by
        rw [changed, add_assoc, add_comm gain]

/-! ## Histories that balance -/

/-- Where each transition balances gain and loss, the gains and losses of a history account for
what the pool is worth at its end. -/
theorem ledger {pageSize : UInt64} {Worth : Type} [AddCommMonoid Worth] (worth : Pool → Worth)
    (gain loss : Transition → Worth)
    (balances : ∀ before operation answer after, Reachable pageSize before →
      Effect before operation answer after →
        worth after + loss ⟨before, operation, answer, after⟩ =
          worth before + gain ⟨before, operation, answer, after⟩)
    {pool final : Pool} {operations : List Operation} {answers : List Answer}
    (reachable : Reachable pageSize pool) (ran : pool.run operations = .ok (answers, final)) :
    worth final + ((pool.transitions operations).map loss).sum =
      worth pool + ((pool.transitions operations).map gain).sum := by
  induction operations generalizing pool answers with
  | nil =>
      cases ran
      rfl
  | cons operation rest induction =>
      rcases run_cons_eq_ok_iff.mp ran with ⟨answer, after, others, applied, ran, _⟩
      have first := balances _ _ _ _ reachable (apply_eq_ok_iff.mp applied)
      have later := induction (reachable.step applied) ran
      rw [transitions_cons applied, List.map_cons, List.map_cons, List.sum_cons, List.sum_cons,
        add_left_comm, later, ← add_assoc, add_comm _ (worth after), first, add_assoc]

theorem tally_eq_sum {pageSize : UInt64} (count : Counters → Nat) (gain : Transition → Nat)
    (counts : ∀ before operation answer after, Effect before operation answer after →
      count after.counters = count before.counters + gain ⟨before, operation, answer, after⟩)
    (fromZero : count {} = 0) {final : Pool} {operations : List Operation} {answers : List Answer}
    (ran : (empty pageSize).run operations = .ok (answers, final)) :
    count final.counters = (((empty pageSize).transitions operations).map gain).sum := by
  have balanced := ledger (fun pool => count pool.counters) gain (fun _ => 0)
    (fun before operation answer after _ effect => counts before operation answer after effect)
    .empty ran
  have initially : count (empty pageSize).counters = 0 := fromZero
  simpa [initially] using balanced

theorem map_answer_transitions {pool final : Pool} {operations : List Operation}
    {answers : List Answer} (ran : pool.run operations = .ok (answers, final)) :
    (pool.transitions operations).map Transition.answer = answers := by
  induction operations generalizing pool answers with
  | nil =>
      cases ran
      rfl
  | cons operation rest induction =>
      rcases run_cons_eq_ok_iff.mp ran with ⟨answer, after, others, applied, restRan, rfl⟩
      rw [transitions_cons applied, List.map_cons, induction restRan]

end Pool

end SlabRings
