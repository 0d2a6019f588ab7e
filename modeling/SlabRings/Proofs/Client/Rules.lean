import SlabRings.Proofs.Offers
import SlabRings.Proofs.Pool.Counting
import SlabRings.Proofs.Pool.Vacancy

/-!
# The rules for clients

A client that keeps the rules refers to heads that it was given and to slabs
that are live, gives back only elements that are out, divides or destroys a slab
only off the rings, and leaves the rings to the pool. `InOrder` is what a pool
keeps up for such a client, from one operation to the next.
-/

namespace SlabRings

/-! ## The rules -/

/-- Whether a client that has had the answers may ask the pool for the operation. -/
def Operation.Permitted (pool : Pool) (answers : List Answer) : Operation → Prop
  | newHead => True
  | insert head _ _ _ => .head head ∈ answers
  | configure id head elementSize =>
      .head head ∈ answers ∧ Run.Admits pool.pageSize elementSize ∧
        ∃ slab, pool.slab id = .ok slab ∧ slab.isLinked = .ok false
  | allocate id => pool.IsSlab id
  | free id head element =>
      .head head ∈ answers ∧ ∃ slab, pool.slab id = .ok slab ∧
        (slab.elementSize ≠ 0 → slab.isAllocated element = .ok true)
  | link _ _ | unlink _ => False
  | destroy id => ∃ slab, pool.slab id = .ok slab ∧ slab.isLinked = .ok false

def Pool.KeepsRules (pool : Pool) (answers : List Answer) : List Operation → Prop
  | [] => True
  | operation :: rest =>
      operation.Permitted pool answers ∧ ∀ answer after,
        operation.apply pool = .ok (answer, after) → after.KeepsRules (answer :: answers) rest

instance decidableExistsOk {result : Except Fault α} {Holds : α → Prop} [DecidablePred Holds] :
    Decidable (∃ value, result = .ok value ∧ Holds value) :=
  match result with
  | .ok value => decidable_of_iff (Holds value) (by simp)
  | .error _ => isFalse (by simp)

instance Pool.decidableIsSlab (pool : Pool) (id : Nat) : Decidable (pool.IsSlab id) :=
  decidable_of_iff (id ∈ pool.slabIds) Pool.mem_slabIds

instance Operation.decidablePermitted (pool : Pool) (answers : List Answer) :
    (operation : Operation) → Decidable (operation.Permitted pool answers)
  | newHead => isTrue trivial
  | insert head _ _ _ => inferInstanceAs (Decidable (.head head ∈ answers))
  | configure id head elementSize =>
      inferInstanceAs (Decidable (.head head ∈ answers ∧ Run.Admits pool.pageSize elementSize ∧
        ∃ slab, pool.slab id = .ok slab ∧ slab.isLinked = .ok false))
  | allocate id => inferInstanceAs (Decidable (pool.IsSlab id))
  | free id head element =>
      inferInstanceAs (Decidable (.head head ∈ answers ∧ ∃ slab, pool.slab id = .ok slab ∧
        (slab.elementSize ≠ 0 → slab.isAllocated element = .ok true)))
  | link _ _ => isFalse id
  | unlink _ => isFalse id
  | destroy id =>
      inferInstanceAs (Decidable (∃ slab, pool.slab id = .ok slab ∧ slab.isLinked = .ok false))

instance Pool.decidableKeepsRules (pool : Pool) (answers : List Answer) :
    (operations : List Operation) → Decidable (pool.KeepsRules answers operations)
  | [] => isTrue trivial
  | operation :: rest =>
      match applied : operation.apply pool with
      | .ok (answer, after) =>
          have := after.decidableKeepsRules (answer :: answers) rest
          decidable_of_iff
            (operation.Permitted pool answers ∧ after.KeepsRules (answer :: answers) rest)
            (by simp [KeepsRules, applied])
      | .error _ =>
          decidable_of_iff (operation.Permitted pool answers) (by simp [KeepsRules, applied])

theorem Pool.KeepsRules.take {pool : Pool} {answers : List Answer} {operations : List Operation}
    (keeps : pool.KeepsRules answers operations) (count : Nat) :
    pool.KeepsRules answers (operations.take count) := by
  induction operations generalizing pool answers count with
  | nil => simp [KeepsRules]
  | cons operation rest induction =>
      cases count with
      | zero => trivial
      | succ count =>
          refine ⟨keeps.1, ?_⟩
          intro answer after applied
          exact induction (keeps.2 answer after applied) count

theorem Operation.Permitted.orderly {pool : Pool} {answers : List Answer} {operation : Operation}
    (permitted : operation.Permitted pool answers) : operation.Orderly pool.pageSize := by
  cases operation with
  | configure id head elementSize => exact permitted.2.1
  | link id head => exact permitted
  | unlink id => exact permitted
  | _ => trivial

/-! ## What the pool keeps up -/

structure Pool.InOrder (pool : Pool) (answers : List Answer) (lists : Lists) (steps : Nat) :
    Prop where
  sound : Accounts.Sound pool.pageSize pool.account
  admitted (id : Nat) (slab : Slab) :
    pool.account id = some slab → Run.Admits pool.pageSize slab.elementSize
  rings : pool.Rings lists
  posted : Accounts.Posted pool.account lists
  vacant : ∃ ids, pool.Vacancies ids
  known (head : Nat) : .head head ∈ answers → pool.IsHead head
  counted : pool.counters.activeSlabs = pool.total Slab.inService
  below : pool.counters.Below steps

theorem Pool.inOrder_empty (pageSize : UInt64) :
    (Pool.empty pageSize).InOrder [] (fun _ => none) 0 where
  sound := Reachable.empty.accounts_sound
  admitted _ _ present := by cases present
  rings := Pool.rings_empty pageSize
  posted _ _ present := by cases present
  vacant := ⟨[], Pool.vacancies_empty pageSize⟩
  known _ answered := by cases answered
  counted := rfl
  below := ⟨Nat.le_refl 0, Nat.le_refl 0, Nat.le_refl 0, Nat.le_refl 0⟩

theorem Lists.isSome_advance {lists : Lists} {head : Nat} (present : (lists head).isSome = true)
    (transition : Transition) : (lists.advance transition head).isSome = true := by
  have added (id : Nat) : (lists.addHead id head).isSome = true := by
    by_cases same : head = id
    · simp [addHead, same]
    · simp [addHead, same, present]
  have pushed (other id : Nat) : (lists.pushFront other id head).isSome = true := by
    by_cases same : head = other
    · simp [pushFront, ← same, present]
    · simp [pushFront, same, present]
  have removed (id : Nat) : (lists.remove id head).isSome = true := by
    simp [remove, present]
  rcases lists.advance_cases transition with same | ⟨id, same⟩ | ⟨other, id, same⟩ | ⟨id, same⟩
  · rw [same, present]
  · rw [same, added]
  · rw [same, pushed]
  · rw [same, removed]

theorem Pool.Effect.isHead_of_answer {before after : Pool} {operation : Operation} {id : Nat}
    (effect : Effect before operation (.head id) after) : after.IsHead id := by
  cases effect with
  | headMade claimed => exact (writes_claim claimed).1.isHead_iff_of_eq.mpr ⟨_, rfl⟩

namespace Pool.InOrder

variable {before after : Pool} {answers : List Answer} {lists : Lists} {steps : Nat}
  {operation : Operation} {answer : Answer}

theorem step (inOrder : before.InOrder answers lists steps)
    (permitted : operation.Permitted before answers)
    (effect : Effect before operation answer after) :
    after.InOrder (answer :: answers) (lists.advance ⟨before, operation, answer, after⟩)
      (steps + 1) := by
  have rings := effect.rings inOrder.rings
  have accounts := effect.accounts
  exact {
    sound := by
      rw [effect.pageSize_eq]
      exact inOrder.sound.step accounts
    admitted := by
      rw [effect.pageSize_eq]
      exact accounts.admitted permitted.orderly inOrder.admitted
    rings
    posted := effect.posted permitted.orderly inOrder.rings inOrder.sound inOrder.posted
    vacant := by
      rcases inOrder.vacant with ⟨ids, vacancies⟩
      exact ⟨_, effect.vacancies vacancies⟩
    known := by
      intro head answered
      rcases List.mem_cons.mp answered with rfl | earlier
      · exact effect.isHead_of_answer
      · have present := (inOrder.rings.isHead_iff head).mp (inOrder.known head earlier)
        rw [← Option.isSome_iff_exists] at present
        exact (rings.isHead_iff head).mpr
          (Option.isSome_iff_exists.mp (Lists.isSome_advance present _))
    counted := effect.activeSlabs inOrder.sound rfl inOrder.counted
    below := by
      rw [effect.counters]
      exact inOrder.below.advance _ _ _ }

end Pool.InOrder

end SlabRings
