import SlabRings.Proofs.Requests
import SlabRings.Proofs.Transitions

/-!
# Requests to different slabs

All slabs share one table, and a slab that joins or leaves a ring writes to the
entries of its neighbours. It makes no difference to the other slabs: requests
to two slabs can change places, with the same answers and the same pool in the
end, where each slab keeps to a head of its own. Allocations can even where the
slabs are next to each other on one ring.
-/

namespace SlabRings

/-! ## Counting in either order -/

theorem Tally.swap {counters : Counters} {first second : Tally} (fits : first.Fits counters)
    (fitsThen : second.Fits (first.add counters)) :
    second.Fits counters ∧ first.Fits (second.add counters) ∧
      first.add (second.add counters) = second.add (first.add counters) := by
  cases first with
  | nothing => exact ⟨fitsThen, trivial, rfl⟩
  | given =>
      cases second with
      | nothing => exact ⟨trivial, fits, rfl⟩
      | given => exact ⟨fits, fitsThen, rfl⟩
      | returned | retired => exact ⟨fitsThen, fits, rfl⟩
  | returned =>
      cases second with
      | nothing => exact ⟨trivial, fits, rfl⟩
      | given => exact ⟨fitsThen, fits, rfl⟩
      | returned => exact ⟨fits, fitsThen, rfl⟩
      | retired => exact ⟨⟨fits, fitsThen.2⟩, fitsThen.1, rfl⟩
  | retired =>
      cases second with
      | nothing => exact ⟨trivial, fits, rfl⟩
      | given => exact ⟨fitsThen, fits, rfl⟩
      | returned => exact ⟨fits.1, ⟨fitsThen, fits.2⟩, rfl⟩
      | retired => exact ⟨fits, fitsThen, rfl⟩

/-! ## Moving in either order -/

namespace Lists

variable {lists others : Lists} {head other id : Nat}

def KeepsTo (lists : Lists) (id head : Nat) : Prop :=
  ∀ other, lists.Has other id → other = head

theorem move_congr (same : lists other = others other) (move : Move) :
    lists.move head id move other = others.move head id move other := by
  cases move with
  | stay => exact same
  | join =>
      by_cases here : other = head
      · subst here
        simp [Lists.move, pushFront, same]
      · simp [Lists.move, pushFront, here, same]
  | leave => simp [Lists.move, remove, same]

theorem move_apply_of_ne (keeps : lists.KeepsTo id head) (different : other ≠ head) (move : Move) :
    lists.move head id move other = lists other := by
  cases move with
  | stay => rfl
  | join => simp [Lists.move, pushFront, different]
  | leave =>
      cases present : lists other with
      | none => simp [Lists.move, remove, present]
      | some ids =>
          have absent : id ∉ ids := fun member =>
            different (keeps other ⟨ids, present, List.mem_cons_of_mem other member⟩)
          simp [Lists.move, remove, present, List.erase_of_not_mem absent]

theorem remove_comm (lists : Lists) (left right : Nat) :
    (lists.remove left).remove right = (lists.remove right).remove left := by
  funext head
  cases present : lists head with
  | none => simp [remove, present]
  | some ids => simp [remove, present, List.erase_comm]

/-- The moves of two slabs do not get into each other's way. -/
structure Exchange (lists : Lists) (leftHead left : Nat) (leftMove : Move)
    (rightHead right : Nat) (rightMove : Move) : Prop where
  allows_left : lists.Allows leftHead left leftMove →
    (lists.move rightHead right rightMove).Allows leftHead left leftMove
  allows_right : (lists.move leftHead left leftMove).Allows rightHead right rightMove →
    lists.Allows rightHead right rightMove
  comm : (lists.move leftHead left leftMove).move rightHead right rightMove =
    (lists.move rightHead right rightMove).move leftHead left leftMove

end Lists

namespace Pool.Rings

variable {pool : Pool} {lists : Lists} {id head slot other left right leftHead rightHead : Nat}
  {leftMove rightMove : Move}

theorem has_move_iff (rings : pool.Rings lists) (isSlab : pool.IsSlab id) (different : slot ≠ id)
    (move : Move) : (lists.move head id move).Has other slot ↔ lists.Has other slot := by
  cases move with
  | stay => exact Iff.rfl
  | join =>
      cases present : lists head with
      | none =>
          have same : lists.pushFront head id = lists := by
            rw [Lists.pushFront, present, Option.map_none, ← present, Function.update_eq_self]
          rw [Lists.move, same]
      | some ids =>
          rw [Lists.move, Lists.has_pushFront_iff present]
          simp [different]
  | leave =>
      rcases isSlab with ⟨slab, live⟩
      have nodup (ids : List Nat) (present : lists other = some ids) : (other :: ids).Nodup :=
        rings.carries.nodup present
      rw [Lists.move, Lists.has_remove_iff nodup (rings.eq_none_of_slab live)]
      simp [different]

section OwnHeads

variable (rings : pool.Rings lists) (rightIsSlab : pool.IsSlab right) (different : left ≠ right)
  (leftKeeps : lists.KeepsTo left leftHead) (rightKeeps : lists.KeepsTo right rightHead)
  (headsDifferent : leftHead ≠ rightHead)

include rings rightIsSlab different rightKeeps headsDifferent

theorem allows_move_iff :
    (lists.move rightHead right rightMove).Allows leftHead left leftMove ↔
      lists.Allows leftHead left leftMove := by
  cases leftMove with
  | stay => exact Iff.rfl
  | join =>
      simp only [Lists.Allows, Lists.move_apply_of_ne rightKeeps headsDifferent,
        rings.has_move_iff rightIsSlab different]
  | leave => simp only [Lists.Allows, rings.has_move_iff rightIsSlab different]

include leftKeeps

theorem accompanied_move_iff :
    (lists.move rightHead right rightMove).Accompanied left ↔ lists.Accompanied left := by
  constructor
  · rintro ⟨other, ids, present, member, company⟩
    have has := (rings.has_move_iff rightIsSlab different rightMove).mp
      ⟨ids, present, List.mem_cons_of_mem other member⟩
    have elsewhere : other ≠ rightHead := leftKeeps other has ▸ headsDifferent
    rw [Lists.move_apply_of_ne rightKeeps elsewhere] at present
    exact ⟨other, ids, present, member, company⟩
  · rintro ⟨other, ids, present, member, company⟩
    have elsewhere : other ≠ rightHead :=
      leftKeeps other ⟨ids, present, List.mem_cons_of_mem other member⟩ ▸ headsDifferent
    rw [← Lists.move_apply_of_ne rightKeeps elsewhere rightMove] at present
    exact ⟨other, ids, present, member, company⟩

end OwnHeads

theorem keepsTo_move_iff (rings : pool.Rings lists) (isSlab : pool.IsSlab id)
    (different : slot ≠ id) (move : Move) :
    (lists.move head id move).KeepsTo slot other ↔ lists.KeepsTo slot other := by
  simp only [Lists.KeepsTo, rings.has_move_iff isSlab different]

theorem exchange_of_heads_ne (rings : pool.Rings lists) (leftIsSlab : pool.IsSlab left)
    (rightIsSlab : pool.IsSlab right) (different : left ≠ right)
    (leftKeeps : lists.KeepsTo left leftHead) (rightKeeps : lists.KeepsTo right rightHead)
    (headsDifferent : leftHead ≠ rightHead) (leftMove rightMove : Move) :
    lists.Exchange leftHead left leftMove rightHead right rightMove where
  allows_left := (rings.allows_move_iff rightIsSlab different rightKeeps headsDifferent).mpr
  allows_right :=
    (rings.allows_move_iff leftIsSlab different.symm leftKeeps headsDifferent.symm).mp
  comm := by
    have leftStill : (lists.move rightHead right rightMove).KeepsTo left leftHead :=
      (rings.keepsTo_move_iff rightIsSlab different rightMove).mpr leftKeeps
    have rightStill : (lists.move leftHead left leftMove).KeepsTo right rightHead :=
      (rings.keepsTo_move_iff leftIsSlab different.symm leftMove).mpr rightKeeps
    funext slot
    by_cases here : slot = leftHead
    · subst here
      rw [Lists.move_apply_of_ne rightStill headsDifferent]
      exact Lists.move_congr (Lists.move_apply_of_ne rightKeeps headsDifferent rightMove).symm
        leftMove
    · rw [Lists.move_apply_of_ne leftStill here]
      exact Lists.move_congr (Lists.move_apply_of_ne leftKeeps here leftMove) rightMove

theorem exchange_of_ne_join (rings : pool.Rings lists) (leftIsSlab : pool.IsSlab left)
    (rightIsSlab : pool.IsSlab right) (different : left ≠ right) (leftStays : leftMove ≠ .join)
    (rightStays : rightMove ≠ .join) :
    lists.Exchange leftHead left leftMove rightHead right rightMove where
  allows_left := by
    cases leftMove with
    | stay => exact id
    | join => exact absurd rfl leftStays
    | leave => simp only [Lists.Allows, rings.has_move_iff rightIsSlab different, imp_self]
  allows_right := by
    cases rightMove with
    | stay => exact id
    | join => exact absurd rfl rightStays
    | leave => simp only [Lists.Allows, rings.has_move_iff leftIsSlab different.symm, imp_self]
  comm := by
    cases leftMove with
    | stay => rfl
    | join => exact absurd rfl leftStays
    | leave =>
        cases rightMove with
        | stay => rfl
        | join => exact absurd rfl rightStays
        | leave => exact lists.remove_comm left right

end Pool.Rings

/-! ## Responding in either order -/

theorem Slab.Responds.move_ne_join {account : Slab} {company : Prop} {response : Response}
    (responds : account.Responds company .allocate response) : response.move ≠ .join := by
  cases responds <;> simp

namespace Pool

theorem book_comm (pool : Pool) {left right : Nat} (different : left ≠ right)
    (leftSlab rightSlab : Slab) (earlier later counters : Counters) :
    (pool.book left leftSlab earlier).book right rightSlab counters =
      (pool.book right rightSlab later).book left leftSlab counters := by
  simp [book, store, Array.setIfInBounds_comm _ _ different]

variable {pool middle final : Pool} {lists : Lists} {left right leftHead rightHead : Nat}
  {leftRequest rightRequest : Request} {leftResponse rightResponse : Response}
  {leftAccount rightAccount : Slab}

theorem Settled.swap (rings : pool.Rings lists) (different : left ≠ right)
    (exchange : lists.Exchange leftHead left leftResponse.move rightHead right rightResponse.move)
    (leftPresent : pool.account left = some leftAccount)
    (rightPresent : pool.account right = some rightAccount)
    (rightResponds : rightAccount.Responds (lists.Accompanied right) rightRequest rightResponse)
    (leftRespondsThen : leftAccount.Responds
      ((lists.move rightHead right rightResponse.move).Accompanied left) leftRequest leftResponse)
    (first : pool.Settled lists left leftHead leftResponse middle)
    (second : middle.Settled (lists.move leftHead left leftResponse.move) right rightHead
      rightResponse final) :
    ∃ other, Effect pool (rightRequest.on right rightHead) rightResponse.answer other ∧
      Effect other (leftRequest.on left leftHead) leftResponse.answer final := by
  -- What the second response needs it finds at the start: no part of it waits for the first.
  have fitsThen := second.fits
  rw [first.counters] at fitsThen
  rcases Tally.swap first.fits fitsThen with ⟨rightFits, leftFits, counters⟩
  rcases rings.exists_settled rightPresent rightResponds rightFits
    (exchange.allows_right second.allowed) with ⟨other, rightEffect, rightSettled⟩
  have leftPresentThen : other.account left = some leftAccount := by
    rw [rightSettled.account rightPresent, Accounts.set_other _ different, leftPresent]
  rw [← rightSettled.counters] at leftFits
  rcases rightSettled.rings.exists_settled leftPresentThen leftRespondsThen leftFits
    (exchange.allows_left first.allowed) with ⟨last, leftEffect, leftSettled⟩
  -- The pools at the two ends have the same lists, and are equal apart from their links.
  have bare : last.bare = final.bare := by
    rw [leftSettled.bare, rightSettled.bare, second.bare, first.bare, first.counters,
      rightSettled.counters, counters, book_comm _ different]
  have sameRings := second.rings
  rw [exchange.comm] at sameRings
  have same : last = final := sameRings.eq_of_bare_eq leftSettled.rings bare
  exact ⟨other, rightEffect, same ▸ leftEffect⟩

/-- Two requests that can change places: allocations, or requests to slabs with heads of their
own. -/
def Independent (lists : Lists) (leftHead left : Nat) (leftRequest : Request)
    (rightHead right : Nat) (rightRequest : Request) : Prop :=
  (leftRequest = .allocate ∧ rightRequest = .allocate) ∨
    (leftHead ≠ rightHead ∧ lists.KeepsTo left leftHead ∧ lists.KeepsTo right rightHead)

theorem Rings.swap {x y : Answer} (rings : pool.Rings lists) (leftIsSlab : pool.IsSlab left)
    (rightIsSlab : pool.IsSlab right) (different : left ≠ right)
    (independent : Independent lists leftHead left leftRequest rightHead right rightRequest)
    (first : Effect pool (leftRequest.on left leftHead) x middle)
    (second : Effect middle (rightRequest.on right rightHead) y final) :
    ∃ other, Effect pool (rightRequest.on right rightHead) y other ∧
      Effect other (leftRequest.on left leftHead) x final := by
  rcases rings.settled first with
    ⟨leftAccount, leftResponse, leftPresent, leftResponds, rfl, leftSettled⟩
  rcases leftSettled.rings.settled second with
    ⟨rightAccount, rightResponse, rightPresent, rightResponds, rfl, rightSettled⟩
  rw [leftSettled.account leftPresent, Accounts.set_other _ different.symm] at rightPresent
  rcases independent with ⟨rfl, rfl⟩ | ⟨headsDifferent, leftKeeps, rightKeeps⟩
  · exact leftSettled.swap rings different
      (rings.exchange_of_ne_join leftIsSlab rightIsSlab different leftResponds.move_ne_join
        rightResponds.move_ne_join)
      leftPresent rightPresent (rightResponds.of_allocate _) (leftResponds.of_allocate _)
      rightSettled
  · have exchange := rings.exchange_of_heads_ne leftIsSlab rightIsSlab different leftKeeps
      rightKeeps headsDifferent leftResponse.move rightResponse.move
    rw [rings.accompanied_move_iff leftIsSlab different.symm rightKeeps leftKeeps
      headsDifferent.symm] at rightResponds
    rw [← rings.accompanied_move_iff rightIsSlab different leftKeeps rightKeeps
      headsDifferent] at leftResponds
    exact leftSettled.swap rings different exchange leftPresent rightPresent rightResponds
      leftResponds rightSettled

theorem Independent.symm
    (independent : Independent lists leftHead left leftRequest rightHead right rightRequest) :
    Independent lists rightHead right rightRequest leftHead left leftRequest := by
  rcases independent with ⟨leftAllocates, rightAllocates⟩ | ⟨different, leftKeeps, rightKeeps⟩
  · exact .inl ⟨rightAllocates, leftAllocates⟩
  · exact .inr ⟨different.symm, rightKeeps, leftKeeps⟩

/-- Two operations give the same answers and the same pool in either order, and fault in both
orders or in none. -/
def Commute (pool : Pool) (first second : Operation) : Prop :=
  ∀ x y final,
    (∃ middle, first.apply pool = .ok (x, middle) ∧ second.apply middle = .ok (y, final)) ↔
      ∃ middle, second.apply pool = .ok (y, middle) ∧ first.apply middle = .ok (x, final)

theorem Rings.commute (rings : pool.Rings lists) (leftIsSlab : pool.IsSlab left)
    (rightIsSlab : pool.IsSlab right) (different : left ≠ right)
    (independent : Independent lists leftHead left leftRequest rightHead right rightRequest) :
    pool.Commute (leftRequest.on left leftHead) (rightRequest.on right rightHead) := by
  intro x y final
  simp only [apply_eq_ok_iff]
  constructor
  · intro ⟨middle, first, second⟩
    exact rings.swap leftIsSlab rightIsSlab different independent first second
  · intro ⟨middle, first, second⟩
    exact rings.swap rightIsSlab leftIsSlab different.symm independent.symm first second

def OnlyOn (pool : Pool) (id head : Nat) : Prop :=
  (∃ slab, pool.slab id = .ok slab ∧ slab.isLinked = .ok false) ∨
    ∃ ids, pool.ring head = .ok ids ∧ id ∈ ids

theorem Rings.keepsTo (rings : pool.Rings lists) {id head : Nat} (only : pool.OnlyOn id head) :
    lists.KeepsTo id head := by
  intro other has
  rcases only with ⟨slab, live, detached⟩ | ⟨ids, read, member⟩
  · have linked := (rings.next_ne_none_iff live).mpr ⟨other, has⟩
    exact absurd (Slab.detached_of_isLinked detached).2 linked
  · have present := rings.ring_eq_ok_iff.mp read
    exact rings.carries.same_head has ⟨ids, present, List.mem_cons_of_mem head member⟩

end Pool

/-- Allocations from two slabs commute, wherever the slabs are. Any requests to two slabs commute
where each slab is on no ring, or on that of a head of its own. -/
theorem requests_commute {pageSize : UInt64} {pool : Pool} (reachable : Reachable pageSize pool)
    {left right : Nat} (leftIsSlab : pool.IsSlab left) (rightIsSlab : pool.IsSlab right)
    (different : left ≠ right) :
    pool.Commute (.allocate left) (.allocate right) ∧
      ∀ leftHead rightHead, leftHead ≠ rightHead → pool.OnlyOn left leftHead →
        pool.OnlyOn right rightHead → ∀ leftRequest rightRequest : Request,
          pool.Commute (leftRequest.on left leftHead) (rightRequest.on right rightHead) := by
  rcases reachable.exists_rings with ⟨lists, rings⟩
  constructor
  · have allocations : Pool.Independent lists 0 left .allocate 0 right .allocate :=
      .inl ⟨rfl, rfl⟩
    exact rings.commute leftIsSlab rightIsSlab different allocations
  · intro leftHead rightHead headsDifferent leftOnly rightOnly leftRequest rightRequest
    exact rings.commute leftIsSlab rightIsSlab different
      (.inr ⟨headsDifferent, rings.keepsTo leftOnly, rings.keepsTo rightOnly⟩)

/-- Two neighbours give their last elements and leave their ring, in either order. While one does, a
slab of another size class falls wholly free and is retired, before or after. -/
theorem requests_commute_for_neighbours :
    ∃ answers pool bothSpent retired,
      (Pool.empty 32).run [.newHead, .newHead, .insert 0 5 0 32, .insert 0 6 32 32,
        .insert 1 7 64 16, .insert 1 8 96 16, .allocate 4] = .ok (answers, pool) ∧
      pool.ring 0 = .ok [3, 2] ∧
      (∃ middle, (Operation.allocate 3).apply pool =
          .ok (.allocated (some ⟨0x4000000000000006#64⟩), middle) ∧
        (Operation.allocate 2).apply middle =
          .ok (.allocated (some ⟨0x4000000000000005#64⟩), bothSpent)) ∧
      ∃ middle, (Operation.free 4 1 0).apply pool = .ok (.freed false, middle) ∧
        (Operation.allocate 2).apply middle =
          .ok (.allocated (some ⟨0x4000000000000005#64⟩), retired) := by
  let whole (coordinate : UInt32) (offset : UInt64) : Slab :=
    { run := ⟨coordinate, offset, 32⟩
      elementSize := 32
      capacity := 1
      available := 1
      hint := some 0
      active := true
      occupancy := ⟨#[0]⟩ }
  let spent (coordinate : UInt32) (offset : UInt64) : Slab :=
    { whole coordinate offset with available := 0, hint := none, occupancy := ⟨#[1]⟩ }
  let halved (coordinate : UInt32) (offset : UInt64) : Slab :=
    { whole coordinate offset with elementSize := 16, capacity := 2, available := 2 }
  let used : Slab :=
    { halved 7 64 with
      available := 1, hint := none, occupancy := ⟨#[1]⟩, prev := some 5, next := some 1 }
  let beside : Slab := { halved 8 96 with prev := some 1, next := some 4 }
  let alone : Slab := { whole 6 32 with prev := some 0, next := some 0 }
  let pool : Pool :=
    { pageSize := 32
      slots := #[.head ⟨2, 3⟩, .head ⟨4, 5⟩,
        .slab { whole 5 0 with prev := some 3, next := some 0 },
        .slab { whole 6 32 with prev := some 0, next := some 2 }, .slab used, .slab beside]
      counters := { activeSlabs := 4, allocations := 1 } }
  let oneSpent : Pool :=
    { pageSize := 32
      slots := #[.head ⟨3, 3⟩, .head ⟨4, 5⟩, .slab (spent 5 0), .slab alone, .slab used,
        .slab beside]
      counters := { activeSlabs := 4, allocations := 2 } }
  let bothSpent : Pool :=
    { pageSize := 32
      slots := #[.head ⟨0, 0⟩, .head ⟨4, 5⟩, .slab (spent 5 0), .slab (spent 6 32), .slab used,
        .slab beside]
      counters := { activeSlabs := 4, allocations := 3 } }
  let retired : Pool :=
    { pageSize := 32
      slots := #[.head ⟨3, 3⟩, .head ⟨5, 5⟩, .slab (spent 5 0), .slab alone,
        .slab { halved 7 64 with active := false },
        .slab { halved 8 96 with prev := some 1, next := some 1 }]
      counters := { activeSlabs := 3, allocations := 2, frees := 1, retirements := 1 } }
  have ran : (Pool.empty 32).run [.newHead, .newHead, .insert 0 5 0 32, .insert 0 6 32 32,
      .insert 1 7 64 16, .insert 1 8 96 16, .allocate 4] =
        .ok ([.head 0, .head 1, .inserted (some 2), .inserted (some 3), .inserted (some 4),
          .inserted (some 5), .allocated (some ⟨0x4000000000000007#64⟩)], pool) := by
    decide +kernel
  have reachable := Reachable.empty.run ran
  have first : (Operation.allocate 2).apply pool =
      .ok (.allocated (some ⟨0x4000000000000005#64⟩), oneSpent) := by
    decide +kernel
  have neighbour : (Operation.allocate 3).apply oneSpent =
      .ok (.allocated (some ⟨0x4000000000000006#64⟩), bothSpent) := by
    decide +kernel
  have freed : (Operation.free 4 1 0).apply oneSpent = .ok (.freed false, retired) := by
    decide +kernel
  have read : pool.ring 0 = .ok [3, 2] := by decide +kernel
  have otherRead : pool.ring 1 = .ok [5, 4] := by decide +kernel
  have isSlab : pool.IsSlab 2 := ⟨_, rfl⟩
  have besideIsSlab : pool.IsSlab 3 := ⟨_, rfl⟩
  have otherIsSlab : pool.IsSlab 4 := ⟨_, rfl⟩
  have neighbours := (requests_commute reachable isSlab besideIsSlab (by decide)).1
  have apart := (requests_commute reachable isSlab otherIsSlab (by decide)).2 0 1 (by decide)
    (.inr ⟨_, read, by decide⟩) (.inr ⟨_, otherRead, by decide⟩) .allocate (.free 0)
  exact ⟨_, pool, bothSpent, retired, ran, read,
    (neighbours _ _ _).mp ⟨oneSpent, first, neighbour⟩, (apart _ _ _).mp ⟨oneSpent, first, freed⟩⟩

end SlabRings
