import SlabRings.Proofs.Residence

/-!
# Requests that undo each other

An element that comes back is the next one handed out, and an element handed out
is one that can come back. The first pair leaves the pool as it was, but for the
preference of the slab and two counts. The second pair restores the account; the
slab may find itself at the front of a ring afterwards, or off the rings.
-/

namespace SlabRings

open Checked (wordValues)

/-! ## Elements that go back and forth -/

namespace Slab

variable {slab released taken : Slab} {element : Nat} {handle : Handle}

theorem takeHandle_of_release (releases : slab.release element = .ok released)
    (packed : slab.handle element = .ok handle) :
    released.takeHandle = .ok (handle, { slab with hint := none }) :=
  takeHandle_eq_ok_iff.mpr ⟨element, take_of_release releases, packed⟩

theorem Balanced.release_of_takeHandle (balanced : slab.Balanced)
    (takes : slab.takeHandle = .ok (handle, taken)) :
    taken.release handle.index = .ok { slab with hint := some handle.index } :=
  balanced.release_of_take (take_of_takeHandle takes).1

theorem mem_of_takeHandle (takes : slab.takeHandle = .ok (handle, taken)) :
    handle.index ∈ taken.occupancy := by
  rcases take_eq_ok_iff.mp (take_of_takeHandle takes).1 with ⟨_, grown, grows, _, rfl⟩
  exact (Occupancy.mem_iff_of_insert grows handle.index).mpr (.inl rfl)

theorem Balanced.canServe_of_release (balanced : slab.Balanced) (sized : slab.elementSize ≠ 0)
    (releases : slab.release element = .ok released) : released.CanServe := by
  have active := balanced.active_of_release releases
  have fields := fields_of_release releases
  refine ⟨fields.2.1 ▸ sized, ?_, fields.1.trans active⟩
  rw [fields.2.2]
  exact Nat.succ_ne_zero slab.available

def Addressed (slab : Slab) : Prop :=
  ∀ element ∈ slab.occupancy, element ≤ Handle.maxIndex

theorem addressed_divide (slab : Slab) (elementSize : UInt64) :
    (slab.divide elementSize).Addressed :=
  fun element member => absurd member (Occupancy.not_mem_vacant _ element)

theorem Addressed.of_takeHandle (addressed : slab.Addressed)
    (takes : slab.takeHandle = .ok (handle, taken)) : taken.Addressed := by
  intro other member
  rcases take_eq_ok_iff.mp (take_of_takeHandle takes).1 with ⟨_, _, grows, _, rfl⟩
  cases (Occupancy.mem_iff_of_insert grows other).mp member with
  | inl same => exact same ▸ handle.index_le_maxIndex
  | inr earlier => exact addressed other earlier

theorem Addressed.of_release (addressed : slab.Addressed)
    (releases : slab.release element = .ok released) : released.Addressed := by
  intro other remains
  rcases release_eq_ok_iff.mp releases with ⟨_, _, shrinks, _, rfl⟩
  exact addressed other ((Occupancy.mem_iff_of_erase shrinks other).mp remains).2

end Slab

theorem Accounts.Step.addressed {pageSize : UInt64} {accounts settled : Accounts}
    {operation : Operation} {answer : Answer}
    (step : Step pageSize accounts operation answer settled)
    (addressed : ∀ id slab, accounts id = some slab → slab.Addressed) :
    ∀ id slab, settled id = some slab → slab.Addressed := by
  cases step with
  | headMade | sizeRefused | unsizedGiven | nothingGiven | unsizedReturned | linked | unlinked =>
      exact addressed
  | inserted | configured => exact forall_set addressed _ (Slab.addressed_divide _ _)
  | given live _ takes => exact forall_set addressed _ ((addressed _ _ live).of_takeHandle takes)
  | returned live _ releases =>
      exact forall_set addressed _ ((addressed _ _ live).of_release releases)
  | retired live _ releases =>
      have remaining := (addressed _ _ live).of_release releases
      exact forall_set addressed _ remaining
  | destroyed => exact forall_set_none addressed _

theorem Reachable.addressed {pageSize : UInt64} {pool : Pool}
    (reachable : Reachable pageSize pool) :
    ∀ id account, pool.account id = some account → account.Addressed := by
  induction reachable with
  | empty =>
      intro id account present
      cases present
  | step _ applied induction => exact (Pool.apply_eq_ok_iff.mp applied).accounts.addressed induction

/-! ## There and back -/

namespace Pool

variable {pool middle : Pool} {lists : Lists} {id head : Nat} {slab : Slab}

/-- Where a second response takes the slab back to its place, the pool has changed in that slab and
in its counters only. -/
theorem Rings.effect_back {first second : Response} {request : Request} {new : Slab}
    (rings : pool.Rings lists) (live : pool.slab id = .ok slab)
    (settled : pool.Settled lists id head first middle)
    (responds : first.account.bare.Responds ((lists.move head id first.move).Accompanied id) request
      second)
    (fits : second.tally.Fits (first.tally.add pool.counters))
    (allowed : (lists.move head id first.move).Allows head id second.move)
    (back : (lists.move head id first.move).move head id second.move = lists)
    (same : second.account = new.bare) (sameNext : new.next = slab.next)
    (samePrev : new.prev = slab.prev) :
    Effect middle (request.on id head) second.answer
      (pool.book id new (second.tally.add (first.tally.add pool.counters))) := by
  have present : middle.account id = some first.account.bare := by
    rw [settled.account (account_of_slab live), Accounts.set_same]
  rw [← settled.counters] at fits
  rcases settled.rings.exists_settled present responds fits allowed with
    ⟨after, effect, settledThen⟩
  have afterRings := settledThen.rings
  rw [back] at afterRings
  -- The same lists leave the same links, so it remains to compare what was booked.
  have bare_eq : after.bare =
      pool.bare.book id new.bare (second.tally.add (first.tally.add pool.counters)) := by
    rw [settledThen.bare, settled.bare, book_book, settled.counters, same]
  have after_eq := rings.eq_book afterRings live sameNext samePrev bare_eq
  exact after_eq ▸ effect

/-! ## A return, and the element given again -/

theorem Rings.allocate_returned {element : Nat} {handle : Handle} (rings : pool.Rings lists)
    (live : pool.slab id = .ok slab) (balanced : slab.Balanced) (sized : slab.elementSize ≠ 0)
    (packed : slab.handle element = .ok handle)
    (freed : pool.free id head element = .ok (true, middle))
    (few : pool.counters.allocations + 1 < wordValues) :
    middle.allocate id = .ok (some handle,
      pool.book id { slab with hint := none }
        { pool.counters with
          allocations := pool.counters.allocations + 1, frees := pool.counters.frees + 1 }) := by
  have effect : Effect pool ((Request.free element).on id head) (.freed true) middle :=
    free_eq_ok_iff.mp freed
  rcases rings.settled effect with ⟨account, response, present, responds, answered, settled⟩
  cases (account_of_slab live).symm.trans present
  have again {released : Slab} (releases : slab.bare.release element = .ok released) :
      released.bare.CanServe ∧
        released.bare.takeHandle = .ok (handle, Slab.bare { slab with hint := none }) := by
    have serves := (Slab.balanced_bare.mpr balanced).canServe_of_release sized releases
    have takes := Slab.takeHandle_bare (Slab.takeHandle_of_release releases packed)
    exact ⟨serves, takes⟩
  apply allocate_eq_ok_iff.mpr
  -- A slab that joined a ring had nothing left, so it gives its last element and leaves again.
  cases responds with
  | unsizedReturned unsized => exact absurd unsized sized
  | retired => cases answered
  | @firstReturned _ released _ releases exhausted =>
      rcases again releases with ⟨serves, takes⟩
      have gives : released.bare.Responds ((lists.pushFront head id).Accompanied id) .allocate
          ⟨.allocated (some handle), _, .given, .leave⟩ :=
        .lastGiven serves takes exhausted
      have joined : (lists.pushFront head id).Has head id := by
        rcases settled.allowed.1 with ⟨ids, present⟩
        exact (Lists.has_pushFront_iff present head id).mpr (.inl ⟨rfl, rfl⟩)
      have back := Lists.remove_pushFront settled.allowed.2 head
      exact rings.effect_back live settled gives few ⟨head, joined⟩ back rfl rfl rfl
  | @returned _ released _ releases room _ =>
      rcases again releases with ⟨serves, takes⟩
      have gives : released.bare.Responds (lists.Accompanied id) .allocate
          ⟨.allocated (some handle), _, .given, .stay⟩ :=
        .given serves takes room
      exact rings.effect_back live settled gives few trivial rfl rfl rfl rfl

end Pool

/-- After any history short enough for the counters, an element that comes back to a slab that stays
is handed out again at once, with the handle that names it. The pool is then as it was before the
return, but for the preference of the slab and one more return and one more allocation. -/
theorem given_again_after_return {pageSize : UInt64} {operations : List Operation}
    {answers : List Answer} {pool middle : Pool} {id head element : Nat} {slab : Slab}
    (ran : (Pool.empty pageSize).run operations = .ok (answers, pool))
    (short : operations.length + 2 < wordValues) (live : pool.slab id = .ok slab)
    (sized : slab.elementSize ≠ 0) (freed : pool.free id head element = .ok (true, middle)) :
    ∃ handle, handle.index = element ∧ handle.coordinate = slab.run.coordinate ∧
      slab.handle element = .ok handle ∧
      middle.allocate id = .ok (some handle,
        pool.book id { slab with hint := none }
          { pool.counters with
            allocations := pool.counters.allocations + 1, frees := pool.counters.frees + 1 }) := by
  have reachable := Reachable.empty.run ran
  rcases reachable.exists_rings with ⟨lists, rings⟩
  have balanced := (reachable.balanced live).1
  have out := Pool.mem_of_free live sized balanced freed
  have fits := reachable.addressed id slab.bare (Pool.account_of_slab live) element out
  have few : pool.counters.allocations + 1 < wordValues := by
    have bound := (below_length ran).allocations_le
    omega
  rcases slab.exists_handle fits with ⟨handle, packed⟩
  rcases Handle.fields_of_pack packed with ⟨_, index, coordinate⟩
  exact ⟨handle, index, coordinate, packed,
    rings.allocate_returned live balanced sized packed freed few⟩

/-- An exhausted slab comes to the front of the ring with the element, and leaves it again with the
same element, as the only one to be given. -/
theorem given_again_after_return_to_exhausted :
    ∃ answers pool middle after handle,
      (Pool.empty 32).run [.newHead, .insert 0 7 0 16, .insert 0 8 32 16, .allocate 1,
        .allocate 1] = .ok (answers, pool) ∧
      pool.free 1 0 0 = .ok (true, middle) ∧ (middle.ring 0).toOption = some [1, 2] ∧
      middle.allocate 1 = .ok (some handle, after) ∧ handle.index = 0 ∧ handle.coordinate = 7 ∧
      after = { pool with
        counters := { activeSlabs := 2, allocations := 3, frees := 1, retirements := 0 } } := by
  let exhausted : Slab :=
    { run := ⟨7, 0, 32⟩
      elementSize := 16
      capacity := 2
      active := true
      occupancy := ⟨#[3]⟩ }
  let other : Slab :=
    { run := ⟨8, 32, 32⟩
      elementSize := 16
      capacity := 2
      available := 2
      hint := some 0
      active := true
      occupancy := ⟨#[0]⟩
      prev := some 0
      next := some 0 }
  let pool : Pool :=
    { pageSize := 32
      slots := #[.head ⟨2, 2⟩, .slab exhausted, .slab other]
      counters := { activeSlabs := 2, allocations := 2 } }
  let returned : Slab :=
    { exhausted with
      available := 1, hint := some 0, occupancy := ⟨#[2]⟩, prev := some 0, next := some 2 }
  let middle : Pool :=
    { pageSize := 32
      slots := #[.head ⟨2, 1⟩, .slab returned, .slab { other with prev := some 1 }]
      counters := { activeSlabs := 2, allocations := 2, frees := 1 } }
  have ran : (Pool.empty 32).run [.newHead, .insert 0 7 0 16, .insert 0 8 32 16, .allocate 1,
      .allocate 1] =
        .ok ([.head 0, .inserted (some 1), .inserted (some 2),
          .allocated (some ⟨0x4000000000000007#64⟩),
          .allocated (some ⟨0x4000000100000007#64⟩)], pool) := by
    decide +kernel
  have freed : pool.free 1 0 0 = .ok (true, middle) := by decide +kernel
  have live : pool.slab 1 = .ok exhausted := rfl
  rcases given_again_after_return ran (by decide) live (by decide) freed with
    ⟨handle, index, coordinate, _, allocated⟩
  exact ⟨_, pool, middle, _, handle, ran, freed, by decide +kernel, allocated, index, coordinate,
    rfl⟩

/-! ## An element given, and returned at once -/

/-- What a slab does that hands an element out and takes it back at once: the move when the element
goes out, and the response when it comes back. -/
inductive Slab.ThereAndBack (account : Slab) (company : Prop) : Move → Response → Prop where
  | last {element : Nat} (one : account.available = 1) :
      ThereAndBack account company .leave
        ⟨.freed true, { account with hint := some element }, .returned, .join⟩
  | kept {element : Nat} (several : 2 ≤ account.available)
      (kept : ¬(account.available = account.capacity ∧ company)) :
      ThereAndBack account company .stay
        ⟨.freed true, { account with hint := some element }, .returned, .stay⟩
  | idle {element : Nat} (several : 2 ≤ account.available)
      (allFree : account.available = account.capacity) (accompanied : company) :
      ThereAndBack account company .stay
        ⟨.freed false, { account with hint := some element, active := false }, .retired, .leave⟩

theorem Slab.Responds.thereAndBack {account : Slab} {before company : Prop} {handle : Handle}
    {first second : Response} (balanced : account.Balanced) (sized : account.elementSize ≠ 0)
    (responds : account.Responds before .allocate first)
    (answered : first.answer = .allocated (some handle))
    (returns : first.account.bare.Responds company (.free handle.index) second) :
    account.bare.ThereAndBack company first.move second := by
  have released_eq {taken released : Slab} (takes : account.takeHandle = .ok (handle, taken))
      (releases : taken.bare.release handle.index = .ok released) :
      released = { account.bare with hint := some handle.index } :=
    Except.ok.inj
      (releases.symm.trans (Slab.release_bare (balanced.release_of_takeHandle takes)))
  cases responds with
  | unsizedGiven unsized => exact absurd unsized sized
  | nothingGiven => cases answered
  -- The count after the first request decides between the cases of the second.
  | lastGiven _ takes exhausted =>
      cases answered
      have one := Slab.available_of_take (Slab.take_of_takeHandle takes).1
      rw [exhausted] at one
      cases returns with
      | unsizedReturned unsized =>
          exact absurd ((Slab.fields_of_takeHandle takes).2.symm.trans unsized) sized
      | firstReturned _ releases _ =>
          rw [released_eq takes releases]
          exact .last one
      | returned _ _ room _ | retired _ _ room => exact absurd exhausted room
  | given _ takes left =>
      cases answered
      have one := Slab.available_of_take (Slab.take_of_takeHandle takes).1
      have several : 2 ≤ account.available := by omega
      cases returns with
      | unsizedReturned unsized =>
          exact absurd ((Slab.fields_of_takeHandle takes).2.symm.trans unsized) sized
      | firstReturned _ _ exhausted => exact absurd exhausted left
      | returned _ releases _ kept =>
          rw [released_eq takes releases] at kept ⊢
          exact .kept several kept
      | retired _ releases _ allFree accompanied =>
          rw [released_eq takes releases] at allFree ⊢
          exact .idle several allFree accompanied

namespace Pool

structure Idle (pool : Pool) (id : Nat) (slab : Slab) : Prop where
  all_free : slab.available = slab.capacity
  two_le_capacity : 2 ≤ slab.capacity
  company : pool.InCompany id

/-- What is left where an element went out and came back at once. The slab has its element again,
and what became of its place depends on how many it had. -/
structure Restored (before after : Pool) (id head : Nat) (resident : Bool) (slab left : Slab) :
    Prop where
  occupancy_eq : left.occupancy = slab.occupancy
  available_eq : left.available = slab.available
  of_last : slab.available = 1 → resident = true ∧
    (∃ ids, before.ring head = .ok ids ∧ after.ring head = .ok (id :: ids.erase id)) ∧
    ∀ other ids, other ≠ head → before.ring other = .ok ids →
      after.ring other = .ok (ids.erase id)
  of_idle : before.Idle id slab → resident = false ∧ left.isLinked = .ok false ∧
    left.active = false ∧ ∀ other ids, before.ring other = .ok ids →
      after.ring other = .ok (ids.erase id)
  otherwise : slab.available ≠ 1 → ¬before.Idle id slab → resident = true ∧
    ∀ other ids, before.ring other = .ok ids → after.ring other = .ok ids

variable {pool middle after : Pool} {lists : Lists} {id head : Nat} {slab left : Slab}
  {resident : Bool}

theorem Rings.restored {move : Move} {response : Response} (rings : pool.Rings lists)
    (live : pool.slab id = .ok slab) (isHead : pool.IsHead head)
    (back : slab.bare.ThereAndBack ((lists.move head id move).Accompanied id) move response)
    (answered : response.answer = .freed resident) (leftLive : after.slab id = .ok left)
    (same : left.bare = response.account)
    (afterRings : after.Rings ((lists.move head id move).move head id response.move)) :
    pool.Restored after id head resident slab left := by
  have occupancy_eq : left.bare.occupancy = response.account.occupancy := by rw [same]
  have available_eq : left.bare.available = response.account.available := by rw [same]
  have active_eq : left.bare.active = response.account.active := by rw [same]
  cases back with
  | last one =>
      cases answered
      rcases (rings.isHead_iff head).mp isHead with ⟨ids, present⟩
      exact {
        occupancy_eq := occupancy_eq
        available_eq := available_eq
        of_last := by
          intro _
          refine ⟨rfl, ⟨ids, rings.ring_eq present, afterRings.ring_eq ?_⟩, ?_⟩
          · simp [Lists.move, Lists.pushFront, Lists.remove, present]
          · intro other others different read
            apply afterRings.ring_eq
            simp [Lists.move, Lists.pushFront, Lists.remove, different,
              rings.ring_eq_ok_iff.mp read]
        of_idle := by
          intro idle
          have allFree := idle.all_free
          have several := idle.two_le_capacity
          change slab.available = 1 at one
          omega
        otherwise := fun several _ => absurd one several }
  | kept several kept =>
      cases answered
      have notLast : slab.available ≠ 1 := Nat.ne_of_gt several
      have notIdle : ¬pool.Idle id slab := fun idle =>
        kept ⟨idle.all_free, rings.accompanied_iff.mpr idle.company⟩
      exact {
        occupancy_eq := occupancy_eq
        available_eq := available_eq
        of_last := fun one => absurd one notLast
        of_idle := fun idle => absurd idle notIdle
        otherwise := by
          intro _ _
          refine ⟨rfl, ?_⟩
          intro other ids read
          exact afterRings.ring_eq (rings.ring_eq_ok_iff.mp read) }
  | idle several allFree accompanied =>
      cases answered
      have notLast : slab.available ≠ 1 := Nat.ne_of_gt several
      have isIdle : pool.Idle id slab :=
        ⟨allFree, allFree ▸ several, rings.accompanied_iff.mp accompanied⟩
      have detached := rings.isLinked_of_remove ⟨slab, live⟩ afterRings leftLive
      exact {
        occupancy_eq := occupancy_eq
        available_eq := available_eq
        of_last := fun one => absurd one notLast
        of_idle := by
          intro _
          refine ⟨rfl, detached, active_eq, ?_⟩
          intro other ids read
          apply afterRings.ring_eq
          simp [Lists.move, Lists.remove, rings.ring_eq_ok_iff.mp read]
        otherwise := fun _ notIdle => absurd isIdle notIdle }

theorem Rings.exists_free_of_given {pageSize : UInt64} {handle : Handle} {first : Response}
    (rings : pool.Rings lists) (live : pool.slab id = .ok slab) (isHead : pool.IsHead head)
    (sized : slab.elementSize ≠ 0)
    (responds : slab.bare.Responds (lists.Accompanied id) .allocate first)
    (answered : first.answer = .allocated (some handle))
    (settled : pool.Settled lists id head first middle) (reachable : Reachable pageSize middle)
    (few : middle.counters.frees + 1 < wordValues)
    (fewer : middle.counters.retirements + 1 < wordValues) :
    ∃ resident after, middle.free id head handle.index = .ok (resident, after) := by
  rcases settled.exists_slab (account_of_slab live) with ⟨used, usedLive, same⟩
  have occupancy_eq : used.bare.occupancy = first.account.occupancy := by rw [same]
  have available_eq : used.bare.available = first.account.available := by rw [same]
  have counted (active : used.active = true) : 1 ≤ middle.counters.activeSlabs :=
    one_le_activeSlabs_of_counted reachable.activeSlabs_eq_total usedLive active
  have returnable (out : handle.index ∈ first.account.occupancy)
      (place : first.account.available = 0 →
        (lists.move head id first.move).Allows head id .join) :
      ∃ resident after, middle.free id head handle.index = .ok (resident, after) := by
    rw [← occupancy_eq] at out
    rw [← available_eq] at place
    exact settled.rings.exists_free usedLive (reachable.balanced usedLive).1 (fun _ => out) counted
      few fewer (fun _ => place)
  cases responds with
  | unsizedGiven unsized => exact absurd unsized sized
  | nothingGiven => cases answered
  | given _ takes left =>
      cases answered
      exact returnable (Slab.mem_of_takeHandle takes) (fun exhausted => absurd exhausted left)
  | lastGiven _ takes _ =>
      cases answered
      rcases (rings.isHead_iff head).mp isHead with ⟨ids, present⟩
      have joins : (lists.remove id).Allows head id .join := by
        refine ⟨⟨ids.erase id, ?_⟩, rings.not_has_remove ⟨slab, live⟩⟩
        rw [Lists.remove, present, Option.map_some]
      exact returnable (Slab.mem_of_takeHandle takes) (fun _ => joins)

end Pool

/-- After any history short enough for the counters, an element that is handed out can come back
under any head, by the index that its handle names. The slab has it again as before. It comes first
on the ring of the head where it was the last element, is given up where the slab was idle, and all
rings are as before otherwise. -/
theorem restored_by_return {pageSize : UInt64} {operations : List Operation}
    {answers : List Answer} {pool middle : Pool} {id head : Nat} {slab : Slab} {handle : Handle}
    (ran : (Pool.empty pageSize).run operations = .ok (answers, pool))
    (short : operations.length + 2 < wordValues) (isHead : pool.IsHead head)
    (live : pool.slab id = .ok slab) (sized : slab.elementSize ≠ 0)
    (allocated : pool.allocate id = .ok (some handle, middle)) :
    ∃ resident after left,
      middle.free id head (Handle.mk handle.raw).index = .ok (resident, after) ∧
      after.slab id = .ok left ∧ pool.Restored after id head resident slab left := by
  have reachable := Reachable.empty.run ran
  rcases reachable.exists_rings with ⟨lists, rings⟩
  have effect : Pool.Effect pool (Request.allocate.on id head) (.allocated (some handle)) middle :=
    Pool.allocate_eq_ok_iff.mp allocated
  have middleReachable := reachable.step (Pool.apply_eq_ok_iff.mpr effect)
  have below : middle.counters.Below (operations.length + 1) := by
    rw [effect.counters]
    exact (below_length ran).advance _ _ _
  have few : middle.counters.frees + 1 < wordValues := by
    have bound := below.frees_le
    omega
  have fewer : middle.counters.retirements + 1 < wordValues := by
    have bound := below.retirements_le
    omega
  rcases rings.settled effect with ⟨account, first, present, responds, answered, settled⟩
  cases (Pool.account_of_slab live).symm.trans present
  rcases rings.exists_free_of_given live isHead sized responds answered settled middleReachable few
    fewer with ⟨resident, after, freed⟩
  have returns : Pool.Effect middle ((Request.free handle.index).on id head) (.freed resident)
      after :=
    Pool.free_eq_ok_iff.mp freed
  rcases settled.rings.settled returns with
    ⟨used, second, usedPresent, respondsThen, answeredThen, settledThen⟩
  have used_eq : used = first.account.bare := by
    rw [settled.account present, Accounts.set_same] at usedPresent
    exact (Option.some.inj usedPresent).symm
  subst used_eq
  rcases settledThen.exists_slab usedPresent with ⟨left, leftLive, same⟩
  have balanced := Slab.balanced_bare.mpr (reachable.balanced live).1
  have back := responds.thereAndBack balanced sized answered respondsThen
  exact ⟨resident, after, left, freed, leftLive,
    rings.restored live isHead back answeredThen leftLive same settledThen.rings⟩

/-- Of three slabs on one ring the first has one element, the second has some out, and the third is
idle. The element comes back under another head. -/
theorem restored_by_return_of_each_kind :
    ∃ answers pool single partly idle,
      (Pool.empty 32).run [.newHead, .newHead, .insert 0 7 0 32, .insert 0 8 32 8, .insert 0 9 64 16,
        .allocate 3] = .ok (answers, pool) ∧
      pool.slab 2 = .ok single ∧ pool.slab 3 = .ok partly ∧ pool.slab 4 = .ok idle ∧
      single.available = 1 ∧ partly.available = 3 ∧ pool.Idle 4 idle ∧
      (∃ handle middle after left, pool.allocate 2 = .ok (some handle, middle) ∧
        middle.free 2 1 handle.index = .ok (true, after) ∧ after.slab 2 = .ok left ∧
        pool.Restored after 2 1 true single left) ∧
      (∃ handle middle after left, pool.allocate 3 = .ok (some handle, middle) ∧
        middle.free 3 1 handle.index = .ok (true, after) ∧ after.slab 3 = .ok left ∧
        pool.Restored after 3 1 true partly left) ∧
      ∃ handle middle after left, pool.allocate 4 = .ok (some handle, middle) ∧
        middle.free 4 1 handle.index = .ok (false, after) ∧ after.slab 4 = .ok left ∧
        pool.Restored after 4 1 false idle left := by
  let single : Slab :=
    { run := ⟨7, 0, 32⟩
      elementSize := 32
      capacity := 1
      available := 1
      hint := some 0
      active := true
      occupancy := ⟨#[0]⟩
      prev := some 3
      next := some 0 }
  let partly : Slab :=
    { run := ⟨8, 32, 32⟩
      elementSize := 8
      capacity := 4
      available := 3
      active := true
      occupancy := ⟨#[1]⟩
      prev := some 4
      next := some 2 }
  let idle : Slab :=
    { run := ⟨9, 64, 32⟩
      elementSize := 16
      capacity := 2
      available := 2
      hint := some 0
      active := true
      occupancy := ⟨#[0]⟩
      prev := some 0
      next := some 3 }
  let pool : Pool :=
    { pageSize := 32
      slots := #[.head ⟨2, 4⟩, .head ⟨1, 1⟩, .slab single, .slab partly, .slab idle]
      counters := { activeSlabs := 3, allocations := 1 } }
  let exhausted : Slab :=
    { single with
      available := 0, hint := none, occupancy := ⟨#[1]⟩, prev := none, next := none }
  let counters : Counters := { activeSlabs := 3, allocations := 2 }
  let withoutSingle : Pool :=
    { pool with
      slots := #[.head ⟨3, 4⟩, .head ⟨1, 1⟩, .slab exhausted, .slab { partly with next := some 0 },
        .slab idle]
      counters }
  let fromPartly : Pool :=
    pool.book 3 { partly with available := 2, hint := none, occupancy := ⟨#[3]⟩ } counters
  let fromIdle : Pool :=
    pool.book 4 { idle with available := 1, hint := none, occupancy := ⟨#[1]⟩ } counters
  have ran : (Pool.empty 32).run [.newHead, .newHead, .insert 0 7 0 32, .insert 0 8 32 8,
      .insert 0 9 64 16, .allocate 3] =
        .ok ([.head 0, .head 1, .inserted (some 2), .inserted (some 3), .inserted (some 4),
          .allocated (some ⟨0x4000000000000008#64⟩)], pool) := by
    decide +kernel
  have givenSingle : pool.allocate 2 = .ok (some ⟨0x4000000000000007#64⟩, withoutSingle) := by
    decide +kernel
  have givenPartly : pool.allocate 3 = .ok (some ⟨0x4000000100000008#64⟩, fromPartly) := by
    decide +kernel
  have givenIdle : pool.allocate 4 = .ok (some ⟨0x4000000000000009#64⟩, fromIdle) := by
    decide +kernel
  have ring : pool.ring 0 = .ok [4, 3, 2] := by decide +kernel
  have isHead : pool.IsHead 1 := ⟨⟨1, 1⟩, rfl⟩
  have isIdle : pool.Idle 4 idle :=
    ⟨rfl, Nat.le_refl 2, 0, [4, 3, 2], ring, by decide, 3, by decide, by decide⟩
  have notIdle : ¬pool.Idle 3 partly := fun isIdle => absurd isIdle.all_free (by decide)
  rcases restored_by_return ran (by decide) isHead rfl (by decide) givenSingle with
    ⟨resident, after, left, freed, live, restored⟩
  rcases restored_by_return ran (by decide) isHead rfl (by decide) givenPartly with
    ⟨residentPartly, afterPartly, leftPartly, freedPartly, livePartly, restoredPartly⟩
  rcases restored_by_return ran (by decide) isHead rfl (by decide) givenIdle with
    ⟨residentIdle, afterIdle, leftIdle, freedIdle, liveIdle, restoredIdle⟩
  have stays := (restored.of_last rfl).1
  have staysPartly := (restoredPartly.otherwise (by decide) notIdle).1
  have leaves := (restoredIdle.of_idle isIdle).1
  subst stays staysPartly leaves
  exact ⟨_, pool, single, partly, idle, ran, rfl, rfl, rfl, rfl, rfl, isIdle,
    ⟨_, _, after, left, givenSingle, freed, live, restored⟩,
    ⟨_, _, afterPartly, leftPartly, givenPartly, freedPartly, livePartly, restoredPartly⟩,
    ⟨_, _, afterIdle, leftIdle, givenIdle, freedIdle, liveIdle, restoredIdle⟩⟩

end SlabRings
