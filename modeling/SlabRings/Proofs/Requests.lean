import SlabRings.Proofs.Pool.Counting
import SlabRings.Proofs.Rings.Determined
import SlabRings.Proofs.Rings.Refinement

/-!
# Requests to one slab

What a slab does when an element is asked of it, or given back to it, depends on
its account and on whether it has company on its ring. It answers, its account
changes, it stays where it is, joins a ring or leaves its own, and the counters
advance. A pool carries out a request exactly if its slab responds to it, the
counters have room and the lists allow the move; the pool afterwards is then
settled by the response.
-/

namespace SlabRings

open Checked (wordValues)

inductive Request where
  | allocate
  | free (element : Nat)
deriving DecidableEq, Repr

/-- The request as an operation on the slab. Where the slab joins a ring, it is that of the head. -/
def Request.on (id head : Nat) : Request → Operation
  | allocate => .allocate id
  | free element => .free id head element

/-! ## Places -/

inductive Move where
  | stay
  | join
  | leave
deriving DecidableEq, Repr

namespace Lists

def move (lists : Lists) (head id : Nat) : Move → Lists
  | .stay => lists
  | .join => lists.pushFront head id
  | .leave => lists.remove id

def Allows (lists : Lists) (head id : Nat) : Move → Prop
  | .stay => True
  | .join => (∃ ids, lists head = some ids) ∧ ∀ other, ¬lists.Has other id
  | .leave => ∃ other, lists.Has other id

end Lists

/-! ## Counts -/

inductive Tally where
  | nothing
  | given
  | returned
  | retired
deriving DecidableEq, Repr

namespace Tally

def Fits (counters : Counters) : Tally → Prop
  | nothing => True
  | given => counters.allocations + 1 < wordValues
  | returned => counters.frees + 1 < wordValues
  | retired => counters.frees + 1 < wordValues ∧ 1 ≤ counters.activeSlabs ∧
      counters.retirements + 1 < wordValues

def add (counters : Counters) : Tally → Counters
  | nothing => counters
  | given => { counters with allocations := counters.allocations + 1 }
  | returned => { counters with frees := counters.frees + 1 }
  | retired =>
      { counters with
        activeSlabs := counters.activeSlabs - 1
        frees := counters.frees + 1
        retirements := counters.retirements + 1 }

end Tally

/-! ## Responses -/

structure Response where
  answer : Answer
  account : Slab
  tally : Tally
  move : Move

/-- What a slab with this account does on a request, in company or without. -/
inductive Slab.Responds (account : Slab) (company : Prop) : Request → Response → Prop where
  | unsizedGiven {handle : Handle} (unsized : account.elementSize = 0)
      (packed : account.handle 0 = .ok handle) :
      Responds account company .allocate ⟨.allocated (some handle), account, .nothing, .stay⟩
  | nothingGiven (sized : account.elementSize ≠ 0) (closed : ¬account.CanServe) :
      Responds account company .allocate ⟨.allocated none, account, .nothing, .stay⟩
  | given {handle : Handle} {taken : Slab} (serves : account.CanServe)
      (takes : account.takeHandle = .ok (handle, taken)) (left : taken.available ≠ 0) :
      Responds account company .allocate ⟨.allocated (some handle), taken, .given, .stay⟩
  | lastGiven {handle : Handle} {taken : Slab} (serves : account.CanServe)
      (takes : account.takeHandle = .ok (handle, taken)) (exhausted : taken.available = 0) :
      Responds account company .allocate ⟨.allocated (some handle), taken, .given, .leave⟩
  | unsizedReturned {element : Nat} (unsized : account.elementSize = 0) :
      Responds account company (.free element) ⟨.freed true, account, .nothing, .stay⟩
  | firstReturned {element : Nat} {released : Slab} (sized : account.elementSize ≠ 0)
      (releases : account.release element = .ok released) (exhausted : account.available = 0) :
      Responds account company (.free element) ⟨.freed true, released, .returned, .join⟩
  | returned {element : Nat} {released : Slab} (sized : account.elementSize ≠ 0)
      (releases : account.release element = .ok released) (room : account.available ≠ 0)
      (kept : ¬(released.available = released.capacity ∧ company)) :
      Responds account company (.free element) ⟨.freed true, released, .returned, .stay⟩
  | retired {element : Nat} {released : Slab} (sized : account.elementSize ≠ 0)
      (releases : account.release element = .ok released) (room : account.available ≠ 0)
      (allFree : released.available = released.capacity) (accompanied : company) :
      Responds account company (.free element) ⟨.freed false, released.retire, .retired, .leave⟩

namespace Slab.Responds

variable {account : Slab} {company : Prop} {request : Request} {response second : Response}

theorem unique (responds : account.Responds company request response)
    (again : account.Responds company request second) : response = second := by
  cases responds with
  | unsizedGiven unsized packed =>
      cases again with
      | unsizedGiven _ packedAgain =>
          cases packed.symm.trans packedAgain
          rfl
      | nothingGiven sized => exact absurd unsized sized
      | given serves | lastGiven serves => exact absurd unsized serves.1
  | nothingGiven sized closed =>
      cases again with
      | unsizedGiven unsized => exact absurd unsized sized
      | nothingGiven => rfl
      | given serves | lastGiven serves => exact absurd serves closed
  | given serves takes left =>
      cases again with
      | unsizedGiven unsized => exact absurd unsized serves.1
      | nothingGiven _ closed => exact absurd serves closed
      | given _ takesAgain =>
          cases takes.symm.trans takesAgain
          rfl
      | lastGiven _ takesAgain exhausted =>
          cases takes.symm.trans takesAgain
          exact absurd exhausted left
  | lastGiven serves takes exhausted =>
      cases again with
      | unsizedGiven unsized => exact absurd unsized serves.1
      | nothingGiven _ closed => exact absurd serves closed
      | given _ takesAgain left =>
          cases takes.symm.trans takesAgain
          exact absurd exhausted left
      | lastGiven _ takesAgain =>
          cases takes.symm.trans takesAgain
          rfl
  | unsizedReturned unsized =>
      cases again with
      | unsizedReturned => rfl
      | firstReturned sized | returned sized | retired sized => exact absurd unsized sized
  | firstReturned sized releases exhausted =>
      cases again with
      | unsizedReturned unsized => exact absurd unsized sized
      | firstReturned _ releasesAgain =>
          cases releases.symm.trans releasesAgain
          rfl
      | returned _ _ room | retired _ _ room => exact absurd exhausted room
  | returned sized releases room kept =>
      cases again with
      | unsizedReturned unsized => exact absurd unsized sized
      | firstReturned _ _ exhausted => exact absurd exhausted room
      | returned _ releasesAgain =>
          cases releases.symm.trans releasesAgain
          rfl
      | retired _ releasesAgain _ allFree accompanied =>
          cases releases.symm.trans releasesAgain
          exact absurd ⟨allFree, accompanied⟩ kept
  | retired sized releases room allFree accompanied =>
      cases again with
      | unsizedReturned unsized => exact absurd unsized sized
      | firstReturned _ _ exhausted => exact absurd exhausted room
      | returned _ releasesAgain _ kept =>
          cases releases.symm.trans releasesAgain
          exact absurd ⟨allFree, accompanied⟩ kept
      | retired _ releasesAgain =>
          cases releases.symm.trans releasesAgain
          rfl

theorem of_allocate (responds : account.Responds company .allocate response) (other : Prop) :
    account.Responds other .allocate response := by
  cases responds with
  | unsizedGiven unsized packed => exact .unsizedGiven unsized packed
  | nothingGiven sized closed => exact .nothingGiven sized closed
  | given serves takes left => exact .given serves takes left
  | lastGiven serves takes exhausted => exact .lastGiven serves takes exhausted

end Slab.Responds

namespace Pool

/-! ## Pools without links -/

theorem slab_bare {pool : Pool} {id : Nat} {slab : Slab} (live : pool.slab id = .ok slab) :
    pool.bare.slab id = .ok slab.bare := by
  rw [slab_eq_ok_iff, getElem?_bare, slab_eq_ok_iff.mp live]
  rfl

theorem bare_book (pool : Pool) (id : Nat) (slab : Slab) (counters : Counters) :
    (pool.book id slab counters).bare = pool.bare.book id slab.bare counters := by
  simp [bare, book, store, Slot.bare]

theorem book_self {pool : Pool} {id : Nat} {slab : Slab} (live : pool.slab id = .ok slab) :
    pool.book id slab pool.counters = pool := by
  have stored := slab_eq_ok_iff.mp live
  have writes := writes_store stored (.slab slab)
  have slots : (pool.store id (.slab slab)).slots = pool.slots := by
    apply Array.ext_getElem?
    intro other
    by_cases written : other = id
    · rw [written, writes.written, stored]
    · exact writes.kept other written
  change { pool with slots := (pool.store id (.slab slab)).slots } = pool
  rw [slots]

theorem book_book (pool : Pool) (id : Nat) (first second : Slab) (earlier later : Counters) :
    (pool.book id first earlier).book id second later = pool.book id second later := by
  simp [book, store]

theorem Rings.eq_book {pool other : Pool} {lists : Lists} {id : Nat} {slab new : Slab}
    {counters : Counters} (rings : pool.Rings lists) (otherRings : other.Rings lists)
    (live : pool.slab id = .ok slab) (sameNext : new.next = slab.next)
    (samePrev : new.prev = slab.prev) (same : other.bare = pool.bare.book id new.bare counters) :
    other = pool.book id new counters :=
  (rings.book live new sameNext samePrev counters).eq_of_bare_eq otherRings
    (same.trans (bare_book pool id new counters).symm)

theorem bare_eq_book {pool : Pool} {id : Nat} {slab : Slab} (live : pool.slab id = .ok slab) :
    pool.bare = pool.bare.book id slab.bare pool.counters := by
  rw [← bare_book, book_self live]

theorem bare_of_book_unlink {pool middle : Pool} {id : Nat} {slab : Slab} {earlier : Counters}
    (unlinked : (pool.book id slab earlier).unlink id = .ok middle) (counters : Counters) :
    Pool.bare { middle with counters } = pool.bare.book id slab.bare counters := by
  have same := bare_of_unlink unlinked
  rw [bare_book] at same
  change { middle.bare with counters } = _
  rw [same]
  rfl

/-! ## Settled pools -/

/-- The pool after a response: the one account changed, the counters advanced, the slab moved. -/
structure Settled (pool : Pool) (lists : Lists) (id head : Nat) (response : Response)
    (after : Pool) : Prop where
  fits : response.tally.Fits pool.counters
  allowed : lists.Allows head id response.move
  bare : after.bare = pool.bare.book id response.account (response.tally.add pool.counters)
  rings : after.Rings (lists.move head id response.move)

namespace Settled

variable {pool after other : Pool} {lists : Lists} {id head : Nat} {response : Response}

theorem account (settled : pool.Settled lists id head response after) {account : Slab}
    (present : pool.account id = some account) :
    after.account = Accounts.set pool.account id (some response.account.bare) := by
  rcases account_eq_some_iff.mp present with ⟨slab, live, _⟩
  rw [← account_bare after, settled.bare, account_book (slab_bare live), account_bare]

theorem counters (settled : pool.Settled lists id head response after) :
    after.counters = response.tally.add pool.counters :=
  (congrArg Pool.counters settled.bare : after.bare.counters = _)

theorem exists_slab (settled : pool.Settled lists id head response after) {account : Slab}
    (present : pool.account id = some account) :
    ∃ left, after.slab id = .ok left ∧ left.bare = response.account := by
  rcases account_eq_some_iff.mp present with ⟨slab, live, _⟩
  have stored := slab_book (slab_bare live) response.account (response.tally.add pool.counters)
  rw [← settled.bare] at stored
  have presentAfter : after.account id = some response.account.bare := by
    rw [settled.account present, Accounts.set_same]
  rcases account_eq_some_iff.mp presentAfter with ⟨left, leftLive, _⟩
  exact ⟨left, leftLive, Except.ok.inj ((slab_bare leftLive).symm.trans stored)⟩

theorem unique (settled : pool.Settled lists id head response after)
    (again : pool.Settled lists id head response other) : after = other :=
  again.rings.eq_of_bare_eq settled.rings (settled.bare.trans again.bare.symm)

end Settled

/-! ## Requests and responses -/

namespace Rings

variable {pool after : Pool} {lists : Lists} {id head : Nat} {request : Request}
  {answer : Answer} {response : Response}

theorem allows_join (rings : pool.Rings lists) (linked : pool.link id head = .ok after) :
    lists.Allows head id .join := by
  rcases link_spec linked with ⟨_, slab, _, live, _, detached, _, _⟩
  refine ⟨rings.present_of_link linked, ?_⟩
  intro other has
  exact (rings.next_ne_none_iff live).mpr ⟨other, has⟩ detached

theorem allows_leave (rings : pool.Rings lists) (unlinked : pool.unlink id = .ok after)
    (head : Nat) : lists.Allows head id .leave := by
  rcases unlink_spec unlinked with ⟨slab, _, _, live, _, ahead, _, _⟩
  exact (rings.next_ne_none_iff live).mp (by simp [ahead])

private theorem settled_allocate (rings : pool.Rings lists)
    (effect : Effect pool (.allocate id) answer after) :
    ∃ account response, pool.account id = some account ∧
      account.Responds (lists.Accompanied id) .allocate response ∧ response.answer = answer ∧
      pool.Settled lists id head response after := by
  have moved := effect.rings rings
  cases effect with
  | unsizedGiven live unsized packed =>
      exact ⟨_, _, account_of_slab live, .unsizedGiven unsized packed, rfl, trivial, trivial,
        bare_eq_book live, rings⟩
  | nothingGiven live sized closed =>
      exact ⟨_, _, account_of_slab live, .nothingGiven sized closed, rfl, trivial, trivial,
        bare_eq_book live, rings⟩
  | given live serves takes left counted =>
      rcases Counters.allocated_eq_ok_iff.mp counted with ⟨few, rfl⟩
      have one := Slab.available_of_take (Slab.take_of_takeHandle takes).1
      refine ⟨_, _, account_of_slab live, .given serves (Slab.takeHandle_bare takes) left, rfl,
        few, trivial, bare_book _ _ _ _, ?_⟩
      simpa [Lists.advance, Lists.move, hasFree_eq live, one, left] using moved
  | @lastGiven _ slab taken handle counters middle live serves takes exhausted unlinked counted =>
      rcases Slab.links_of_takeHandle takes with ⟨samePrev, sameNext⟩
      have one := Slab.available_of_take (Slab.take_of_takeHandle takes).1
      change (pool.book id taken pool.counters).unlink id = .ok middle at unlinked
      have booked := rings.book live taken sameNext samePrev pool.counters
      rw [counters_of_bare_eq (bare_of_unlink unlinked), counters_book] at counted
      rcases Counters.allocated_eq_ok_iff.mp counted with ⟨few, rfl⟩
      refine ⟨_, _, account_of_slab live, .lastGiven serves (Slab.takeHandle_bare takes) exhausted,
        rfl, few, booked.allows_leave unlinked head, bare_of_book_unlink unlinked _, ?_⟩
      simpa [Lists.advance, Lists.move, hasFree_eq live, serves.1, one, exhausted] using moved

private theorem settled_free {element : Nat} (rings : pool.Rings lists)
    (effect : Effect pool (.free id head element) answer after) :
    ∃ account response, pool.account id = some account ∧
      account.Responds (lists.Accompanied id) (.free element) response ∧
      response.answer = answer ∧ pool.Settled lists id head response after := by
  have moved := effect.rings rings
  cases effect with
  | unsizedReturned live unsized =>
      exact ⟨_, _, account_of_slab live, .unsizedReturned unsized, rfl, trivial, trivial,
        bare_eq_book live, rings⟩
  | @firstReturned _ _ _ slab released _ _ live sized releases exhausted counted linked =>
      rcases Slab.links_of_release releases with ⟨samePrev, sameNext⟩
      rcases Counters.freed_eq_ok_iff.mp counted with ⟨few, rfl⟩
      have booked := rings.book live released sameNext samePrev
        { pool.counters with frees := pool.counters.frees + 1 }
      refine ⟨_, _, account_of_slab live, .firstReturned sized (Slab.release_bare releases)
        exhausted, rfl, few, booked.allows_join linked,
        (bare_of_link linked).trans (bare_book _ _ _ _), ?_⟩
      simpa [Lists.advance, Lists.move, hasFree_eq live, sized, exhausted] using moved
  | returned live sized releases room kept counted =>
      rcases Slab.links_of_release releases with ⟨samePrev, sameNext⟩
      rcases Counters.freed_eq_ok_iff.mp counted with ⟨few, rfl⟩
      rw [samePrev, sameNext, rings.prev_ne_next_iff live] at kept
      refine ⟨_, _, account_of_slab live, .returned sized (Slab.release_bare releases) room kept,
        rfl, few, trivial, bare_book _ _ _ _, ?_⟩
      simpa [Lists.advance, Lists.move, hasFree_eq live, room] using moved
  | @retired _ _ _ slab released _ _ _ live sized releases room allFree company countedReturn
      unlinked countedRetirement =>
      rcases Slab.links_of_release releases with ⟨samePrev, sameNext⟩
      rcases Counters.freed_eq_ok_iff.mp countedReturn with ⟨few, rfl⟩
      have booked := rings.book live released.retire sameNext samePrev
        { pool.counters with frees := pool.counters.frees + 1 }
      rw [counters_of_bare_eq (bare_of_unlink unlinked), counters_book] at countedRetirement
      rcases Counters.retired_eq_ok_iff.mp countedRetirement with ⟨some, fewer, rfl⟩
      rw [samePrev, sameNext, rings.prev_ne_next_iff live] at company
      refine ⟨_, _, account_of_slab live, .retired sized (Slab.release_bare releases) room allFree
        company, rfl, ⟨few, some, fewer⟩, booked.allows_leave unlinked head,
        bare_of_book_unlink unlinked _, ?_⟩
      simpa [Lists.advance, Lists.move, hasFree_eq live, room] using moved

theorem settled (rings : pool.Rings lists)
    (effect : Effect pool (request.on id head) answer after) :
    ∃ account response, pool.account id = some account ∧
      account.Responds (lists.Accompanied id) request response ∧ response.answer = answer ∧
      pool.Settled lists id head response after := by
  cases request with
  | allocate => exact rings.settled_allocate effect
  | free element => exact rings.settled_free effect

theorem exists_given_of_takeHandle {slab taken : Slab} {handle : Handle}
    (rings : pool.Rings lists) (live : pool.slab id = .ok slab) (serves : slab.CanServe)
    (takes : slab.takeHandle = .ok (handle, taken))
    (linked : taken.available = 0 → slab.next ≠ none)
    (few : pool.counters.allocations + 1 < wordValues) :
    ∃ after, Effect pool (.allocate id) (.allocated (some handle)) after := by
  rcases Slab.links_of_takeHandle takes with ⟨samePrev, sameNext⟩
  by_cases exhausted : taken.available = 0
  · have stillLinked : taken.next ≠ none := by
      rw [sameNext]
      exact linked exhausted
    have stored : (pool.store id (.slab taken)).Rings lists :=
      rings.book live taken sameNext samePrev pool.counters
    have storedLive : (pool.store id (.slab taken)).slab id = .ok taken :=
      slab_book live taken pool.counters
    rcases stored.exists_unlink storedLive stillLinked with ⟨middle, unlinked⟩
    rw [← counters_store pool id (.slab taken),
      ← counters_of_bare_eq (bare_of_unlink unlinked)] at few
    have counted := Counters.allocated_eq_ok_iff.mpr ⟨few, rfl⟩
    exact ⟨_, .lastGiven live serves takes exhausted unlinked counted⟩
  · have counted := Counters.allocated_eq_ok_iff.mpr ⟨few, rfl⟩
    exact ⟨_, .given live serves takes exhausted counted⟩

theorem exists_effect (rings : pool.Rings lists) {account : Slab}
    (present : pool.account id = some account)
    (responds : account.Responds (lists.Accompanied id) request response)
    (fits : response.tally.Fits pool.counters) (allowed : lists.Allows head id response.move) :
    ∃ after, Effect pool (request.on id head) response.answer after := by
  rcases account_eq_some_iff.mp present with ⟨slab, live, rfl⟩
  cases responds with
  | unsizedGiven unsized packed => exact ⟨pool, .unsizedGiven live unsized packed⟩
  | nothingGiven sized closed => exact ⟨pool, .nothingGiven live sized closed⟩
  | given serves accountTakes left =>
      rcases Slab.exists_takeHandle_of_bare accountTakes with ⟨taken, takes, rfl⟩
      exact rings.exists_given_of_takeHandle live serves takes
        (fun exhausted => absurd exhausted left) fits
  | lastGiven serves accountTakes exhausted =>
      rcases Slab.exists_takeHandle_of_bare accountTakes with ⟨taken, takes, rfl⟩
      exact rings.exists_given_of_takeHandle live serves takes
        (fun _ => (rings.next_ne_none_iff live).mpr allowed) fits
  | unsizedReturned unsized => exact ⟨pool, .unsizedReturned live unsized⟩
  | firstReturned sized accountReleases exhausted =>
      rcases Slab.exists_release_of_bare accountReleases with ⟨released, releases, rfl⟩
      rcases Slab.links_of_release releases with ⟨samePrev, sameNext⟩
      have counted := Counters.freed_eq_ok_iff.mpr ⟨fits, rfl⟩
      have booked := rings.book live released sameNext samePrev
        { pool.counters with frees := pool.counters.frees + 1 }
      have isHead := (booked.isHead_iff head).mpr allowed.1
      have detached : released.prev = none ∧ released.next = none := by
        rcases rings.linked_or_free live with ⟨other, _, _, has, _⟩ | ⟨prev, next, _⟩
        · exact absurd has (allowed.2 other)
        · exact ⟨samePrev.trans prev, sameNext.trans next⟩
      rcases booked.exists_link isHead (slab_book live released _) detached with ⟨after, linked⟩
      exact ⟨after, .firstReturned live sized releases exhausted counted linked⟩
  | returned sized accountReleases room kept =>
      rcases Slab.exists_release_of_bare accountReleases with ⟨released, releases, rfl⟩
      rcases Slab.links_of_release releases with ⟨samePrev, sameNext⟩
      rw [← rings.prev_ne_next_iff live, ← samePrev, ← sameNext] at kept
      have counted := Counters.freed_eq_ok_iff.mpr ⟨fits, rfl⟩
      exact ⟨_, .returned live sized releases room kept counted⟩
  | retired sized accountReleases room allFree accompanied =>
      rcases Slab.exists_release_of_bare accountReleases with ⟨released, releases, rfl⟩
      rcases Slab.links_of_release releases with ⟨samePrev, sameNext⟩
      rw [← rings.prev_ne_next_iff live, ← samePrev, ← sameNext] at accompanied
      rcases fits with ⟨few, some, fewer⟩
      have countedReturn := Counters.freed_eq_ok_iff.mpr ⟨few, rfl⟩
      have booked := rings.book live released.retire sameNext samePrev
        { pool.counters with frees := pool.counters.frees + 1 }
      have linked : released.retire.next ≠ none := by
        change released.next ≠ none
        rw [sameNext]
        exact (rings.next_ne_none_iff live).mpr allowed
      rcases booked.exists_unlink (slab_book live released.retire _) linked with
        ⟨middle, unlinked⟩
      have same := counters_of_bare_eq (bare_of_unlink unlinked)
      have stillSome : 1 ≤ middle.counters.activeSlabs := same ▸ some
      have stillFewer : middle.counters.retirements + 1 < wordValues := same ▸ fewer
      have countedRetirement := Counters.retired_eq_ok_iff.mpr ⟨stillSome, stillFewer, rfl⟩
      exact ⟨_, .retired live sized releases room allFree accompanied countedReturn unlinked
        countedRetirement⟩

theorem exists_given {slab : Slab} (rings : pool.Rings lists)
    (live : pool.slab id = .ok slab) (balanced : slab.Balanced)
    (serves : slab.CanServe) (addressable : slab.capacity ≤ Handle.maxIndex + 1)
    (linked : slab.available = 1 → slab.next ≠ none)
    (few : pool.counters.allocations + 1 < wordValues) :
    ∃ handle after, Effect pool (.allocate id) (.allocated (some handle)) after := by
  rcases balanced.exists_takeHandle serves.2.1 addressable with ⟨handle, taken, takes⟩
  have one := Slab.available_of_take (Slab.take_of_takeHandle takes).1
  have lastLinked (exhausted : taken.available = 0) : slab.next ≠ none := linked (by omega)
  exact ⟨handle, rings.exists_given_of_takeHandle live serves takes lastLinked few⟩

theorem exists_free (rings : pool.Rings lists) {element : Nat} {slab : Slab}
    (live : pool.slab id = .ok slab) (balanced : slab.Balanced)
    (out : slab.elementSize ≠ 0 → element ∈ slab.occupancy)
    (counted : slab.active = true → 1 ≤ pool.counters.activeSlabs)
    (few : pool.counters.frees + 1 < wordValues)
    (fewer : pool.counters.retirements + 1 < wordValues)
    (place : slab.elementSize ≠ 0 → slab.available = 0 → lists.Allows head id .join) :
    ∃ resident after, pool.free id head element = .ok (resident, after) := by
  by_cases unsized : slab.elementSize = 0
  · exact ⟨true, pool, free_eq_ok_iff.mpr (.unsizedReturned live unsized)⟩
  rcases balanced.exists_release (out unsized) with ⟨released, releases⟩
  have present := account_of_slab live
  have accountReleases := Slab.release_bare releases
  by_cases exhausted : slab.available = 0
  · rcases rings.exists_effect present (.firstReturned unsized accountReleases exhausted) few
      (place unsized exhausted) with ⟨after, effect⟩
    exact ⟨true, after, free_eq_ok_iff.mpr effect⟩
  by_cases reclaimed : released.available = released.capacity ∧ lists.Accompanied id
  · rcases reclaimed with ⟨allFree, company⟩
    rcases company with ⟨holder, ids, listed, member, several⟩
    have active := balanced.active_of_release releases
    have retires : ∃ after, Effect pool (.free id head element) (.freed false) after :=
      rings.exists_effect present
        (.retired unsized accountReleases exhausted allFree ⟨holder, ids, listed, member, several⟩)
        ⟨few, counted active, fewer⟩ ⟨holder, ids, listed, List.mem_cons_of_mem holder member⟩
    rcases retires with ⟨after, effect⟩
    exact ⟨false, after, free_eq_ok_iff.mpr effect⟩
  · have stays : ∃ after, Effect pool (.free id head element) (.freed true) after :=
      rings.exists_effect present (.returned unsized accountReleases exhausted reclaimed) few
        trivial
    rcases stays with ⟨after, effect⟩
    exact ⟨true, after, free_eq_ok_iff.mpr effect⟩

theorem exists_settled (rings : pool.Rings lists) {account : Slab}
    (present : pool.account id = some account)
    (responds : account.Responds (lists.Accompanied id) request response)
    (fits : response.tally.Fits pool.counters) (allowed : lists.Allows head id response.move) :
    ∃ after, Effect pool (request.on id head) response.answer after ∧
      pool.Settled lists id head response after := by
  rcases rings.exists_effect present responds fits allowed with ⟨after, effect⟩
  rcases rings.settled effect with ⟨same, again, samePresent, respondsAgain, _, settled⟩
  cases present.symm.trans samePresent
  cases responds.unique respondsAgain
  exact ⟨after, effect, settled⟩

/-- A pool carries out a request exactly if the slab responds and the pool can be settled so. -/
theorem effect_iff (rings : pool.Rings lists) :
    Effect pool (request.on id head) answer after ↔
      ∃ account response, pool.account id = some account ∧
        account.Responds (lists.Accompanied id) request response ∧ response.answer = answer ∧
        pool.Settled lists id head response after := by
  constructor
  · exact rings.settled
  · rintro ⟨account, response, present, responds, rfl, settled⟩
    rcases rings.exists_settled present responds settled.fits settled.allowed with
      ⟨other, effect, again⟩
    exact settled.unique again ▸ effect

end Rings

end Pool

end SlabRings
