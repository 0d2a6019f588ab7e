import SlabRings.History
import SlabRings.Proofs.Pool.Writes
import SlabRings.Proofs.Slab.Balance

/-!
# Effects of operations

Everything that an operation can do when it does not fault, case by case:
which guards it passed, which writes it made, and what it answered. The cases
are exact, so they serve both to take a step apart and to show that it succeeds.
-/

namespace SlabRings

open Checked (bind_eq_ok_iff)

def Counters.activatedBy (counters : Counters) (slab : Slab) : Except Fault Counters :=
  if slab.active then .ok counters else counters.activated

def Counters.deactivatedBy (counters : Counters) (slab : Slab) : Except Fault Counters :=
  if slab.active then counters.deactivated else .ok counters

namespace Pool

def book (pool : Pool) (id : Nat) (slab : Slab) (counters : Counters) : Pool :=
  { pool.store id (.slab slab) with counters }

/-- What an operation does to a pool, and what it answers. -/
inductive Effect (pool : Pool) : Operation → Answer → Pool → Prop where
  | headMade {id : Nat} {after : Pool}
      (claimed : pool.claim (fun id => .head ⟨id, id⟩) = .ok (id, after)) :
      Effect pool .newHead (.head id) after
  | sizeRefused {head : Nat} {coordinate : UInt32} {offset elementSize : UInt64}
      (refused : ¬Run.Admits pool.pageSize elementSize) :
      Effect pool (.insert head coordinate offset elementSize) (.inserted none) pool
  | inserted {head id : Nat} {coordinate : UInt32} {offset elementSize : UInt64}
      {middle after : Pool} (admitted : Run.Admits pool.pageSize elementSize)
      (claimed : pool.claim (fun _ => .slab { run := ⟨coordinate, offset, pool.pageSize⟩ }) =
        .ok (id, middle))
      (configured : middle.configure id head elementSize = .ok after) :
      Effect pool (.insert head coordinate offset elementSize) (.inserted (some id)) after
  | configured {id head : Nat} {elementSize : UInt64} {after : Pool}
      (configured : pool.configure id head elementSize = .ok after) :
      Effect pool (.configure id head elementSize) .done after
  | unsizedGiven {id : Nat} {slab : Slab} {handle : Handle}
      (live : pool.slab id = .ok slab) (unsized : slab.elementSize = 0)
      (packed : slab.handle 0 = .ok handle) :
      Effect pool (.allocate id) (.allocated (some handle)) pool
  | nothingGiven {id : Nat} {slab : Slab} (live : pool.slab id = .ok slab)
      (sized : slab.elementSize ≠ 0) (closed : ¬slab.CanServe) :
      Effect pool (.allocate id) (.allocated none) pool
  | given {id : Nat} {slab taken : Slab} {handle : Handle} {counters : Counters}
      (live : pool.slab id = .ok slab) (serves : slab.CanServe)
      (takes : slab.takeHandle = .ok (handle, taken)) (left : taken.available ≠ 0)
      (counted : pool.counters.allocated = .ok counters) :
      Effect pool (.allocate id) (.allocated (some handle)) (pool.book id taken counters)
  | lastGiven {id : Nat} {slab taken : Slab} {handle : Handle} {counters : Counters}
      {middle : Pool} (live : pool.slab id = .ok slab) (serves : slab.CanServe)
      (takes : slab.takeHandle = .ok (handle, taken)) (exhausted : taken.available = 0)
      (unlinked : (pool.store id (.slab taken)).unlink id = .ok middle)
      (counted : middle.counters.allocated = .ok counters) :
      Effect pool (.allocate id) (.allocated (some handle)) { middle with counters }
  | unsizedReturned {id head element : Nat} {slab : Slab}
      (live : pool.slab id = .ok slab) (unsized : slab.elementSize = 0) :
      Effect pool (.free id head element) (.freed true) pool
  | firstReturned {id head element : Nat} {slab released : Slab} {counters : Counters}
      {after : Pool} (live : pool.slab id = .ok slab) (sized : slab.elementSize ≠ 0)
      (releases : slab.release element = .ok released) (exhausted : slab.available = 0)
      (counted : pool.counters.freed = .ok counters)
      (linked : (pool.book id released counters).link id head = .ok after) :
      Effect pool (.free id head element) (.freed true) after
  | returned {id head element : Nat} {slab released : Slab} {counters : Counters}
      (live : pool.slab id = .ok slab) (sized : slab.elementSize ≠ 0)
      (releases : slab.release element = .ok released) (room : slab.available ≠ 0)
      (kept : ¬(released.available = released.capacity ∧ released.prev ≠ released.next))
      (counted : pool.counters.freed = .ok counters) :
      Effect pool (.free id head element) (.freed true) (pool.book id released counters)
  | retired {id head element : Nat} {slab released : Slab} {counted counters : Counters}
      {middle : Pool} (live : pool.slab id = .ok slab) (sized : slab.elementSize ≠ 0)
      (releases : slab.release element = .ok released) (room : slab.available ≠ 0)
      (allFree : released.available = released.capacity)
      (company : released.prev ≠ released.next)
      (countedReturn : pool.counters.freed = .ok counted)
      (unlinked : (pool.book id released.retire counted).unlink id = .ok middle)
      (countedRetirement : middle.counters.retired = .ok counters) :
      Effect pool (.free id head element) (.freed false) { middle with counters }
  | linked {id head : Nat} {after : Pool} (linked : pool.link id head = .ok after) :
      Effect pool (.link id head) .done after
  | unlinked {id : Nat} {after : Pool} (unlinked : pool.unlink id = .ok after) :
      Effect pool (.unlink id) .done after
  | destroyed {id : Nat} {slab : Slab} {counters : Counters} (live : pool.slab id = .ok slab)
      (detached : slab.isLinked = .ok false)
      (counted : pool.counters.deactivatedBy slab = .ok counters) :
      Effect pool (.destroy id) (.released slab.run) { pool.vacate id with counters }

/-! ## The cases are exact -/

theorem writes_book {pool : Pool} {id : Nat} {old : Slab} (live : pool.slab id = .ok old)
    (new : Slab) (counters : Counters) :
    pool.Writes id (.slab new) (pool.book id new counters) where
  written := (writes_store (slab_eq_ok_iff.mp live) _).written
  kept := (writes_store (slab_eq_ok_iff.mp live) _).kept

theorem slab_book {pool : Pool} {id : Nat} {old : Slab} (live : pool.slab id = .ok old)
    (new : Slab) (counters : Counters) : (pool.book id new counters).slab id = .ok new :=
  slab_eq_ok_iff.mpr (writes_book live new counters).written

@[simp] theorem counters_book (pool : Pool) (id : Nat) (slab : Slab) (counters : Counters) :
    (pool.book id slab counters).counters = counters :=
  rfl

@[simp] theorem counters_store (pool : Pool) (id : Nat) (slot : Slot) :
    (pool.store id slot).counters = pool.counters :=
  rfl

theorem store_book (pool : Pool) (id : Nat) (first second : Slab) (counters : Counters) :
    (pool.book id first counters).store id (.slab second) = pool.book id second counters := by
  simp [book, store]

theorem tally_store_eq_ok_iff {pool after : Pool} {id : Nat} {slab : Slab}
    {change : Counters → Except Fault Counters} :
    (pool.store id (.slab slab)).tally change = .ok after ↔
      ∃ counters, change pool.counters = .ok counters ∧ after = pool.book id slab counters :=
  tally_eq_ok_iff

theorem configure_eq_ok_iff {pool after : Pool} {id head : Nat} {elementSize : UInt64} :
    pool.configure id head elementSize = .ok after ↔
      ∃ slab counters, pool.slab id = .ok slab ∧ pool.counters.activatedBy slab = .ok counters ∧
        (pool.book id (slab.divide elementSize) counters).link id head = .ok after := by
  unfold configure
  rw [bind_eq_ok_iff]
  constructor
  · intro ⟨slab, live, rest⟩
    dsimp only at rest
    by_cases active : slab.active = true
    · rw [if_pos active] at rest
      exact ⟨slab, pool.counters, live, if_pos active, rest⟩
    · rw [if_neg active] at rest
      rcases bind_eq_ok_iff.mp rest with ⟨middle, counted, linked⟩
      rcases tally_store_eq_ok_iff.mp counted with ⟨counters, activated, rfl⟩
      exact ⟨slab, counters, live, (if_neg active).trans activated, linked⟩
  · intro ⟨slab, counters, live, counted, linked⟩
    refine ⟨slab, live, ?_⟩
    dsimp only
    unfold Counters.activatedBy at counted
    by_cases active : slab.active = true
    · rw [if_pos active] at counted ⊢
      cases counted
      exact linked
    · rw [if_neg active] at counted ⊢
      exact bind_eq_ok_iff.mpr ⟨_, tally_store_eq_ok_iff.mpr ⟨counters, counted, rfl⟩, linked⟩

theorem allocate_eq_ok_iff {pool after : Pool} {id : Nat} {answer : Option Handle} :
    pool.allocate id = .ok (answer, after) ↔
      Effect pool (.allocate id) (.allocated answer) after := by
  unfold allocate
  rw [bind_eq_ok_iff]
  constructor
  · intro ⟨slab, live, rest⟩
    by_cases unsized : slab.elementSize = 0
    · rw [if_pos unsized] at rest
      rcases bind_eq_ok_iff.mp rest with ⟨handle, packed, answered⟩
      cases answered
      exact .unsizedGiven live unsized packed
    rw [if_neg unsized] at rest
    by_cases serves : slab.CanServe
    · rw [if_pos serves] at rest
      rcases bind_eq_ok_iff.mp rest with ⟨⟨handle, taken⟩, takes, rest⟩
      dsimp only at rest
      by_cases exhausted : taken.available = 0
      · rw [if_pos exhausted] at rest
        rcases bind_eq_ok_iff.mp rest with ⟨middle, unlinked, rest⟩
        rcases bind_eq_ok_iff.mp rest with ⟨counted, tallied, answered⟩
        rcases tally_eq_ok_iff.mp tallied with ⟨counters, counts, rfl⟩
        cases answered
        exact .lastGiven live serves takes exhausted unlinked counts
      · rw [if_neg exhausted] at rest
        rcases bind_eq_ok_iff.mp rest with ⟨stored, same, rest⟩
        cases same
        rcases bind_eq_ok_iff.mp rest with ⟨counted, tallied, answered⟩
        rcases tally_store_eq_ok_iff.mp tallied with ⟨counters, counts, rfl⟩
        cases answered
        exact .given live serves takes exhausted counts
    · rw [if_neg serves] at rest
      cases rest
      exact .nothingGiven live unsized serves
  · intro effect
    cases effect with
    | unsizedGiven live unsized packed =>
        refine ⟨_, live, ?_⟩
        rw [if_pos unsized]
        exact bind_eq_ok_iff.mpr ⟨_, packed, rfl⟩
    | nothingGiven live sized closed =>
        refine ⟨_, live, ?_⟩
        rw [if_neg sized, if_neg closed]
        rfl
    | given live serves takes left counted =>
        refine ⟨_, live, ?_⟩
        rw [if_neg serves.1, if_pos serves]
        refine bind_eq_ok_iff.mpr ⟨_, takes, ?_⟩
        dsimp only
        rw [if_neg left]
        refine bind_eq_ok_iff.mpr ⟨_, rfl, ?_⟩
        exact bind_eq_ok_iff.mpr ⟨_, tally_store_eq_ok_iff.mpr ⟨_, counted, rfl⟩, rfl⟩
    | lastGiven live serves takes exhausted unlinked counted =>
        refine ⟨_, live, ?_⟩
        rw [if_neg serves.1, if_pos serves]
        refine bind_eq_ok_iff.mpr ⟨_, takes, ?_⟩
        dsimp only
        rw [if_pos exhausted]
        refine bind_eq_ok_iff.mpr ⟨_, unlinked, ?_⟩
        exact bind_eq_ok_iff.mpr ⟨_, tally_eq_ok_iff.mpr ⟨_, counted, rfl⟩, rfl⟩

private theorem retire_book_eq_ok_iff {pool after : Pool} {id : Nat} {old slab : Slab}
    {counters : Counters} (live : pool.slab id = .ok old) :
    (pool.book id slab counters).retire id = .ok after ↔
      ∃ middle counted, (pool.book id slab.retire counters).unlink id = .ok middle ∧
        middle.counters.retired = .ok counted ∧ after = { middle with counters := counted } := by
  simp only [retire, bind_eq_ok_iff, slab_book live, store_book, Except.ok.injEq, exists_eq_left',
    tally_eq_ok_iff, exists_and_left]

theorem free_eq_ok_iff {pool after : Pool} {id head element : Nat} {answer : Bool} :
    pool.free id head element = .ok (answer, after) ↔
      Effect pool (.free id head element) (.freed answer) after := by
  unfold free
  rw [bind_eq_ok_iff]
  constructor
  · intro ⟨slab, live, rest⟩
    by_cases unsized : slab.elementSize = 0
    · rw [if_pos unsized] at rest
      cases rest
      exact .unsizedReturned live unsized
    rw [if_neg unsized] at rest
    rcases bind_eq_ok_iff.mp rest with ⟨released, releases, rest⟩
    rcases bind_eq_ok_iff.mp rest with ⟨middle, tallied, rest⟩
    rcases tally_store_eq_ok_iff.mp tallied with ⟨counters, counts, rfl⟩
    by_cases exhausted : slab.available = 0
    · rw [if_pos exhausted] at rest
      rcases bind_eq_ok_iff.mp rest with ⟨joined, linked, answered⟩
      cases answered
      exact .firstReturned live unsized releases exhausted counts linked
    rw [if_neg exhausted] at rest
    by_cases reclaimed : released.available = released.capacity ∧ released.prev ≠ released.next
    · rw [if_pos reclaimed] at rest
      rcases bind_eq_ok_iff.mp rest with ⟨gone, retires, answered⟩
      cases answered
      rcases (retire_book_eq_ok_iff live).mp retires with ⟨left, counted, unlinked, retired, rfl⟩
      exact .retired live unsized releases exhausted reclaimed.1 reclaimed.2 counts unlinked retired
    · rw [if_neg reclaimed] at rest
      cases rest
      exact .returned live unsized releases exhausted reclaimed counts
  · intro effect
    cases effect with
    | unsizedReturned live unsized =>
        refine ⟨_, live, ?_⟩
        rw [if_pos unsized]
        rfl
    | firstReturned live sized releases exhausted counted linked =>
        refine ⟨_, live, ?_⟩
        rw [if_neg sized]
        refine bind_eq_ok_iff.mpr ⟨_, releases, bind_eq_ok_iff.mpr
          ⟨_, tally_store_eq_ok_iff.mpr ⟨_, counted, rfl⟩, ?_⟩⟩
        rw [if_pos exhausted]
        exact bind_eq_ok_iff.mpr ⟨_, linked, rfl⟩
    | returned live sized releases room kept counted =>
        refine ⟨_, live, ?_⟩
        rw [if_neg sized]
        refine bind_eq_ok_iff.mpr ⟨_, releases, bind_eq_ok_iff.mpr
          ⟨_, tally_store_eq_ok_iff.mpr ⟨_, counted, rfl⟩, ?_⟩⟩
        rw [if_neg room, if_neg kept]
        rfl
    | retired live sized releases room allFree company countedReturn unlinked countedRetirement =>
        refine ⟨_, live, ?_⟩
        rw [if_neg sized]
        refine bind_eq_ok_iff.mpr ⟨_, releases, bind_eq_ok_iff.mpr
          ⟨_, tally_store_eq_ok_iff.mpr ⟨_, countedReturn, rfl⟩, ?_⟩⟩
        rw [if_neg room, if_pos ⟨allFree, company⟩]
        have retires := (retire_book_eq_ok_iff live).mpr ⟨_, _, unlinked, countedRetirement, rfl⟩
        exact bind_eq_ok_iff.mpr ⟨_, retires, rfl⟩

theorem insert_eq_ok_iff {pool after : Pool} {head : Nat} {coordinate : UInt32}
    {offset elementSize : UInt64} {answer : Option Nat} :
    pool.insert head coordinate offset elementSize = .ok (answer, after) ↔
      Effect pool (.insert head coordinate offset elementSize) (.inserted answer) after := by
  unfold insert
  constructor
  · intro inserted
    by_cases admitted : Run.Admits pool.pageSize elementSize
    · rw [if_pos admitted] at inserted
      rcases bind_eq_ok_iff.mp inserted with ⟨⟨id, middle⟩, claimed, rest⟩
      rcases bind_eq_ok_iff.mp rest with ⟨joined, configured, answered⟩
      cases answered
      exact .inserted admitted claimed configured
    · rw [if_neg admitted] at inserted
      cases inserted
      exact .sizeRefused admitted
  · intro effect
    cases effect with
    | sizeRefused refused => rw [if_neg refused]
    | inserted admitted claimed configured =>
        rw [if_pos admitted]
        exact bind_eq_ok_iff.mpr ⟨_, claimed, bind_eq_ok_iff.mpr ⟨_, configured, rfl⟩⟩

theorem destroy_eq_ok_iff {pool after : Pool} {id : Nat} {answer : Run} :
    pool.destroy id = .ok (answer, after) ↔
      Effect pool (.destroy id) (.released answer) after := by
  unfold destroy
  rw [bind_eq_ok_iff]
  constructor
  · intro ⟨slab, live, rest⟩
    rcases bind_eq_ok_iff.mp rest with ⟨isLinked, linkage, rest⟩
    cases isLinked with
    | true => cases rest
    | false =>
        dsimp only at rest
        by_cases active : slab.active = true
        · simp only [active, if_true, Bool.false_eq_true, if_false] at rest
          rcases bind_eq_ok_iff.mp rest with ⟨middle, tallied, answered⟩
          rcases tally_eq_ok_iff.mp tallied with ⟨counters, counted, rfl⟩
          cases answered
          exact .destroyed live linkage ((if_pos active).trans counted)
        · simp only [active, Bool.false_eq_true, if_false] at rest
          cases rest
          exact .destroyed live linkage (if_neg active)
  · intro effect
    cases effect with
    | @destroyed _ slab counters live detached counted =>
        refine ⟨slab, live, bind_eq_ok_iff.mpr ⟨false, detached, ?_⟩⟩
        unfold Counters.deactivatedBy at counted
        by_cases active : slab.active = true
        · rw [if_pos active] at counted
          simp only [active, if_true, Bool.false_eq_true, if_false]
          exact bind_eq_ok_iff.mpr ⟨_, tally_eq_ok_iff.mpr ⟨_, counted, rfl⟩, rfl⟩
        · rw [if_neg active] at counted
          cases counted
          simp only [active, Bool.false_eq_true, if_false]
          rfl

private theorem answer_eq_ok_iff {transition : Except Fault (α × Pool)} {wrap : α → Answer}
    {answer : Answer} {after : Pool} :
    (do let (result, pool) ← transition; return (wrap result, pool)) = .ok (answer, after) ↔
      ∃ result, answer = wrap result ∧ transition = .ok (result, after) := by
  rw [bind_eq_ok_iff]
  constructor
  · intro ⟨⟨result, pool⟩, ran, answered⟩
    cases answered
    exact ⟨result, rfl, ran⟩
  · rintro ⟨result, rfl, ran⟩
    exact ⟨(result, after), ran, rfl⟩

private theorem done_eq_ok_iff {transition : Except Fault Pool} {answer : Answer} {after : Pool} :
    (do return (Answer.done, ← transition)) = .ok (answer, after) ↔
      answer = .done ∧ transition = .ok after := by
  rw [bind_eq_ok_iff]
  constructor
  · intro ⟨pool, ran, answered⟩
    cases answered
    exact ⟨rfl, ran⟩
  · rintro ⟨rfl, ran⟩
    exact ⟨after, ran, rfl⟩

/-- An operation ends without a fault exactly if one of its effects is open to it. -/
theorem apply_eq_ok_iff {pool after : Pool} {operation : Operation} {answer : Answer} :
    operation.apply pool = .ok (answer, after) ↔ Effect pool operation answer after := by
  cases operation with
  | newHead =>
      refine answer_eq_ok_iff.trans ⟨?_, fun effect => ?_⟩
      · rintro ⟨id, rfl, claimed⟩
        exact .headMade claimed
      · cases effect with
        | headMade claimed => exact ⟨_, rfl, claimed⟩
  | insert head coordinate offset elementSize =>
      refine answer_eq_ok_iff.trans ⟨?_, fun effect => ?_⟩
      · rintro ⟨id, rfl, inserted⟩
        exact insert_eq_ok_iff.mp inserted
      · cases effect with
        | sizeRefused refused => exact ⟨_, rfl, insert_eq_ok_iff.mpr (.sizeRefused refused)⟩
        | inserted admitted claimed configured =>
            exact ⟨_, rfl, insert_eq_ok_iff.mpr (.inserted admitted claimed configured)⟩
  | configure id head elementSize =>
      refine done_eq_ok_iff.trans ⟨?_, fun effect => ?_⟩
      · rintro ⟨rfl, configured⟩
        exact .configured configured
      · cases effect with
        | configured configured => exact ⟨rfl, configured⟩
  | allocate id =>
      refine answer_eq_ok_iff.trans ⟨?_, fun effect => ?_⟩
      · rintro ⟨handle, rfl, allocated⟩
        exact allocate_eq_ok_iff.mp allocated
      · cases answer with
        | allocated handle => exact ⟨handle, rfl, allocate_eq_ok_iff.mpr effect⟩
        | _ => cases effect
  | free id head element =>
      refine answer_eq_ok_iff.trans ⟨?_, fun effect => ?_⟩
      · rintro ⟨resident, rfl, freed⟩
        exact free_eq_ok_iff.mp freed
      · cases answer with
        | freed resident => exact ⟨resident, rfl, free_eq_ok_iff.mpr effect⟩
        | _ => cases effect
  | link id head =>
      refine done_eq_ok_iff.trans ⟨?_, fun effect => ?_⟩
      · rintro ⟨rfl, linked⟩
        exact .linked linked
      · cases effect with
        | linked linked => exact ⟨rfl, linked⟩
  | unlink id =>
      refine done_eq_ok_iff.trans ⟨?_, fun effect => ?_⟩
      · rintro ⟨rfl, unlinked⟩
        exact .unlinked unlinked
      · cases effect with
        | unlinked unlinked => exact ⟨rfl, unlinked⟩
  | destroy id =>
      refine answer_eq_ok_iff.trans ⟨?_, fun effect => ?_⟩
      · rintro ⟨run, rfl, destroyed⟩
        exact destroy_eq_ok_iff.mp destroyed
      · cases answer with
        | released run => exact ⟨run, rfl, destroy_eq_ok_iff.mpr effect⟩
        | _ => cases effect

theorem detached_of_configure {pool after : Pool} {id head : Nat} {slab : Slab}
    {elementSize : UInt64} (live : pool.slab id = .ok slab)
    (configured : pool.configure id head elementSize = .ok after) :
    slab.prev = none ∧ slab.next = none := by
  rcases configure_eq_ok_iff.mp configured with ⟨stored, counters, same, _, linked⟩
  rw [live] at same
  cases same
  rcases link_spec linked with ⟨_, divided, _, booked, prevNone, nextNone, _, _⟩
  rw [slab_book live] at booked
  cases booked
  exact ⟨prevNone, nextNone⟩

end Pool

end SlabRings
