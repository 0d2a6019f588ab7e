import SlabRings.Proofs.Outstanding

/-!
# Which element comes next

A slab hands out the element that came back last, unless another one went out
since, and the lowest free element otherwise. Dividing the run anew makes it
forget what came back. So the elements of a slab go out in ascending order as
long as none of them comes back.
-/

namespace SlabRings

/-! ## What went out and came back -/

inductive Exchange where
  | given (element : Nat)
  | returned (element : Nat)
deriving DecidableEq, Repr

/-- The exchanges with each slab since its run was divided, as a client sees them. The last one
comes first. -/
def Transition.exchange (past : Nat → List Exchange) (transition : Transition) :
    Nat → List Exchange :=
  match transition.operation, transition.answer with
  | .insert .., .inserted (some id) => Function.update past id []
  | .configure id _ _, _ => Function.update past id []
  | .allocate id, .allocated (some handle) =>
      Function.update past id (.given handle.index :: past id)
  | .free id _ element, _ => Function.update past id (.returned element :: past id)
  | _, _ => past

def exchanges (pageSize : UInt64) (operations : List Operation) : Nat → List Exchange :=
  ((Pool.empty pageSize).transitions operations).foldl Transition.exchange fun _ => []

/-! ## The lowest free element -/

structure Slab.LowestFree (slab : Slab) (element : Nat) : Prop where
  lt_capacity : element < slab.capacity
  free : slab.isAllocated element = .ok false
  taken_before (earlier : Nat) : earlier < element → slab.isAllocated earlier = .ok true

namespace Slab.Balanced

variable {slab : Slab} {element : Nat}

theorem lowestFree_iff (balanced : slab.Balanced) :
    slab.LowestFree element ↔ slab.occupancy.LeastFree slab.capacity element := by
  have inWords (inRange : element < slab.capacity) : element < 64 * slab.occupancy.wordCount :=
    Nat.lt_of_lt_of_le inRange balanced.covered
  constructor
  · intro ⟨inRange, free, before⟩
    simp only [balanced.isAllocated_eq, Except.ok.injEq, decide_eq_false_iff_not,
      decide_eq_true_iff] at free before
    exact ⟨inRange, inWords inRange, free, before⟩
  · intro ⟨inRange, _, free, before⟩
    refine ⟨inRange, ?_, ?_⟩
    · rw [balanced.isAllocated_eq, decide_eq_false free]
    · intro earlier isBefore
      rw [balanced.isAllocated_eq, decide_eq_true (before earlier isBefore)]

theorem eq_of_lowestFree (balanced : slab.Balanced) {count : Nat}
    (out : slab.occupancy.elements = Finset.range count) (lowest : slab.LowestFree element) :
    element = count := by
  have member (other : Nat) : other ∈ slab.occupancy ↔ other < count := by
    rw [← Occupancy.mem_elements, out, Finset.mem_range]
  have least := balanced.lowestFree_iff.mp lowest
  apply Nat.le_antisymm
  · by_contra beyond
    exact Nat.lt_irrefl count ((member count).mp (least.taken_before count (by omega)))
  · exact Nat.le_of_not_lt fun below => least.free ((member element).mpr below)

end Slab.Balanced

/-! ## A slab and its exchanges -/

/-- The slab prefers the element that came back last. A slab just divided prefers the first one. -/
def Slab.Prefers (slab : Slab) : List Exchange → Prop
  | [] => slab.hint = some 0
  | .given _ :: _ => slab.hint = none
  | .returned element :: _ => slab.hint = some element

/-- The slab is in service and has the elements out, which are the first ones in ascending order.
The last one that went out comes first. -/
structure Slab.InTurn (slab : Slab) (elements : List Nat) : Prop where
  active : slab.active = true
  ascending : elements.reverse = List.range elements.length
  out : slab.occupancy.elements = Finset.range elements.length

structure Slab.Follows (slab : Slab) (past : List Exchange) : Prop where
  prefers : slab.Prefers past
  inTurn (elements : List Nat) : past = elements.map .given → slab.InTurn elements

namespace Slab

variable {slab taken : Slab} {past : List Exchange} {handle : Handle}

theorem follows_of_bare (follows : slab.bare.Follows past) : slab.Follows past where
  prefers := follows.prefers
  inTurn elements same := by
    rcases follows.inTurn elements same with ⟨active, ascending, out⟩
    exact ⟨active, ascending, out⟩

theorem follows_divide (slab : Slab) {elementSize : UInt64} (sized : elementSize ≠ 0) :
    (slab.divide elementSize).Follows [] where
  prefers := if_neg sized
  inTurn elements nothing := by
    rw [List.map_eq_nil_iff.mp nothing.symm]
    exact ⟨rfl, rfl, elements_divide slab elementSize⟩

theorem follows_of_hint {element : Nat} (hinted : slab.hint = some element)
    (past : List Exchange) : slab.Follows (.returned element :: past) where
  prefers := hinted
  inTurn elements same := by cases elements <;> cases same

namespace Follows

theorem returned_or_lowestFree (follows : slab.Follows past) (balanced : slab.Balanced)
    (serves : slab.CanServe) (takes : slab.takeHandle = .ok (handle, taken)) :
    (∀ element, past.head? = some (.returned element) → handle.index = element) ∧
      ((∀ element, past.head? ≠ some (.returned element)) → slab.LowestFree handle.index) := by
  have chosen := (take_eq_ok_iff.mp (take_of_takeHandle takes).1).1
  have prefers := follows.prefers
  cases past with
  -- The first element is preferred, and no element is below it.
  | nil =>
      change slab.hint = some 0 at prefers
      have free := balanced.choose_free serves.2.1 chosen
      simp only [choose, prefers, Except.ok.injEq] at chosen
      refine ⟨fun element impossible => (by cases impossible), fun _ => ⟨free.1, ?_, ?_⟩⟩
      · rw [balanced.isAllocated_eq, decide_eq_false free.2]
      · intro earlier before
        rw [← chosen] at before
        exact absurd before (Nat.not_lt_zero earlier)
  | cons exchange earlier =>
      cases exchange with
      | given element =>
          change slab.hint = none at prefers
          refine ⟨fun element impossible => (by cases impossible), fun _ => ?_⟩
          rcases balanced.exists_firstFree serves.2.1 with ⟨lowest, found⟩
          simp only [choose, prefers, found, Except.ok.injEq] at chosen
          exact balanced.lowestFree_iff.mpr (Occupancy.firstFree_eq_some_iff.mp (chosen ▸ found))
      | returned element =>
          change slab.hint = some element at prefers
          simp only [choose, prefers, Except.ok.injEq] at chosen
          refine ⟨?_, fun absent => absurd rfl (absent element)⟩
          intro other same
          cases same
          exact chosen.symm

theorem index_eq_length (follows : slab.Follows past) (balanced : slab.Balanced)
    (serves : slab.CanServe) (takes : slab.takeHandle = .ok (handle, taken)) {elements : List Nat}
    (same : past = elements.map .given) : handle.index = elements.length := by
  have absent (element : Nat) : past.head? ≠ some (.returned element) := by
    rw [same]
    cases elements <;> simp
  exact balanced.eq_of_lowestFree (follows.inTurn elements same).out
    ((follows.returned_or_lowestFree balanced serves takes).2 absent)

theorem given (follows : slab.Follows past) (balanced : slab.Balanced) (serves : slab.CanServe)
    (takes : slab.takeHandle = .ok (handle, taken)) :
    taken.Follows (.given handle.index :: past) where
  prefers := by
    rcases take_eq_ok_iff.mp (take_of_takeHandle takes).1 with ⟨_, _, _, _, rfl⟩
    rfl
  inTurn elements same := by
    cases elements with
    | nil => cases same
    | cons first rest =>
        rw [List.map_cons, List.cons.injEq, Exchange.given.injEq] at same
        rcases same with ⟨rfl, earlier⟩
        have index := follows.index_eq_length balanced serves takes earlier
        have before := follows.inTurn rest earlier
        rcases take_eq_ok_iff.mp (take_of_takeHandle takes).1 with ⟨_, grown, grows, _, rfl⟩
        exact {
          active := before.active
          ascending := by
            rw [List.reverse_cons, before.ascending, index, List.length_cons, List.range_succ]
          out := by
            rw [Occupancy.elements_of_insert grows, before.out, index, List.length_cons,
              Finset.range_add_one] }

end Follows

end Slab

/-! ## Every history -/

abbrev Accounts.Follow (accounts : Accounts) (past : Nat → List Exchange) : Prop :=
  accounts.Noted (fun slab past => slab.elementSize ≠ 0 → slab.Follows past) past

theorem Accounts.Follow.step {pageSize : UInt64} {accounts settled : Accounts}
    {past : Nat → List Exchange} {operation : Operation} {answer : Answer} {before after : Pool}
    (follow : accounts.Follow past) (sound : accounts.Sound pageSize)
    (step : Step pageSize accounts operation answer settled) :
    settled.Follow (Transition.exchange past ⟨before, operation, answer, after⟩) := by
  cases step with
  | headMade | sizeRefused | nothingGiven | linked | unlinked => exact follow
  | inserted _ _ | configured _ => exact follow.set _ fun sized => Slab.follows_divide _ sized
  | unsizedGiven live unsized _ | unsizedReturned live unsized =>
      exact follow.note live fun sized => absurd unsized sized
  | given live serves takes =>
      have balanced := (sound _ _ live).1
      exact follow.set _ fun _ => (follow _ _ live serves.1).given balanced serves takes
  | returned _ _ releases | retired _ _ releases _ _ =>
      apply follow.set
      intro _
      rcases Slab.release_eq_ok_iff.mp releases with ⟨_, _, _, _, rfl⟩
      exact Slab.follows_of_hint rfl _
  | destroyed _ => exact follow.erase _

theorem follows_exchanges {pageSize : UInt64} {operations : List Operation}
    {answers : List Answer} {pool : Pool}
    (ran : (Pool.empty pageSize).run operations = .ok (answers, pool)) {id : Nat} {slab : Slab}
    (live : pool.slab id = .ok slab) (sized : slab.elementSize ≠ 0) :
    slab.Follows (exchanges pageSize operations id) := by
  have start : Reachable pageSize (.empty pageSize) ∧
      Accounts.Follow (Pool.empty pageSize).account fun _ => [] := by
    refine ⟨.empty, ?_⟩
    intro other account present
    cases present
  have follow := Pool.observed Transition.exchange
    (fun past pool => Reachable pageSize pool ∧ Accounts.Follow pool.account past)
    (fun _ _ _ _ _ earlier effect =>
      ⟨earlier.1.step (Pool.apply_eq_ok_iff.mpr effect),
        earlier.2.step (earlier.1.pageSize_eq ▸ earlier.1.accounts_sound) effect.accounts⟩)
    start ran
  exact Slab.follows_of_bare (follow.2 id slab.bare (Pool.account_of_slab live) sized)

theorem Pool.takeHandle_of_allocate {pool after : Pool} {id : Nat} {slab : Slab} {handle : Handle}
    (live : pool.slab id = .ok slab) (sized : slab.elementSize ≠ 0)
    (allocated : pool.allocate id = .ok (some handle, after)) :
    slab.CanServe ∧ ∃ taken, slab.takeHandle = .ok (handle, taken) := by
  cases allocate_eq_ok_iff.mp allocated with
  | unsizedGiven stored unsized _ =>
      cases live.symm.trans stored
      exact absurd unsized sized
  | given stored serves takes _ _ | lastGiven stored serves takes _ _ _ =>
      cases live.symm.trans stored
      exact ⟨serves, _, takes⟩

/-- After any history, a slab of sized elements hands out the element that came back last, unless
one went out since or its run was divided anew, and then the lowest free one. Elements of which
none came back went out in ascending order, and the next one follows until all are out. -/
theorem returned_or_lowest_given {pageSize : UInt64} {operations : List Operation}
    {answers : List Answer} {pool : Pool}
    (ran : (Pool.empty pageSize).run operations = .ok (answers, pool)) {id : Nat} {slab : Slab}
    (live : pool.slab id = .ok slab) (sized : slab.elementSize ≠ 0) :
    (∀ handle after, pool.allocate id = .ok (some handle, after) →
      handle.coordinate = slab.run.coordinate ∧
        (∀ element, (exchanges pageSize operations id).head? = some (.returned element) →
          handle.index = element) ∧
        ((∀ element, (exchanges pageSize operations id).head? ≠ some (.returned element)) →
          slab.LowestFree handle.index)) ∧
      ∀ elements : List Nat, exchanges pageSize operations id = elements.map .given →
        elements.reverse = List.range elements.length ∧
          ∀ answer after, pool.allocate id = .ok (answer, after) →
            (answer = none ↔ elements.length = slab.capacity) ∧
              ∀ handle, answer = some handle → handle.index = elements.length := by
  have balanced := ((Reachable.empty.run ran).balanced live).1
  have follows := follows_exchanges ran live sized
  constructor
  · intro handle after allocated
    rcases Pool.takeHandle_of_allocate live sized allocated with ⟨serves, taken, takes⟩
    exact ⟨(Slab.take_of_takeHandle takes).2,
      follows.returned_or_lowestFree balanced serves takes⟩
  · intro elements same
    have turn := follows.inTurn elements same
    refine ⟨turn.ascending, ?_⟩
    intro answer after allocated
    constructor
    · rw [(Pool.answer_of_allocate balanced live sized allocated).1, Occupancy.count_eq_card,
        turn.out, Finset.card_range]
      simp [turn.active]
    · rintro handle rfl
      rcases Pool.takeHandle_of_allocate live sized allocated with ⟨serves, taken, takes⟩
      exact follows.index_eq_length balanced serves takes same

/-- Of two elements that came back, the last one goes out first, and then the lowest free one. Once
the run is divided anew, the elements go out from the first one on. -/
theorem returned_or_lowest_given_then_divided :
    ∃ answers pool slab last middle lowest after others divided next final,
      (Pool.empty 64).run [.newHead, .insert 0 5 0 16, .allocate 1, .allocate 1, .allocate 1,
        .free 1 0 0, .free 1 0 2] = .ok (answers, pool) ∧
      pool.slab 1 = .ok slab ∧ pool.allocate 1 = .ok (some last, middle) ∧
      last.index = 2 ∧ last.coordinate = 5 ∧
      middle.allocate 1 = .ok (some lowest, after) ∧ lowest.index = 0 ∧
      (Pool.empty 64).run [.newHead, .insert 0 5 0 16, .allocate 1, .free 1 0 0, .unlink 1,
        .configure 1 0 32, .allocate 1] = .ok (others, divided) ∧
      divided.allocate 1 = .ok (some next, final) ∧ next.index = 1 := by
  let slab : Slab :=
    { run := ⟨5, 0, 64⟩
      elementSize := 16
      capacity := 4
      available := 3
      hint := some 2
      active := true
      occupancy := ⟨#[2]⟩
      prev := some 0
      next := some 0 }
  let pool : Pool :=
    { pageSize := 64
      slots := #[.head ⟨1, 1⟩, .slab slab]
      counters := { activeSlabs := 1, allocations := 3, frees := 2 } }
  let middle : Pool :=
    { pool with
      slots := #[.head ⟨1, 1⟩,
        .slab { slab with available := 2, hint := none, occupancy := ⟨#[6]⟩ }]
      counters := { activeSlabs := 1, allocations := 4, frees := 2 } }
  let after : Pool :=
    { pool with
      slots := #[.head ⟨1, 1⟩,
        .slab { slab with available := 1, hint := none, occupancy := ⟨#[7]⟩ }]
      counters := { activeSlabs := 1, allocations := 5, frees := 2 } }
  let divided : Pool :=
    { pool with
      slots := #[.head ⟨1, 1⟩,
        .slab { slab with
          elementSize := 32, capacity := 2, available := 1, hint := none, occupancy := ⟨#[1]⟩ }]
      counters := { activeSlabs := 1, allocations := 2, frees := 1 } }
  let final : Pool :=
    { pool with
      slots := #[.head ⟨0, 0⟩,
        .slab { slab with
          elementSize := 32, capacity := 2, available := 0, hint := none, occupancy := ⟨#[3]⟩
          prev := none, next := none }]
      counters := { activeSlabs := 1, allocations := 3, frees := 1 } }
  have ran : (Pool.empty 64).run [.newHead, .insert 0 5 0 16, .allocate 1, .allocate 1,
      .allocate 1, .free 1 0 0, .free 1 0 2] =
        .ok ([.head 0, .inserted (some 1), .allocated (some ⟨0x4000000000000005#64⟩),
          .allocated (some ⟨0x4000000100000005#64⟩), .allocated (some ⟨0x4000000200000005#64⟩),
          .freed true, .freed true], pool) := by
    decide +kernel
  have ranOn : (Pool.empty 64).run [.newHead, .insert 0 5 0 16, .allocate 1, .allocate 1,
      .allocate 1, .free 1 0 0, .free 1 0 2, .allocate 1] =
        .ok ([.head 0, .inserted (some 1), .allocated (some ⟨0x4000000000000005#64⟩),
          .allocated (some ⟨0x4000000100000005#64⟩), .allocated (some ⟨0x4000000200000005#64⟩),
          .freed true, .freed true, .allocated (some ⟨0x4000000200000005#64⟩)], middle) := by
    decide +kernel
  have ranAnew : (Pool.empty 64).run [.newHead, .insert 0 5 0 16, .allocate 1, .free 1 0 0,
      .unlink 1, .configure 1 0 32, .allocate 1] =
        .ok ([.head 0, .inserted (some 1), .allocated (some ⟨0x4000000000000005#64⟩), .freed true,
          .done, .done, .allocated (some ⟨0x4000000000000005#64⟩)], divided) := by
    decide +kernel
  have past : (exchanges 64 [.newHead, .insert 0 5 0 16, .allocate 1, .allocate 1, .allocate 1,
      .free 1 0 0, .free 1 0 2] 1).head? = some (.returned 2) := by
    decide +kernel
  have pastOn : (exchanges 64 [.newHead, .insert 0 5 0 16, .allocate 1, .allocate 1, .allocate 1,
      .free 1 0 0, .free 1 0 2, .allocate 1] 1).head? = some (.given 2) := by
    decide +kernel
  have pastAnew : exchanges 64 [.newHead, .insert 0 5 0 16, .allocate 1, .free 1 0 0, .unlink 1,
      .configure 1 0 32, .allocate 1] 1 = [0].map .given := by
    decide +kernel
  have allocated : pool.allocate 1 = .ok (some ⟨0x4000000200000005#64⟩, middle) := by
    decide +kernel
  have allocatedOn : middle.allocate 1 = .ok (some ⟨0x4000000000000005#64⟩, after) := by
    decide +kernel
  have allocatedAnew : divided.allocate 1 = .ok (some ⟨0x4000000100000005#64⟩, final) := by
    decide +kernel
  have live : pool.slab 1 = .ok slab := rfl
  rcases (returned_or_lowest_given ran live (by decide)).1 _ _ allocated with
    ⟨coordinate, last, _⟩
  rcases (returned_or_lowest_given ranOn rfl (by decide)).1 _ _ allocatedOn with ⟨_, _, lowest⟩
  have scanned := lowest (by rw [pastOn]; simp)
  rcases (returned_or_lowest_given ranAnew rfl (by decide)).2 [0] pastAnew with ⟨_, next⟩
  refine ⟨_, pool, slab, _, middle, _, after, _, divided, _, final, ran, live, allocated,
    last 2 past, coordinate, allocatedOn, ?_, ranAnew, allocatedAnew,
    (next _ _ allocatedAnew).2 _ rfl⟩
  by_contra beyond
  have taken := scanned.taken_before 0 (Nat.pos_of_ne_zero beyond)
  revert taken
  decide +kernel

end SlabRings
