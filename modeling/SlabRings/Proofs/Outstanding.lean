import SlabRings.Proofs.Pool.Accounts
import SlabRings.Proofs.Transitions

/-!
# Outstanding elements

An element is outstanding from the time that it is handed out until it comes
back or its slab is divided anew. A client can keep this set from the answers
alone. It is exactly what the slab itself has on record: in its occupancy, in
its number of free elements and in its summary. So no element is handed out
twice, none is lost, and an active slab refuses only when all are out.
-/

namespace SlabRings

/-! ## The client's record -/

/-- The outstanding elements of each slab, as a client sees them come and go. -/
def Transition.track (held : Nat → Finset Nat) (transition : Transition) : Nat → Finset Nat :=
  match transition.operation, transition.answer with
  | .insert .., .inserted (some id) => Function.update held id ∅
  | .configure id _ _, _ => Function.update held id ∅
  | .allocate id, .allocated (some handle) =>
      Function.update held id (insert handle.index (held id))
  | .free id _ element, _ => Function.update held id ((held id).erase element)
  | _, _ => held

def outstanding (pageSize : UInt64) (operations : List Operation) : Nat → Finset Nat :=
  ((Pool.empty pageSize).transitions operations).foldl Transition.track fun _ => ∅

def Accounts.Agree (accounts : Accounts) (held : Nat → Finset Nat) : Prop :=
  ∀ id slab, accounts id = some slab → slab.elementSize ≠ 0 → slab.occupancy.elements = held id

theorem Accounts.agree_iff_noted {accounts : Accounts} {held : Nat → Finset Nat} :
    accounts.Agree held ↔
      accounts.Noted (fun slab held => slab.elementSize ≠ 0 → slab.occupancy.elements = held) held :=
  Iff.rfl

namespace Accounts.Agree

variable {accounts : Accounts} {held : Nat → Finset Nat}

theorem set (agree : accounts.Agree held) (id : Nat) {slab : Slab} {elements : Finset Nat}
    (same : slab.elementSize ≠ 0 → slab.occupancy.elements = elements) :
    (accounts.set id (some slab)).Agree (Function.update held id elements) :=
  agree_iff_noted.mpr ((agree_iff_noted.mp agree).set id same)

theorem update_of_unsized (agree : accounts.Agree held) {id : Nat} {slab : Slab}
    (live : accounts id = some slab) (unsized : slab.elementSize = 0) (elements : Finset Nat) :
    accounts.Agree (Function.update held id elements) :=
  agree_iff_noted.mpr ((agree_iff_noted.mp agree).note live fun sized => absurd unsized sized)

end Accounts.Agree

theorem Slab.elements_divide (slab : Slab) (elementSize : UInt64) :
    (slab.divide elementSize).occupancy.elements = ∅ := by
  simp [Slab.divide]

theorem Accounts.Agree.step {pageSize : UInt64} {accounts settled : Accounts}
    {held : Nat → Finset Nat} {operation : Operation} {answer : Answer} {before after : Pool}
    (agree : accounts.Agree held) (step : Step pageSize accounts operation answer settled) :
    settled.Agree (Transition.track held ⟨before, operation, answer, after⟩) := by
  cases step with
  | headMade | sizeRefused | nothingGiven | linked | unlinked => exact agree
  | inserted _ _ => exact agree.set _ fun _ => Slab.elements_divide _ _
  | configured live => exact agree.set _ fun _ => Slab.elements_divide _ _
  | unsizedGiven live unsized _ => exact agree.update_of_unsized live unsized _
  | given live serves takes =>
      apply agree.set
      intro _
      have taking := (Slab.take_of_takeHandle takes).1
      rcases Slab.take_eq_ok_iff.mp taking with ⟨_, grown, grows, _, rfl⟩
      rw [Occupancy.elements_of_insert grows, agree _ _ live serves.1]
  | unsizedReturned live unsized => exact agree.update_of_unsized live unsized _
  | returned live sized releases =>
      apply agree.set
      intro _
      rcases Slab.release_eq_ok_iff.mp releases with ⟨_, shrunk, shrinks, _, rfl⟩
      rw [Occupancy.elements_of_erase shrinks, agree _ _ live sized]
  | retired live sized releases _ _ =>
      apply agree.set
      intro _
      rcases Slab.release_eq_ok_iff.mp releases with ⟨_, shrunk, shrinks, _, rfl⟩
      change shrunk.elements = _
      rw [Occupancy.elements_of_erase shrinks, agree _ _ live sized]
  | destroyed _ => exact agree_iff_noted.mpr ((agree_iff_noted.mp agree).erase _)

theorem elements_eq_outstanding {pageSize : UInt64} {operations : List Operation}
    {answers : List Answer} {pool : Pool}
    (ran : (Pool.empty pageSize).run operations = .ok (answers, pool)) {id : Nat} {slab : Slab}
    (live : pool.slab id = .ok slab) (sized : slab.elementSize ≠ 0) :
    slab.occupancy.elements = outstanding pageSize operations id := by
  have start : Accounts.Agree (Pool.empty pageSize).account fun _ => ∅ := by
    intro other account present
    cases present
  have agree := Pool.observed Transition.track (fun held pool => Accounts.Agree pool.account held)
    (fun _ _ _ _ _ earlier effect => earlier.step effect.accounts) start ran
  exact agree id slab.bare (Pool.account_of_slab live) sized

/-! ## What the slab has on record -/

/-- The slab shows exactly the given elements as handed out, wherever it shows them. -/
structure Slab.HasOut (slab : Slab) (held : Finset Nat) : Prop where
  isAllocated_eq (element : Nat) : slab.isAllocated element = .ok (decide (element ∈ held))
  wordCount_eq : slab.occupancy.wordCount = Occupancy.wordsFor slab.capacity
  padding_clear (element : Nat) : slab.capacity ≤ element → element ∉ slab.occupancy
  count_eq : slab.occupancy.count = held.card
  card_le : held.card ≤ slab.capacity
  available_eq : slab.available = slab.capacity - held.card
  used_eq : slab.used = .ok held.card
  summary_eq : slab.active = true → slab.summary = .ok (
    s!"({slab.run.coordinate.toNat}: {held.card}/{slab.capacity}" ++
      s!", offset: {slab.run.offset.toNat}, length: {slab.run.size.toNat}" ++
      s!", elemSize: {slab.elementSize.toNat})")

namespace Slab.Balanced

theorem elements_subset_range {slab : Slab} (balanced : slab.Balanced) :
    slab.occupancy.elements ⊆ Finset.range slab.capacity := by
  intro element member
  exact Finset.mem_range.mpr (balanced.lt_capacity element (Occupancy.mem_elements.mp member))

theorem hasOut {slab : Slab} (balanced : slab.Balanced) :
    slab.HasOut slab.occupancy.elements := by
  have total := balanced.available_add_count
  have counted := Occupancy.count_eq_card slab.occupancy
  exact {
    isAllocated_eq := by
      intro element
      simp only [Occupancy.mem_elements]
      exact balanced.isAllocated_eq element
    wordCount_eq := balanced.wordCount_eq
    padding_clear := by
      intro element beyond member
      exact absurd (balanced.lt_capacity element member) (Nat.not_lt_of_le beyond)
    count_eq := counted
    card_le := by omega
    available_eq := by omega
    used_eq := by rw [balanced.used_eq, counted]
    summary_eq := by
      intro active
      rw [summary, if_pos active, balanced.used_eq, counted]
      rfl }

theorem given_free {slab taken : Slab} {handle : Handle} (balanced : slab.Balanced)
    (serves : slab.CanServe) (takes : slab.takeHandle = .ok (handle, taken)) :
    handle.index < slab.capacity ∧ handle.index ∉ slab.occupancy := by
  have taking := (take_of_takeHandle takes).1
  exact balanced.choose_free serves.2.1 (take_eq_ok_iff.mp taking).1

theorem canServe_iff {slab : Slab} (balanced : slab.Balanced) (sized : slab.elementSize ≠ 0) :
    slab.CanServe ↔ ¬(slab.active = false ∨ slab.occupancy.count = slab.capacity) := by
  have total := balanced.available_add_count
  have exhausted : slab.available = 0 ↔ slab.occupancy.count = slab.capacity := by omega
  rw [CanServe, ne_eq, ne_eq, exhausted, not_or, Bool.not_eq_false]
  constructor
  · intro ⟨_, room, active⟩
    exact ⟨active, room⟩
  · intro ⟨active, room⟩
    exact ⟨sized, room, active⟩

end Slab.Balanced

theorem Pool.answer_of_allocate {pool after : Pool} {id : Nat} {slab : Slab}
    {answer : Option Handle} (balanced : slab.Balanced) (live : pool.slab id = .ok slab)
    (sized : slab.elementSize ≠ 0) (allocated : pool.allocate id = .ok (answer, after)) :
    (answer = none ↔ slab.active = false ∨ slab.occupancy.count = slab.capacity) ∧
      ∀ handle, answer = some handle →
        handle.index < slab.capacity ∧ handle.index ∉ slab.occupancy := by
  have serving := balanced.canServe_iff sized
  cases allocate_eq_ok_iff.mp allocated with
  | unsizedGiven stored unsized _ =>
      rw [live] at stored
      cases stored
      exact absurd unsized sized
  | nothingGiven stored _ closed =>
      rw [live] at stored
      cases stored
      have refusable := not_not.mp fun servable => closed (serving.mpr servable)
      refine ⟨⟨fun _ => refusable, fun _ => rfl⟩, ?_⟩
      intro handle impossible
      cases impossible
  | given stored serves takes _ _ | lastGiven stored serves takes _ _ _ =>
      rw [live] at stored
      cases stored
      refine ⟨⟨fun impossible => ?_, fun refusable => absurd refusable (serving.mp serves)⟩, ?_⟩
      · cases impossible
      · intro handle same
        cases same
        exact balanced.given_free serves takes

/-- After any history, a slab of sized elements has exactly the outstanding ones out.
The next element it gives is none of them, and it gives none only when it is out of
service or all are outstanding. -/
theorem outstanding_on_record {pageSize : UInt64} {operations : List Operation}
    {answers : List Answer} {pool : Pool}
    (ran : (Pool.empty pageSize).run operations = .ok (answers, pool)) {id : Nat} {slab : Slab}
    (live : pool.slab id = .ok slab) (sized : slab.elementSize ≠ 0) :
    slab.HasOut (outstanding pageSize operations id) ∧
      ∀ answer after, pool.allocate id = .ok (answer, after) →
        (answer = none ↔
          slab.active = false ∨ (outstanding pageSize operations id).card = slab.capacity) ∧
        ∀ handle, answer = some handle →
          handle.index < slab.capacity ∧
            handle.index ∉ outstanding pageSize operations id := by
  have balanced := (Reachable.empty.run ran).balanced live
  rw [← elements_eq_outstanding ran live sized, ← Occupancy.count_eq_card]
  refine ⟨balanced.1.hasOut, ?_⟩
  intro answer after allocated
  simp only [Occupancy.mem_elements]
  exact Pool.answer_of_allocate balanced.1 live sized allocated

theorem outstanding_on_record_after_return :
    ∃ answers pool slab,
      (Pool.empty 64).run [.newHead, .insert 0 5 0 16, .allocate 1, .allocate 1, .free 1 0 0,
        .allocate 1] = .ok (answers, pool) ∧
      pool.slab 1 = .ok slab ∧ slab.elementSize ≠ 0 ∧ slab.HasOut {0, 1} := by
  let slab : Slab :=
    { run := ⟨5, 0, 64⟩
      elementSize := 16
      capacity := 4
      available := 2
      active := true
      occupancy := ⟨#[3]⟩
      prev := some 0
      next := some 0 }
  let pool : Pool :=
    { pageSize := 64
      slots := #[.head ⟨1, 1⟩, .slab slab]
      counters := { activeSlabs := 1, allocations := 3, frees := 1 } }
  have ran : (Pool.empty 64).run [.newHead, .insert 0 5 0 16, .allocate 1, .allocate 1,
      .free 1 0 0, .allocate 1] =
        .ok ([.head 0, .inserted (some 1), .allocated (some ⟨0x4000000000000005#64⟩),
          .allocated (some ⟨0x4000000100000005#64⟩), .freed true,
          .allocated (some ⟨0x4000000000000005#64⟩)], pool) := by
    decide +kernel
  have live : pool.slab 1 = .ok slab := rfl
  have sized : slab.elementSize ≠ 0 := by decide
  have out : outstanding 64 [.newHead, .insert 0 5 0 16, .allocate 1, .allocate 1,
      .free 1 0 0, .allocate 1] 1 = {0, 1} := by
    decide +kernel
  exact ⟨_, pool, slab, ran, live, sized, out ▸ (outstanding_on_record ran live sized).1⟩

end SlabRings
