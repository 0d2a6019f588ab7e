import SlabRings.Proofs.Offers

/-!
# Element sizes and handles

A run is divided when its slab is inserted, which checks the element size, and
whenever the slab is configured, which checks nothing. A slab of a size that
runs admit has an element, and all its elements have handles. After any history
these are the slabs that were not last configured for a size beyond the run, or
for more elements than handles can tell apart.
-/

namespace SlabRings

structure Slab.Addressable (slab : Slab) : Prop where
  elementSize_le : slab.elementSize ≤ slab.run.size
  capacity_le : slab.capacity ≤ Handle.maxIndex + 1
  exists_handle (element : Nat) : element < slab.capacity →
    ∃ handle, slab.handle element = .ok handle
  capacity_pos : slab.elementSize ≠ 0 → 0 < slab.capacity

theorem Slab.Balanced.addressable_iff {slab : Slab} (balanced : slab.Balanced) :
    slab.Addressable ↔ slab.elementSize = 0 ∨ Run.Admits slab.run.size slab.elementSize := by
  constructor
  · intro addressable
    by_cases unsized : slab.elementSize = 0
    · exact .inl unsized
    · have few := addressable.capacity_le
      rw [balanced.capacity_eq] at few
      exact .inr ((Run.admits_iff_of_ne_zero unsized).mpr ⟨addressable.elementSize_le, few⟩)
  · intro divided
    have capacity_le : slab.capacity ≤ Handle.maxIndex + 1 := by
      rcases divided with unsized | admitted
      · rw [balanced.capacity_eq, unsized, Run.capacity_zero]
        exact Nat.zero_le _
      · exact balanced.addressable admitted
    exact {
      elementSize_le := by
        rcases divided with unsized | admitted
        · rw [unsized]
          exact UInt64.zero_le
        · exact admitted.1
      capacity_le := capacity_le
      exists_handle := by
        intro element inRange
        exact slab.exists_handle (by omega)
      capacity_pos := by
        intro sized
        rw [balanced.capacity_eq]
        exact Nat.pos_of_ne_zero (Run.capacity_ne_zero (divided.resolve_left sized) sized) }

/-! ## The size that a slab was last configured for -/

/-- The sizes that slabs were configured for since they were inserted. -/
def Transition.resize (sizes : Nat → Option UInt64) (transition : Transition) :
    Nat → Option UInt64 :=
  match transition.operation, transition.answer with
  | .insert _ _ _ _, .inserted (some id) => Function.update sizes id none
  | .configure id _ elementSize, _ => Function.update sizes id (some elementSize)
  | _, _ => sizes

def resized (pageSize : UInt64) (operations : List Operation) : Nat → Option UInt64 :=
  ((Pool.empty pageSize).transitions operations).foldl Transition.resize fun _ => none

/-- Elements have the size that the slab was last configured for, or one that runs admit. -/
def Slab.SizedBy (slab : Slab) (pageSize : UInt64) : Option UInt64 → Prop
  | some size => slab.elementSize = size
  | none => Run.Admits pageSize slab.elementSize

theorem Slab.SizedBy.of_eq {slab changed : Slab} {pageSize : UInt64} {size : Option UInt64}
    (sized : slab.SizedBy pageSize size) (same : changed.elementSize = slab.elementSize) :
    changed.SizedBy pageSize size := by
  cases size with
  | some size => exact same.trans sized
  | none =>
      rw [SizedBy, same]
      exact sized

namespace Accounts

def SizedBy (accounts : Accounts) (pageSize : UInt64) (sizes : Nat → Option UInt64) : Prop :=
  ∀ id slab, accounts id = some slab → slab.SizedBy pageSize (sizes id)

theorem sizedBy_iff_noted {accounts : Accounts} {pageSize : UInt64}
    {sizes : Nat → Option UInt64} : accounts.SizedBy pageSize sizes ↔
      accounts.Noted (fun slab size => slab.SizedBy pageSize size) sizes :=
  Iff.rfl

namespace SizedBy

variable {accounts settled : Accounts} {pageSize : UInt64} {sizes : Nat → Option UInt64}

theorem update (sizedBy : accounts.SizedBy pageSize sizes) (id : Nat) {new : Slab}
    {size : Option UInt64} (sized : new.SizedBy pageSize size) :
    (accounts.set id (some new)).SizedBy pageSize (Function.update sizes id size) :=
  sizedBy_iff_noted.mpr ((sizedBy_iff_noted.mp sizedBy).set id sized)

theorem keep (sizedBy : accounts.SizedBy pageSize sizes) {id : Nat} {old new : Slab}
    (live : accounts id = some old) (same : new.elementSize = old.elementSize) :
    (accounts.set id (some new)).SizedBy pageSize sizes :=
  sizedBy_iff_noted.mpr
    ((sizedBy_iff_noted.mp sizedBy).keep id ((sizedBy id old live).of_eq same))

theorem step {operation : Operation} {answer : Answer} {before after : Pool}
    (sizedBy : accounts.SizedBy pageSize sizes)
    (step : Step pageSize accounts operation answer settled) :
    settled.SizedBy pageSize (Transition.resize sizes ⟨before, operation, answer, after⟩) := by
  cases step with
  | headMade | sizeRefused | unsizedGiven | nothingGiven | unsizedReturned | linked | unlinked =>
      exact sizedBy
  | @inserted _ id coordinate offset elementSize admitted _ =>
      have sized : (Slab.divide { run := ⟨coordinate, offset, pageSize⟩ } elementSize).SizedBy
          pageSize none :=
        admitted
      exact sizedBy.update id sized
  | @configured id _ elementSize slab _ =>
      have sized : (slab.divide elementSize).SizedBy pageSize (some elementSize) := rfl
      exact sizedBy.update id sized
  | given live _ takes => exact sizedBy.keep live (Slab.fields_of_takeHandle takes).2
  | returned live _ releases => exact sizedBy.keep live (Slab.fields_of_release releases).2.1
  | @retired _ _ _ slab released live _ releases _ _ =>
      have same : released.retire.elementSize = slab.elementSize :=
        (Slab.fields_of_release releases).2.1
      exact sizedBy.keep live same
  | destroyed _ => exact sizedBy_iff_noted.mpr ((sizedBy_iff_noted.mp sizedBy).erase _)

end SizedBy

end Accounts

theorem sized_by_resized {pageSize : UInt64} {operations : List Operation} {answers : List Answer}
    {pool : Pool} (ran : (Pool.empty pageSize).run operations = .ok (answers, pool)) :
    Accounts.SizedBy pool.account pageSize (resized pageSize operations) := by
  have noted : pool.pageSize = pageSize ∧
      Accounts.SizedBy pool.account pageSize (resized pageSize operations) := by
    refine Pool.observed Transition.resize
      (fun sizes pool => pool.pageSize = pageSize ∧ Accounts.SizedBy pool.account pageSize sizes)
      ?_ ⟨rfl, fun _ _ present => by cases present⟩ ran
    rintro sizes before operation answer after ⟨size, sizedBy⟩ effect
    have step := effect.accounts
    rw [size] at step
    exact ⟨effect.pageSize_eq.trans size, sizedBy.step step⟩
  exact noted.2

theorem Pool.Rings.exists_reconfigure {pool after : Pool} {lists : Lists} (rings : pool.Rings lists)
    {id head : Nat} {elementSize : UInt64}
    (configured : pool.configure id head elementSize = .ok after) (other : UInt64) :
    ∃ after, pool.configure id head other = .ok after := by
  rcases configure_eq_ok_iff.mp configured with ⟨slab, counters, live, counted, _⟩
  have booked := rings.book live (slab.divide other) rfl rfl counters
  have isHead := (booked.isHead_iff head).mpr (rings.present_of_configure configured)
  have detached := detached_of_configure live configured
  rcases booked.exists_link isHead (slab_book live _ counters) detached with ⟨after, linked⟩
  exact ⟨after, configure_eq_ok_iff.mpr ⟨slab, counters, live, counted, linked⟩⟩

/-- The addressable slabs are those that were not last configured for a size that insertion would
refuse, and whoever can configure a slab for one size can configure it for such a size too. -/
theorem addressable_unless_resized {pageSize : UInt64} {operations : List Operation}
    {answers : List Answer} {pool : Pool}
    (ran : (Pool.empty pageSize).run operations = .ok (answers, pool)) :
    (∀ id slab, pool.slab id = .ok slab →
      (slab.Addressable ↔ ∀ size, resized pageSize operations id = some size →
        size = 0 ∨ Run.Admits pageSize size)) ∧
      ∀ id head elementSize after, pool.configure id head elementSize = .ok after →
        ∀ other, ∃ after, pool.configure id head other = .ok after := by
  have reachable := Reachable.empty.run ran
  refine ⟨?_, ?_⟩
  · intro id slab live
    rcases reachable.balanced live with ⟨balanced, size⟩
    have sized : slab.SizedBy pageSize (resized pageSize operations id) :=
      sized_by_resized ran id slab.bare (Pool.account_of_slab live)
    rw [balanced.addressable_iff, size]
    cases noted : resized pageSize operations id with
    | some last =>
        rw [noted] at sized
        have same : slab.elementSize = last := sized
        simp [same]
    | none =>
        rw [noted] at sized
        have admitted : Run.Admits pageSize slab.elementSize := sized
        simp [admitted]
  · intro id head elementSize after configured other
    rcases reachable.exists_rings with ⟨lists, rings⟩
    exact rings.exists_reconfigure configured other

theorem addressable_unless_resized_beside_oversized :
    ∃ answers pool oversized fitting,
      (Pool.empty 16).run [.newHead, .insert 0 5 0 16, .insert 0 6 16 16, .unlink 1, .unlink 2,
        .configure 1 0 17, .configure 2 0 8] = .ok (answers, pool) ∧
      resized 16 [.newHead, .insert 0 5 0 16, .insert 0 6 16 16, .unlink 1, .unlink 2,
        .configure 1 0 17, .configure 2 0 8] 1 = some 17 ∧
      pool.slab 1 = .ok oversized ∧ ¬oversized.Addressable ∧
      resized 16 [.newHead, .insert 0 5 0 16, .insert 0 6 16 16, .unlink 1, .unlink 2,
        .configure 1 0 17, .configure 2 0 8] 2 = some 8 ∧
      pool.slab 2 = .ok fitting ∧ fitting.Addressable := by
  let oversized : Slab :=
    { run := ⟨5, 0, 16⟩
      elementSize := 17
      hint := some 0
      active := true
      prev := some 2
      next := some 0 }
  let fitting : Slab :=
    { run := ⟨6, 16, 16⟩
      elementSize := 8
      capacity := 2
      available := 2
      hint := some 0
      active := true
      occupancy := ⟨#[0]⟩
      prev := some 0
      next := some 1 }
  let pool : Pool :=
    { pageSize := 16
      slots := #[.head ⟨1, 2⟩, .slab oversized, .slab fitting]
      counters := { activeSlabs := 2 } }
  have ran : (Pool.empty 16).run [.newHead, .insert 0 5 0 16, .insert 0 6 16 16, .unlink 1,
      .unlink 2, .configure 1 0 17, .configure 2 0 8] =
        .ok ([.head 0, .inserted (some 1), .inserted (some 2), .done, .done, .done, .done],
          pool) := by
    decide +kernel
  have oversizedLast : resized 16 [.newHead, .insert 0 5 0 16, .insert 0 6 16 16, .unlink 1,
      .unlink 2, .configure 1 0 17, .configure 2 0 8] 1 = some 17 := by
    decide +kernel
  have fittingLast : resized 16 [.newHead, .insert 0 5 0 16, .insert 0 6 16 16, .unlink 1,
      .unlink 2, .configure 1 0 17, .configure 2 0 8] 2 = some 8 := by
    decide +kernel
  have addressable := (addressable_unless_resized ran).1
  refine ⟨_, pool, oversized, fitting, ran, oversizedLast, rfl, ?_, fittingLast, rfl, ?_⟩
  · intro usable
    have allowed := (addressable 1 oversized rfl).mp usable 17 oversizedLast
    exact absurd allowed (by decide)
  · apply (addressable 2 fitting rfl).mpr
    intro size last
    rw [fittingLast] at last
    cases last
    decide

/-- A slab that is configured for elements larger than its run, a size that insertion refuses, is
on a ring and in service without any element. -/
theorem resized_beyond_run :
    ∃ answers pool slab,
      (Pool.empty 16).run [.newHead, .insert 0 5 0 16, .insert 0 6 16 17, .unlink 1,
        .configure 1 0 17] = .ok (answers, pool) ∧
      answers = [.head 0, .inserted (some 1), .inserted none, .done, .done] ∧
      pool.slab 1 = .ok slab ∧ slab.active = true ∧ slab.isLinked = .ok true ∧
      slab.elementSize ≠ 0 ∧ slab.capacity = 0 ∧ ¬slab.elementSize ≤ slab.run.size ∧
      ¬slab.Addressable := by
  let slab : Slab :=
    { run := ⟨5, 0, 16⟩
      elementSize := 17
      hint := some 0
      active := true
      prev := some 0
      next := some 0 }
  have ran : (Pool.empty 16).run [.newHead, .insert 0 5 0 16, .insert 0 6 16 17, .unlink 1,
      .configure 1 0 17] = .ok ([.head 0, .inserted (some 1), .inserted none, .done, .done],
        { pageSize := 16, slots := #[.head ⟨1, 1⟩, .slab slab],
          counters := { activeSlabs := 1 } }) := by
    decide +kernel
  have tooLarge : ¬slab.elementSize ≤ slab.run.size := by decide
  exact ⟨_, _, slab, ran, rfl, rfl, rfl, rfl, by decide, rfl, tooLarge,
    fun addressable => tooLarge addressable.elementSize_le⟩

end SlabRings
