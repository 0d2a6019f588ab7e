import SlabRings.Handle.Lemmas
import SlabRings.Proofs.Occupancy.Elements
import SlabRings.Slab

/-!
# The account of a slab

A slab keeps four records of the same matter: the occupancy, the number of free
elements, the hint, and whether it is in service. `Balanced` says how they stay
in step. Dividing a run opens a balanced account, and taking, giving back and
retiring keep it so; in a balanced account with something free, an element can
always be found.
-/

namespace SlabRings

/-- The run ends within the addresses. -/
def Run.Fits (run : Run) : Prop :=
  run.offset.toNat + run.size.toNat ≤ Checked.wordValues

instance (run : Run) : Decidable run.Fits := by
  unfold Run.Fits
  infer_instance

namespace Slab

open Checked (bind_eq_ok_iff)

/-! ## What each operation does -/

theorem take_eq_ok_iff {slab taken : Slab} {element : Nat} :
    slab.take = .ok (element, taken) ↔
      slab.choose = .ok element ∧ ∃ grown, slab.occupancy.insert element = .ok grown ∧
        1 ≤ slab.available ∧
        taken = { slab with
          occupancy := grown, available := slab.available - 1, hint := none } := by
  simp only [take, bind_eq_ok_iff, Checked.sub_eq_ok_iff, pure, Except.pure, Except.ok.injEq,
    Prod.mk.injEq]
  constructor
  · rintro ⟨chosen, choice, grown, grows, left, ⟨some, rfl⟩, rfl, rfl⟩
    exact ⟨choice, grown, grows, some, rfl⟩
  · rintro ⟨choice, grown, grows, some, rfl⟩
    exact ⟨element, choice, grown, grows, _, ⟨some, rfl⟩, rfl, rfl⟩

theorem takeHandle_eq_ok_iff {slab taken : Slab} {handle : Handle} :
    slab.takeHandle = .ok (handle, taken) ↔
      ∃ element, slab.take = .ok (element, taken) ∧ taken.handle element = .ok handle := by
  simp only [takeHandle, bind_eq_ok_iff, pure, Except.pure, Except.ok.injEq, Prod.mk.injEq]
  constructor
  · rintro ⟨⟨element, left⟩, takes, packed, packs, rfl, rfl⟩
    exact ⟨element, takes, packs⟩
  · intro ⟨element, takes, packs⟩
    exact ⟨(element, taken), takes, handle, packs, rfl, rfl⟩

theorem release_eq_ok_iff {slab released : Slab} {element : Nat} :
    slab.release element = .ok released ↔
      element < slab.capacity ∧ ∃ shrunk, slab.occupancy.erase element = .ok shrunk ∧
        slab.available + 1 < Checked.wordValues ∧
        released = { slab with
          occupancy := shrunk, available := slab.available + 1, hint := some element } := by
  unfold release
  by_cases inRange : element < slab.capacity
  · simp only [inRange, if_true, true_and, bind_eq_ok_iff, Checked.add_eq_ok_iff, pure, Except.pure,
      Except.ok.injEq]
    constructor
    · rintro ⟨shrunk, shrinks, more, ⟨fits, rfl⟩, rfl⟩
      exact ⟨shrunk, shrinks, fits, rfl⟩
    · rintro ⟨shrunk, shrinks, fits, rfl⟩
      exact ⟨shrunk, shrinks, _, ⟨fits, rfl⟩, rfl⟩
  · simp [inRange]

theorem take_of_release {slab released : Slab} {element : Nat}
    (releases : slab.release element = .ok released) :
    released.take = .ok (element, { slab with hint := none }) := by
  rcases release_eq_ok_iff.mp releases with ⟨_, shrunk, shrinks, _, rfl⟩
  have some : 1 ≤ slab.available + 1 := Nat.le_add_left 1 slab.available
  exact take_eq_ok_iff.mpr ⟨rfl, _, Occupancy.insert_of_erase shrinks, some, rfl⟩

theorem run_of_take {slab taken : Slab} {element : Nat}
    (takes : slab.take = .ok (element, taken)) : taken.run = slab.run := by
  rcases take_eq_ok_iff.mp takes with ⟨_, _, _, _, rfl⟩
  rfl

theorem exists_handle (slab : Slab) {element : Nat} (fits : element ≤ Handle.maxIndex) :
    ∃ handle, slab.handle element = .ok handle :=
  ⟨_, Handle.pack_eq_ok_iff.mpr ⟨fits, rfl⟩⟩

theorem available_of_take {slab taken : Slab} {element : Nat}
    (takes : slab.take = .ok (element, taken)) : slab.available = taken.available + 1 := by
  rcases take_eq_ok_iff.mp takes with ⟨_, _, _, room, rfl⟩
  exact (Nat.sub_add_cancel room).symm

theorem run_of_release {slab released : Slab} {element : Nat}
    (releases : slab.release element = .ok released) : released.run = slab.run := by
  rcases release_eq_ok_iff.mp releases with ⟨_, _, _, _, rfl⟩
  rfl

/-! ## Accounts in step -/

structure Balanced (slab : Slab) : Prop where
  capacity_eq : slab.capacity = Run.capacity slab.run.size slab.elementSize
  wordCount_eq : slab.occupancy.wordCount = Occupancy.wordsFor slab.capacity
  lt_capacity : ∀ element ∈ slab.occupancy, element < slab.capacity
  available_add_count : slab.available + slab.occupancy.count = slab.capacity
  /-- The hint names a free element while there is one. It may name the first
  element of a run that has none. -/
  hint_free : ∀ element, slab.hint = some element → slab.available ≠ 0 →
    element < slab.capacity ∧ element ∉ slab.occupancy
  retired_free : slab.active = false → slab.available = slab.capacity

namespace Balanced

theorem capacity_lt {slab : Slab} (balanced : slab.Balanced) :
    slab.capacity < Checked.wordValues := by
  rw [balanced.capacity_eq]
  exact Nat.lt_of_le_of_lt (Run.capacity_le_size _ _) slab.run.size.toNat_lt

theorem covered {slab : Slab} (balanced : slab.Balanced) :
    slab.capacity ≤ 64 * slab.occupancy.wordCount := by
  rw [balanced.wordCount_eq]
  exact Occupancy.le_wordsFor _

theorem not_mem_of_all_free {slab : Slab} (balanced : slab.Balanced)
    (allFree : slab.available = slab.capacity) (element : Nat) : element ∉ slab.occupancy := by
  have total := balanced.available_add_count
  have nothing : slab.occupancy.elements = ∅ := by
    rw [← Finset.card_eq_zero, ← Occupancy.count_eq_card]
    omega
  rw [← Occupancy.mem_elements, nothing]
  exact Finset.notMem_empty element

/-! ## What the slab shows -/

theorem isAllocated_eq {slab : Slab} (balanced : slab.Balanced) (element : Nat) :
    slab.isAllocated element = .ok (decide (element ∈ slab.occupancy)) := by
  unfold isAllocated
  by_cases inRange : element < slab.capacity
  · have inWords := Nat.lt_of_lt_of_le inRange balanced.covered
    rw [if_pos inRange, Occupancy.contains_eq_ok_iff]
    exact ⟨inWords, rfl⟩
  · have absent : element ∉ slab.occupancy := fun member =>
      inRange (balanced.lt_capacity element member)
    rw [if_neg inRange, decide_eq_false absent]

theorem used_eq {slab : Slab} (balanced : slab.Balanced) :
    slab.used = .ok slab.occupancy.count := by
  have total := balanced.available_add_count
  exact Checked.sub_eq_ok_iff.mpr ⟨by omega, by omega⟩

theorem addressable {slab : Slab} (balanced : slab.Balanced)
    (admitted : Run.Admits slab.run.size slab.elementSize) :
    slab.capacity ≤ Handle.maxIndex + 1 := by
  rw [balanced.capacity_eq]
  by_cases unsized : slab.elementSize = 0
  · rw [unsized, Run.capacity_zero]
    exact Nat.zero_le _
  · exact ((Run.admits_iff_of_ne_zero unsized).mp admitted).2

theorem elementSize_pos {slab : Slab} (balanced : slab.Balanced) {element : Nat}
    (inRange : element < slab.capacity) : 0 < slab.elementSize.toNat := by
  apply Nat.pos_of_ne_zero
  intro zero
  have unsized : slab.elementSize = 0 := UInt64.toNat_inj.mp zero
  rw [balanced.capacity_eq, unsized, Run.capacity_zero] at inRange
  exact Nat.not_lt_zero element inRange

theorem sized {slab : Slab} (balanced : slab.Balanced) {element : Nat}
    (inRange : element < slab.capacity) : slab.elementSize ≠ 0 := by
  have positive := balanced.elementSize_pos inRange
  intro unsized
  simp [unsized] at positive

theorem end_le_size {slab : Slab} (balanced : slab.Balanced) {element : Nat}
    (inRange : element < slab.capacity) :
    element * slab.elementSize.toNat + slab.elementSize.toNat ≤ slab.run.size.toNat := by
  have sized := balanced.sized inRange
  rw [balanced.capacity_eq, Run.capacity_of_ne_zero sized] at inRange
  calc
    element * slab.elementSize.toNat + slab.elementSize.toNat
      = (element + 1) * slab.elementSize.toNat := (Nat.succ_mul _ _).symm
    _ ≤ slab.run.size.toNat / slab.elementSize.toNat * slab.elementSize.toNat :=
      Nat.mul_le_mul_right _ inRange
    _ ≤ slab.run.size.toNat := Nat.div_mul_le_self _ _

theorem exists_elementOffset {slab : Slab} (balanced : slab.Balanced) {element : Nat}
    (fits : slab.run.Fits) (inRange : element < slab.capacity) :
    ∃ offset, slab.elementOffset element = .ok offset := by
  unfold Run.Fits at fits
  have within := balanced.end_le_size inRange
  have positive := balanced.elementSize_pos inRange
  have size := slab.run.size.toNat_lt
  have multiplied : Checked.mul element slab.elementSize.toNat = .ok _ :=
    Checked.mul_eq_ok_iff.mpr ⟨by unfold Checked.wordValues; omega, rfl⟩
  have added : Checked.add slab.run.offset.toNat (element * slab.elementSize.toNat) = .ok _ :=
    Checked.add_eq_ok_iff.mpr ⟨by omega, rfl⟩
  exact ⟨_, bind_eq_ok_iff.mpr ⟨_, multiplied, added⟩⟩

/-! ## Choosing an element -/

theorem choose_free {slab : Slab} (balanced : slab.Balanced) (room : slab.available ≠ 0)
    {element : Nat} (chosen : slab.choose = .ok element) :
    element < slab.capacity ∧ element ∉ slab.occupancy := by
  unfold choose at chosen
  cases hinted : slab.hint with
  | some preferred =>
      rw [hinted] at chosen
      cases chosen
      exact balanced.hint_free element hinted room
  | none =>
      rw [hinted] at chosen
      cases found : slab.occupancy.firstFree slab.capacity with
      | none =>
          rw [found] at chosen
          cases chosen
      | some lowest =>
          rw [found] at chosen
          cases chosen
          have least := Occupancy.firstFree_eq_some_iff.mp found
          exact ⟨least.lt_limit, least.free⟩

theorem exists_firstFree {slab : Slab} (balanced : slab.Balanced) (room : slab.available ≠ 0) :
    ∃ element, slab.occupancy.firstFree slab.capacity = some element := by
  have total := balanced.available_add_count
  exact Occupancy.exists_firstFree balanced.covered (by omega)

theorem exists_choose {slab : Slab} (balanced : slab.Balanced) (room : slab.available ≠ 0) :
    ∃ element, slab.choose = .ok element := by
  unfold choose
  cases slab.hint with
  | some preferred => exact ⟨preferred, rfl⟩
  | none =>
      rcases balanced.exists_firstFree room with ⟨lowest, found⟩
      rw [found]
      exact ⟨lowest, rfl⟩

/-! ## Steps that keep the account -/

protected theorem divide (slab : Slab) (elementSize : UInt64) :
    (slab.divide elementSize).Balanced where
  capacity_eq := rfl
  wordCount_eq := Occupancy.wordCount_vacant _
  lt_capacity element member := absurd member (Occupancy.not_mem_vacant _ _)
  available_add_count := by simp [Slab.divide]
  hint_free element hinted room := by
    simp only [Slab.divide] at hinted room ⊢
    split at hinted
    · cases hinted
    · cases hinted
      exact ⟨Nat.pos_of_ne_zero room, Occupancy.not_mem_vacant _ _⟩
  retired_free retired := by simp [Slab.divide] at retired

theorem of_take {slab taken : Slab} {element : Nat} (balanced : slab.Balanced)
    (active : slab.active = true) (takes : slab.take = .ok (element, taken)) :
    taken.Balanced := by
  rcases take_eq_ok_iff.mp takes with ⟨chosen, grown, grows, room, rfl⟩
  have free := balanced.choose_free (by omega) chosen
  have counted := Occupancy.count_of_insert grows
  have total := balanced.available_add_count
  exact {
    capacity_eq := balanced.capacity_eq
    wordCount_eq := (Occupancy.wordCount_of_insert grows).trans balanced.wordCount_eq
    lt_capacity := by
      intro other member
      rcases (Occupancy.mem_iff_of_insert grows other).mp member with rfl | earlier
      · exact free.1
      · exact balanced.lt_capacity other earlier
    available_add_count := by
      simp only [counted]
      omega
    hint_free := by
      intro other hinted
      cases hinted
    retired_free := by
      intro retired
      simp [active] at retired }

theorem active_of_release {slab released : Slab} {element : Nat} (balanced : slab.Balanced)
    (releases : slab.release element = .ok released) : slab.active = true := by
  rcases release_eq_ok_iff.mp releases with ⟨_, shrunk, shrinks, _, _⟩
  have member := (Occupancy.erase_eq_ok_iff.mp shrinks).1
  cases active : slab.active with
  | true => rfl
  | false =>
      exact absurd member (balanced.not_mem_of_all_free (balanced.retired_free active) element)

theorem of_release {slab released : Slab} {element : Nat} (balanced : slab.Balanced)
    (releases : slab.release element = .ok released) : released.Balanced := by
  have active := balanced.active_of_release releases
  rcases release_eq_ok_iff.mp releases with ⟨inRange, shrunk, shrinks, fits, rfl⟩
  have counted := Occupancy.count_of_erase shrinks
  have total := balanced.available_add_count
  exact {
    capacity_eq := balanced.capacity_eq
    wordCount_eq := (Occupancy.wordCount_of_erase shrinks).trans balanced.wordCount_eq
    lt_capacity := by
      intro other remains
      exact balanced.lt_capacity other ((Occupancy.mem_iff_of_erase shrinks other).mp remains).2
    available_add_count := by
      simp only
      omega
    hint_free := by
      intro other hinted _
      cases hinted
      have returned := (Occupancy.mem_iff_of_erase shrinks element).not
      exact ⟨inRange, returned.mpr (by simp)⟩
    retired_free := by
      intro retired
      simp [active] at retired }

protected theorem retire {slab : Slab} (balanced : slab.Balanced)
    (allFree : slab.available = slab.capacity) : slab.retire.Balanced where
  capacity_eq := balanced.capacity_eq
  wordCount_eq := balanced.wordCount_eq
  lt_capacity := balanced.lt_capacity
  available_add_count := balanced.available_add_count
  hint_free := balanced.hint_free
  retired_free _ := allFree

/-! ## Steps that cannot fail -/

theorem exists_take {slab : Slab} (balanced : slab.Balanced) (room : slab.available ≠ 0) :
    ∃ element taken, slab.take = .ok (element, taken) ∧ element < slab.capacity := by
  rcases balanced.exists_choose room with ⟨element, chosen⟩
  have free := balanced.choose_free room chosen
  have inWords : element / 64 < slab.occupancy.wordCount := by
    have covered := balanced.covered
    omega
  have grows := Occupancy.insert_eq_ok_iff.mpr ⟨inWords, free.2, rfl⟩
  have some := Nat.one_le_iff_ne_zero.mpr room
  exact ⟨element, _, take_eq_ok_iff.mpr ⟨chosen, _, grows, some, rfl⟩, free.1⟩

theorem exists_takeHandle {slab : Slab} (balanced : slab.Balanced) (room : slab.available ≠ 0)
    (addressable : slab.capacity ≤ Handle.maxIndex + 1) :
    ∃ handle taken, slab.takeHandle = .ok (handle, taken) := by
  rcases balanced.exists_take room with ⟨element, taken, takes, inRange⟩
  rcases taken.exists_handle (show element ≤ Handle.maxIndex by omega) with ⟨handle, packed⟩
  exact ⟨handle, taken, takeHandle_eq_ok_iff.mpr ⟨element, takes, packed⟩⟩

theorem release_of_take {slab taken : Slab} {element : Nat} (balanced : slab.Balanced)
    (takes : slab.take = .ok (element, taken)) :
    taken.release element = .ok { slab with hint := some element } := by
  rcases take_eq_ok_iff.mp takes with ⟨chosen, grown, grows, room, rfl⟩
  have free := balanced.choose_free (by omega) chosen
  have total := balanced.available_add_count
  have bound := balanced.capacity_lt
  have restored : slab.available - 1 + 1 = slab.available := Nat.sub_add_cancel room
  refine release_eq_ok_iff.mpr ⟨free.1, _, Occupancy.erase_of_insert grows, ?_, ?_⟩
  · dsimp only
    omega
  · simp only [restored]

theorem exists_release {slab : Slab} (balanced : slab.Balanced) {element : Nat}
    (member : element ∈ slab.occupancy) : ∃ released, slab.release element = .ok released := by
  have counted : 0 < slab.occupancy.count := by
    rw [Occupancy.count_eq_card]
    exact Finset.card_pos.mpr ⟨element, Occupancy.mem_elements.mpr member⟩
  have total := balanced.available_add_count
  have bound := balanced.capacity_lt
  have inRange := balanced.lt_capacity element member
  have shrinks := Occupancy.erase_eq_ok_iff.mpr ⟨member, rfl⟩
  exact ⟨_, release_eq_ok_iff.mpr ⟨inRange, _, shrinks, by omega, rfl⟩⟩

theorem release_eq_error {slab : Slab} (balanced : slab.Balanced) {element : Nat}
    (absent : element ∉ slab.occupancy) :
    slab.release element = .error (if element < slab.capacity then .notAllocated element
      else .beyondCapacity element slab.run.coordinate) := by
  unfold release
  by_cases inRange : element < slab.capacity
  · have inWords : element / 64 < slab.occupancy.wordCount := by
      have covered := balanced.covered
      omega
    rw [if_pos inRange, if_pos inRange, Occupancy.erase, if_pos inWords, if_neg absent]
    rfl
  · rw [if_neg inRange, if_neg inRange]

end Balanced

end Slab

end SlabRings
