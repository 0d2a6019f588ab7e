import SlabRings.Handle

/-!
# Reading what was packed

The marker and the two fields of a handle do not overlap, so each bit of a
packed handle belongs to one of them, and reading gives both fields back.
-/

namespace SlabRings.Handle

/-! ## Single bits -/

private theorem getLsbD_marker (position : Nat) :
    marker.getLsbD position = decide (position = 62) := by
  rw [marker, markerBit, BitVec.getLsbD_twoPow]
  simp [eq_comm]

private theorem getLsbD_indexMask (position : Nat) :
    indexMask.getLsbD position = decide (position < 30) := by
  rw [show indexMask = BitVec.ofNat 64 (2 ^ 30 - 1) from rfl, BitVec.getLsbD_ofNat,
    Nat.testBit_two_pow_sub_one]
  by_cases inField : position < 30
  · have inWord : position < 64 := by omega
    simp [inField, inWord]
  · simp [inField]

private theorem getLsbD_coordinateMask (position : Nat) :
    coordinateMask.getLsbD position = decide (position < 32) := by
  rw [show coordinateMask = BitVec.ofNat 64 (2 ^ 32 - 1) from rfl, BitVec.getLsbD_ofNat,
    Nat.testBit_two_pow_sub_one]
  by_cases inField : position < 32
  · have inWord : position < 64 := by omega
    simp [inField, inWord]
  · simp [inField]

theorem maxIndex_eq : maxIndex = 0x3fffffff := rfl

private theorem getLsbD_index {index : Nat} (fits : index ≤ maxIndex) {position : Nat}
    (beyond : 30 ≤ position) : (BitVec.ofNat 64 index).getLsbD position = false := by
  have small : index < 2 ^ position :=
    calc
      index < 2 ^ 30 := by rw [maxIndex_eq] at fits; omega
      _ ≤ 2 ^ position := Nat.pow_le_pow_right (by decide) beyond
  rw [BitVec.getLsbD_ofNat, Nat.testBit_lt_two_pow small, Bool.and_false]

theorem getLsbD_ofFields (index : Nat) (coordinate : UInt32) (position : Nat) :
    (ofFields index coordinate).raw.getLsbD position =
      (decide (position = 62) ||
        (decide (position < 64) && !decide (position < 32) &&
          (BitVec.ofNat 64 index).getLsbD (position - 32)) ||
        (decide (position < 64) && coordinate.toBitVec.getLsbD position)) := by
  simp only [ofFields, indexShift, BitVec.getLsbD_or, BitVec.getLsbD_shiftLeft,
    BitVec.getLsbD_setWidth, getLsbD_marker]

/-! ## The fields of a packed handle -/

@[simp] theorem isSlab_ofFields (index : Nat) (coordinate : UInt32) :
    (ofFields index coordinate).isSlab = true := by
  rw [isSlab, markerBit, getLsbD_ofFields]
  rfl

theorem index_ofFields {index : Nat} (fits : index ≤ maxIndex) (coordinate : UInt32) :
    (ofFields index coordinate).index = index := by
  have field : ((ofFields index coordinate).raw >>> indexShift) &&& indexMask =
      BitVec.ofNat 64 index := by
    apply BitVec.eq_of_getLsbD_eq
    intro position inWord
    rw [BitVec.getLsbD_and, getLsbD_indexMask, BitVec.getLsbD_ushiftRight, indexShift,
      getLsbD_ofFields]
    by_cases inField : position < 30
    · have notMarker : 32 + position ≠ 62 := by omega
      have shiftedInWord : 32 + position < 64 := by omega
      have beyondCoordinate : coordinate.toBitVec.getLsbD (32 + position) = false :=
        BitVec.getLsbD_of_ge _ _ (by omega)
      simp only [inField, notMarker, shiftedInWord, beyondCoordinate, decide_true, decide_false,
        Nat.not_lt_of_le (Nat.le_add_right 32 position), Nat.add_sub_cancel_left,
        Bool.false_or, Bool.true_and, Bool.not_false, Bool.and_false, Bool.or_false,
        Bool.and_true]
    · rw [getLsbD_index fits (Nat.le_of_not_lt inField)]
      simp only [inField, decide_false, Bool.and_false]
  have small : index < 2 ^ 64 := by rw [maxIndex_eq] at fits; omega
  rw [Handle.index, field, BitVec.toNat_ofNat, Nat.mod_eq_of_lt small]

@[simp] theorem coordinate_ofFields (index : Nat) (coordinate : UInt32) :
    (ofFields index coordinate).coordinate = coordinate := by
  apply UInt32.toBitVec_inj.mp
  apply BitVec.eq_of_getLsbD_eq
  intro position inField
  have notMarker : position ≠ 62 := by omega
  have inWord : position < 64 := by omega
  simp only [Handle.coordinate, BitVec.getLsbD_setWidth, BitVec.getLsbD_and, getLsbD_ofFields,
    getLsbD_coordinateMask, inField, notMarker, inWord, decide_true, decide_false,
    Bool.not_true, Bool.false_and, Bool.and_false, Bool.false_or, Bool.true_and, Bool.and_true]

theorem fields_of_pack {index : Nat} {coordinate : UInt32} {handle : Handle}
    (packed : pack index coordinate = .ok handle) :
    handle.isSlab = true ∧ handle.index = index ∧ handle.coordinate = coordinate := by
  obtain ⟨fits, rfl⟩ := pack_eq_ok_iff.mp packed
  exact ⟨isSlab_ofFields index coordinate, index_ofFields fits coordinate,
    coordinate_ofFields index coordinate⟩

/-! ## The fields of any raw value -/

theorem getLsbD_index_of_raw (handle : Handle) (position : Nat) :
    (BitVec.ofNat 64 handle.index).getLsbD position =
      (decide (position < 30) && handle.raw.getLsbD (32 + position)) := by
  rw [index, BitVec.ofNat_toNat, BitVec.setWidth_eq, BitVec.getLsbD_and,
    BitVec.getLsbD_ushiftRight, getLsbD_indexMask, indexShift, Bool.and_comm]

theorem getLsbD_coordinate_of_raw (handle : Handle) (position : Nat) :
    handle.coordinate.toBitVec.getLsbD position =
      (decide (position < 32) && handle.raw.getLsbD position) := by
  rw [coordinate, BitVec.getLsbD_setWidth, BitVec.getLsbD_and, getLsbD_coordinateMask]
  cases decide (position < 32) <;> simp

/-- Packing the fields of a raw value anew keeps its bits below the marker. -/
theorem getLsbD_ofFields_of_raw (handle : Handle) (position : Nat) :
    (ofFields handle.index handle.coordinate).raw.getLsbD position =
      (decide (position = 62) || (decide (position < 62) && handle.raw.getLsbD position)) := by
  rw [getLsbD_ofFields, getLsbD_index_of_raw, getLsbD_coordinate_of_raw]
  by_cases inCoordinate : position < 32
  · have notMarker : position ≠ 62 := by omega
    have below : position < 62 := by omega
    have inWord : position < 64 := by omega
    simp only [inCoordinate, notMarker, below, inWord, decide_true, decide_false, Bool.not_true,
      Bool.and_false, Bool.false_and, Bool.false_or, Bool.true_and]
  · have shifted : 32 + (position - 32) = position := by omega
    have inIndex : position - 32 < 30 ↔ position < 62 := by omega
    by_cases inWord : position < 64
    · simp [inCoordinate, shifted, inIndex, inWord]
    · have beyond : handle.raw.getLsbD position = false :=
        BitVec.getLsbD_of_ge _ _ (Nat.le_of_not_lt inWord)
      simp [inCoordinate, inWord, beyond]

end SlabRings.Handle
