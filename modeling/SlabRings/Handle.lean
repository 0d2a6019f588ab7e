import SlabRings.Fault
import SlabRings.Text.Record

/-!
# Handles

A handle names one element of one slab in 64 bits. Bits 0 to 31 hold the
coordinate of the slab's run, bits 32 to 61 the index of the element, and bit
62 marks a handle into a slab, as against one of a whole run. Bit 63 is unused:
no packed handle has it, and reading a handle ignores it.
-/

namespace SlabRings

structure Handle where
  raw : BitVec 64
deriving DecidableEq, Repr

namespace Handle

/-! ## The layout -/

/-- The position of the bit that tells a handle into a slab from one of a whole run. -/
def markerBit : Nat := 62

def marker : BitVec 64 := BitVec.twoPow 64 markerBit

def indexShift : Nat := 32

def indexMask : BitVec 64 := 0x3fffffff#64

def coordinateMask : BitVec 64 := 0xffffffff#64

def maxIndex : Nat := indexMask.toNat

/-! ## Packing and reading -/

/-- The fields side by side. An index beyond `maxIndex` would run into the marker. -/
def ofFields (index : Nat) (coordinate : UInt32) : Handle :=
  ⟨marker ||| (BitVec.ofNat 64 index <<< indexShift) ||| coordinate.toBitVec.setWidth 64⟩

def pack (index : Nat) (coordinate : UInt32) : Except Fault Handle :=
  if index ≤ maxIndex then .ok (ofFields index coordinate) else .error .indexTooLarge

def isSlab (handle : Handle) : Bool :=
  handle.raw.getLsbD markerBit

def index (handle : Handle) : Nat :=
  ((handle.raw >>> indexShift) &&& indexMask).toNat

def coordinate (handle : Handle) : UInt32 :=
  ⟨(handle.raw &&& coordinateMask).setWidth 32⟩

def repack (handle : Handle) : Except Fault Handle :=
  pack handle.index handle.coordinate

example : ofFields 3 2049 = ⟨0x4000000300000801#64⟩ := rfl

example : (ofFields 3 2049).index = 3 ∧ (ofFields 3 2049).coordinate = 2049 := by decide

/-! ## Lemmas -/

theorem pack_eq_ok_iff {index : Nat} {coordinate : UInt32} {handle : Handle} :
    pack index coordinate = .ok handle ↔
      index ≤ maxIndex ∧ handle = ofFields index coordinate := by
  by_cases fits : index ≤ maxIndex <;> simp [pack, fits, eq_comm]

theorem index_le_maxIndex (handle : Handle) : handle.index ≤ maxIndex := by
  simp only [index, maxIndex, BitVec.toNat_and]
  exact Nat.and_le_right

/-! ## Text -/

def record (handle : Handle) : Text.Record where
  title := "SlabHandle"
  fields :=
    [("raw", "0x" ++ handle.raw.toHex),
      ("bitmap_idx", toString handle.index),
      ("memory_map_idx", toString handle.coordinate.toNat)]

end Handle

end SlabRings
