import SlabRings.Handle

/-!
# Runs

A run is a stretch of consecutive bytes of some region, of the size that all
runs of one pool share. A slab divides its run into elements of one size, as
many as fit whole; what is left over at the end stays unused. The coordinate
names the run in every handle, and the offset counts from the start of the region.
-/

namespace SlabRings

structure Run where
  coordinate : UInt32
  offset : UInt64
  size : UInt64
deriving DecidableEq, Repr

namespace Run

def defaultSize : UInt64 := 8192

def smallestElement : UInt64 := 16

/-- The number of elements of a given size that fit into a run of a given size.
A run of zero-size elements keeps no account of them, and has none. -/
def capacity (size elementSize : UInt64) : Nat :=
  if elementSize = 0 then 0 else size.toNat / elementSize.toNat

/-- Whether a run may be divided so: one element fits, and the index of each
fits a handle. A zero size counts here as a size of one byte. -/
def Admits (size elementSize : UInt64) : Prop :=
  elementSize ≤ size ∧ size.toNat / max elementSize.toNat 1 ≤ Handle.maxIndex + 1

instance (size elementSize : UInt64) : Decidable (Admits size elementSize) := by
  unfold Admits
  infer_instance

@[simp] theorem capacity_zero (size : UInt64) : capacity size 0 = 0 := rfl

theorem capacity_of_ne_zero {size elementSize : UInt64} (different : elementSize ≠ 0) :
    capacity size elementSize = size.toNat / elementSize.toNat := by
  simp [capacity, different]

theorem admits_iff_of_ne_zero {size elementSize : UInt64} (different : elementSize ≠ 0) :
    Admits size elementSize ↔
      elementSize ≤ size ∧ capacity size elementSize ≤ Handle.maxIndex + 1 := by
  have positive : 1 ≤ elementSize.toNat := by
    apply Nat.one_le_iff_ne_zero.mpr
    intro zero
    exact different (UInt64.toNat_inj.mp zero)
  rw [Admits, capacity_of_ne_zero different, Nat.max_eq_left positive]

theorem capacity_le_size (size elementSize : UInt64) :
    capacity size elementSize ≤ size.toNat := by
  unfold capacity
  split
  · exact Nat.zero_le _
  · exact Nat.div_le_self _ _

end Run

end SlabRings
