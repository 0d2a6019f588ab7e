import SlabRings.Checked
import SlabRings.Occupancy
import SlabRings.Run

/-!
# Slabs

A slab is a run together with its account: how the run is divided, which
elements are taken, how many are free, which one to hand out next, and the
neighbours of the slab on the ring it is on, `prev` towards the head and `next`
away from it. `divide` opens the account for one element size, `take` hands an
element out and `release` takes it back; what a full or an empty slab means for
its ring is the business of the pool.
-/

namespace SlabRings

structure Slab where
  run : Run
  elementSize : UInt64 := 0
  capacity : Nat := 0
  available : Nat := 0
  /-- The element to hand out next, where one is preferred to the lowest free one. -/
  hint : Option Nat := none
  active : Bool := false
  occupancy : Occupancy := {}
  prev : Option Nat := none
  next : Option Nat := none
deriving DecidableEq, Repr

namespace Slab

/-! ## Service -/

/-- Divide the run anew: every element is free, and the first one comes next. -/
def divide (slab : Slab) (elementSize : UInt64) : Slab :=
  let capacity := Run.capacity slab.run.size elementSize
  { slab with
    elementSize
    capacity
    available := capacity
    hint := if elementSize = 0 then none else some 0
    active := true
    occupancy := .vacant capacity }

def handle (slab : Slab) (element : Nat) : Except Fault Handle :=
  Handle.pack element slab.run.coordinate

def choose (slab : Slab) : Except Fault Nat :=
  match slab.hint with
  | some element => .ok element
  | none =>
      match slab.occupancy.firstFree slab.capacity with
      | some element => .ok element
      | none => .error (.noFreeElement slab.run.coordinate slab.available)

def take (slab : Slab) : Except Fault (Nat × Slab) := do
  let element ← slab.choose
  let occupancy ← slab.occupancy.insert element
  let available ← Checked.sub slab.available 1
  return (element, { slab with occupancy, available, hint := none })

def takeHandle (slab : Slab) : Except Fault (Handle × Slab) := do
  let (element, taken) ← slab.take
  return (← taken.handle element, taken)

def release (slab : Slab) (element : Nat) : Except Fault Slab :=
  if element < slab.capacity then do
    let occupancy ← slab.occupancy.erase element
    let available ← Checked.add slab.available 1
    return { slab with occupancy, available, hint := some element }
  else
    .error (.beyondCapacity element slab.run.coordinate)

def retire (slab : Slab) : Slab :=
  { slab with active := false }

def CanServe (slab : Slab) : Prop :=
  slab.elementSize ≠ 0 ∧ slab.available ≠ 0 ∧ slab.active = true

instance (slab : Slab) : Decidable slab.CanServe := by
  unfold CanServe
  infer_instance

/-! ## Reading -/

/-- Whether an element is taken. Beyond the capacity nothing is. -/
def isAllocated (slab : Slab) (element : Nat) : Except Fault Bool :=
  if element < slab.capacity then slab.occupancy.contains element else .ok false

def elementOffset (slab : Slab) (element : Nat) : Except Fault Nat := do
  Checked.add slab.run.offset.toNat (← Checked.mul element slab.elementSize.toNat)

/-- Whether the slab has neighbours, which it has on both sides or on none. -/
def isLinked (slab : Slab) : Except Fault Bool :=
  if slab.prev.isSome = slab.next.isSome then
    .ok slab.next.isSome
  else
    .error (.halfLinked slab.prev.isSome slab.next.isSome)

def used (slab : Slab) : Except Fault Nat :=
  Checked.sub slab.capacity slab.available

/-! ## Text -/

def summary (slab : Slab) : Except Fault String :=
  if slab.active then do
    let used ← slab.used
    return s!"({slab.run.coordinate.toNat}: {used}/{slab.capacity}" ++
      s!", offset: {slab.run.offset.toNat}, length: {slab.run.size.toNat}" ++
      s!", elemSize: {slab.elementSize.toNat})"
  else
    .ok s!"({slab.run.coordinate.toNat}: not in use)"

def record (slab : Slab) : Text.Record where
  title := "Slab"
  fields :=
    [("memory_map_idx", toString slab.run.coordinate.toNat),
      ("run_offset", toString slab.run.offset.toNat),
      ("elem_size", toString slab.elementSize.toNat),
      ("num_avail", toString slab.available),
      ("max_num_elems", toString slab.capacity),
      ("active", toString slab.active)]

end Slab

end SlabRings
