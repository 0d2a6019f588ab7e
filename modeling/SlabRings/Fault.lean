/-!
# Faults

Every check that can stop an operation has one cause here, with the numbers
that identify it: an element by its index, a slab or a head by its slot. The
wording of a cause is fixed in one place, `message`; definitions and theorems
speak about the causes alone.
-/

namespace SlabRings

inductive Fault where
  | indexTooLarge
  | outOfBounds (length index : Nat)
  | alreadyAllocated (element : Nat)
  | notAllocated (element : Nat)
  | beyondCapacity (element : Nat) (coordinate : UInt32)
  | noFreeElement (coordinate : UInt32) (available : Nat)
  | notSlab (id : Nat)
  | notHead (id : Nat)
  | vacantSlot (id : Nat)
  | vacancyInUse (id : Nat)
  | alreadyLinked (id : Nat)
  | notLinked (id : Nat)
  | destroyedWhileLinked (id : Nat)
  | halfLinked (before after : Bool)
  /-- A walk along a ring visits more slots than the table has. -/
  | openRing (head : Nat)
  | sumOverflow
  | differenceOverflow
  | productOverflow
deriving DecidableEq, Repr

namespace Fault

/-- The wording of a fault. A slab is named by its coordinate where an element
of it is at fault, and by its slot where its place in the table is. -/
def message : Fault → String
  | indexTooLarge => "assertion failed: bitmap_idx <= MAX_ELEMENT_INDEX"
  | outOfBounds length index =>
      s!"index out of bounds: the len is {length} but the index is {index}"
  | alreadyAllocated element => s!"element {element} is already allocated"
  | notAllocated element => s!"element {element} is not allocated"
  | beyondCapacity element coordinate =>
      s!"element {element} out of range for slab {coordinate.toNat}"
  | noFreeElement coordinate available =>
      s!"No free element in slab {coordinate.toNat} despite num_avail = {available}, " ++
        "bitmap inconsistency detected"
  | notSlab id => s!"Entry {id} is not a live slab"
  | notHead id => s!"Entry {id} is not a size class head"
  | vacantSlot id => s!"Entry {id} is vacant"
  | vacancyInUse id => s!"Vacant list points at live entry {id}"
  | alreadyLinked id => s!"slab {id} is already linked"
  | notLinked id => s!"slab {id} is not linked"
  | destroyedWhileLinked id => s!"slab {id} destroyed while linked"
  | halfLinked before after =>
      s!"assertion `left == right` failed\n  left: {before}\n right: {after}"
  | openRing head => s!"the ring of head {head} does not close"
  | sumOverflow => "attempt to add with overflow"
  | differenceOverflow => "attempt to subtract with overflow"
  | productOverflow => "attempt to multiply with overflow"

end Fault

end SlabRings
