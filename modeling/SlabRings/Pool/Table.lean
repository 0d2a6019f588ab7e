import SlabRings.Slab

/-!
# The slot table

A pool keeps its size-class heads and its slabs in one table of slots. The
place of a slot is the identity of what it holds, and links between slots are
places. A slot that falls vacant joins a chain of vacant slots; the next entry
goes to the slot that was vacated last, and the table grows only when no slot
is vacant.
-/

namespace SlabRings

structure Neighbours where
  prev : Nat
  next : Nat
deriving DecidableEq, Repr

inductive Slot where
  | head (neighbours : Neighbours)
  | slab (slab : Slab)
  /-- Nothing, and the slot that was vacated before this one and is vacant still. -/
  | vacant (earlier : Option Nat)
deriving DecidableEq, Repr

structure Counters where
  activeSlabs : Nat := 0
  allocations : Nat := 0
  frees : Nat := 0
  retirements : Nat := 0
deriving DecidableEq, Repr

structure Pool where
  pageSize : UInt64
  slots : Array Slot := #[]
  lastVacated : Option Nat := none
  counters : Counters := {}
deriving DecidableEq, Repr

namespace Pool

def empty (pageSize : UInt64) : Pool where
  pageSize

/-! ## Looking up -/

def slab (pool : Pool) (id : Nat) : Except Fault Slab :=
  match pool.slots[id]? with
  | some (.slab slab) => .ok slab
  | _ => .error (.notSlab id)

def head (pool : Pool) (id : Nat) : Except Fault Neighbours :=
  match pool.slots[id]? with
  | some (.head neighbours) => .ok neighbours
  | some _ => .error (.notHead id)
  | none => .error (.outOfBounds pool.slots.size id)

def headIds (pool : Pool) : List Nat :=
  (List.range pool.slots.size).filter fun id => pool.slots[id]? matches some (.head _)

def slabIds (pool : Pool) : List Nat :=
  (List.range pool.slots.size).filter fun id => pool.slots[id]? matches some (.slab _)

theorem slab_eq_ok_iff {pool : Pool} {id : Nat} {slab : Slab} :
    pool.slab id = .ok slab ↔ pool.slots[id]? = some (.slab slab) := by
  unfold Pool.slab
  split <;> simp_all

theorem head_eq_ok_iff {pool : Pool} {id : Nat} {neighbours : Neighbours} :
    pool.head id = .ok neighbours ↔ pool.slots[id]? = some (.head neighbours) := by
  unfold Pool.head
  split <;> simp_all

/-! ## Writing -/

def store (pool : Pool) (id : Nat) (slot : Slot) : Pool :=
  { pool with slots := pool.slots.setIfInBounds id slot }

@[simp] theorem size_store (pool : Pool) (id : Nat) (slot : Slot) :
    (pool.store id slot).slots.size = pool.slots.size := by
  simp [store]

theorem getElem?_store_same {pool : Pool} {id : Nat} (inTable : id < pool.slots.size)
    (slot : Slot) : (pool.store id slot).slots[id]? = some slot := by
  simp [store, inTable]

theorem getElem?_store_other {pool : Pool} {id other : Nat} (different : other ≠ id)
    (slot : Slot) : (pool.store id slot).slots[other]? = pool.slots[other]? := by
  simp [store, different.symm]

def tally (pool : Pool) (change : Counters → Except Fault Counters) : Except Fault Pool := do
  return { pool with counters := ← change pool.counters }

/-! ## Vacant slots -/

/-- Put an entry into the slot vacated last, or into a new slot at the end of
the table. The entry may refer to its own slot. -/
def claim (pool : Pool) (entry : Nat → Slot) : Except Fault (Nat × Pool) :=
  match pool.lastVacated with
  | none =>
      let id := pool.slots.size
      .ok (id, { pool with slots := pool.slots.push (entry id) })
  | some id =>
      match pool.slots[id]? with
      | some (.vacant earlier) =>
          .ok (id, { pool.store id (entry id) with lastVacated := earlier })
      | some _ => .error (.vacancyInUse id)
      | none => .error (.outOfBounds pool.slots.size id)

def vacate (pool : Pool) (id : Nat) : Pool :=
  { pool.store id (.vacant pool.lastVacated) with lastVacated := some id }

end Pool

/-! ## Counting -/

namespace Counters

def activated (counters : Counters) : Except Fault Counters := do
  return { counters with activeSlabs := ← Checked.add counters.activeSlabs 1 }

def deactivated (counters : Counters) : Except Fault Counters := do
  return { counters with activeSlabs := ← Checked.sub counters.activeSlabs 1 }

def allocated (counters : Counters) : Except Fault Counters := do
  return { counters with allocations := ← Checked.add counters.allocations 1 }

def freed (counters : Counters) : Except Fault Counters := do
  return { counters with frees := ← Checked.add counters.frees 1 }

def retired (counters : Counters) : Except Fault Counters := do
  return { ← counters.deactivated with retirements := ← Checked.add counters.retirements 1 }

end Counters

end SlabRings
