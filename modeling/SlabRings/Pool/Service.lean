import SlabRings.Pool.Ring

/-!
# Serving elements

The operations of a pool. A slab stands on a ring while it is in service and
has room: it is linked when it is divided, leaves when its last element goes,
and comes back with the first element that is returned. A slab that falls
wholly free is retired, unless it is alone on its ring; a slab on no ring can
be divided anew, or destroyed and its run given back.
-/

namespace SlabRings

namespace Pool

def newHead (pool : Pool) : Except Fault (Nat × Pool) :=
  pool.claim fun id => .head ⟨id, id⟩

def configure (pool : Pool) (id head : Nat) (elementSize : UInt64) : Except Fault Pool := do
  let slab ← pool.slab id
  let pool := pool.store id (.slab (slab.divide elementSize))
  let pool ← if slab.active then .ok pool else pool.tally Counters.activated
  pool.link id head

def insert (pool : Pool) (head : Nat) (coordinate : UInt32) (offset elementSize : UInt64) :
    Except Fault (Option Nat × Pool) :=
  if Run.Admits pool.pageSize elementSize then do
    let run : Run := ⟨coordinate, offset, pool.pageSize⟩
    let (id, pool) ← pool.claim fun _ => .slab { run }
    return (some id, ← pool.configure id head elementSize)
  else
    .ok (none, pool)

/-- Hand out one element of a slab, if it can serve. Elements of size zero are
all the same one, and no account is kept of them. -/
def allocate (pool : Pool) (id : Nat) : Except Fault (Option Handle × Pool) := do
  let slab ← pool.slab id
  if slab.elementSize = 0 then
    return (some (← slab.handle 0), pool)
  else if slab.CanServe then
    let (handle, taken) ← slab.takeHandle
    let pool := pool.store id (.slab taken)
    let pool ← if taken.available = 0 then pool.unlink id else .ok pool
    return (some handle, ← pool.tally Counters.allocated)
  else
    return (none, pool)

def retire (pool : Pool) (id : Nat) : Except Fault Pool := do
  let slab ← pool.slab id
  let pool ← (pool.store id (.slab slab.retire)).unlink id
  pool.tally Counters.retired

/-- Take one element of a slab back, and tell whether the slab stays resident.
A slab that was exhausted joins the ring of the head; one that is wholly free
and has company on its ring is retired, and need not stay. -/
def free (pool : Pool) (id head element : Nat) : Except Fault (Bool × Pool) := do
  let slab ← pool.slab id
  if slab.elementSize = 0 then
    return (true, pool)
  else
    let released ← slab.release element
    let pool ← (pool.store id (.slab released)).tally Counters.freed
    if slab.available = 0 then
      return (true, ← pool.link id head)
    else if released.available = released.capacity ∧ released.prev ≠ released.next then
      return (false, ← pool.retire id)
    else
      return (true, pool)

def destroy (pool : Pool) (id : Nat) : Except Fault (Run × Pool) := do
  let slab ← pool.slab id
  if ← slab.isLinked then
    .error (.destroyedWhileLinked id)
  else
    let pool ← if slab.active then pool.tally Counters.deactivated else .ok pool
    return (slab.run, pool.vacate id)

end Pool

end SlabRings
