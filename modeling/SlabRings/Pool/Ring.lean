import SlabRings.Pool.Table

/-!
# Rings

Every size-class head stands on a closed ring of slots, linked in both
directions: the head itself and the slabs of its class that have room. A new
head is alone on its ring. `link` puts a slab right behind the head, `unlink`
closes the gap that a slab leaves, and `ring` reads the slabs from the head on.
-/

namespace SlabRings

namespace Slot

def withNext : Slot → Nat → Option Slot
  | head neighbours, next => some (head { neighbours with next })
  | slab content, next => some (slab { content with next := some next })
  | vacant _, _ => none

def withPrev : Slot → Nat → Option Slot
  | head neighbours, prev => some (head { neighbours with prev })
  | slab content, prev => some (slab { content with prev := some prev })
  | vacant _, _ => none

end Slot

namespace Pool

/-! ## Single links -/

def setNext (pool : Pool) (id next : Nat) : Except Fault Pool :=
  match pool.slots[id]? with
  | none => .error (.outOfBounds pool.slots.size id)
  | some slot =>
      match slot.withNext next with
      | some changed => .ok (pool.store id changed)
      | none => .error (.vacantSlot id)

def setPrev (pool : Pool) (id prev : Nat) : Except Fault Pool :=
  match pool.slots[id]? with
  | none => .error (.outOfBounds pool.slots.size id)
  | some slot =>
      match slot.withPrev prev with
      | some changed => .ok (pool.store id changed)
      | none => .error (.vacantSlot id)

/-! ## Splicing -/

/-- Put a slab that is on no ring right behind a head. -/
def link (pool : Pool) (id head : Nat) : Except Fault Pool := do
  let neighbours ← pool.head head
  let slab ← pool.slab id
  if slab.prev = none ∧ slab.next = none then
    let linked := { slab with prev := some head, next := some neighbours.next }
    let pool ← (pool.store id (.slab linked)).setPrev neighbours.next id
    pool.setNext head id
  else
    .error (.alreadyLinked id)

def unlink (pool : Pool) (id : Nat) : Except Fault Pool := do
  let slab ← pool.slab id
  match slab.prev, slab.next with
  | some prev, some next =>
      let pool := pool.store id (.slab { slab with prev := none, next := none })
      let pool ← pool.setNext prev next
      pool.setPrev next prev
  | _, _ => .error (.notLinked id)

/-! ## Reading -/

def walk (pool : Pool) (head : Nat) : (steps current : Nat) → Except Fault (List Nat)
  | 0, current => if current = head then .ok [] else .error (.openRing head)
  | steps + 1, current =>
      if current = head then
        .ok []
      else do
        let slab ← pool.slab current
        match slab.next with
        | none => return [current]
        | some next => return current :: (← pool.walk head steps next)

/-- The slabs on the ring of a head, the one linked last first. A ring has fewer
slabs than the table has slots, so the walk ends. -/
def ring (pool : Pool) (head : Nat) : Except Fault (List Nat) := do
  pool.walk head pool.slots.size (← pool.head head).next

end Pool

end SlabRings
