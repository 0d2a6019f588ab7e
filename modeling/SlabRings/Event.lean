import SlabRings.History

/-!
# Events

What the operations of a pool report. The events follow from the operation and
the pool that it meets, so the operations themselves carry no record. Taking an
element and returning one are reported before the ring is touched, so they stay
on record where the ring then faults; every other event tells of an operation
that ends without a fault.
-/

namespace SlabRings

inductive Level where
  | error
  | warn
  | info
  | debug
  | trace
deriving DecidableEq, Repr

namespace Level

def rank : Level → Nat
  | error => 0
  | warn => 1
  | info => 2
  | debug => 3
  | trace => 4

def name : Level → String
  | error => "ERROR"
  | warn => "WARN"
  | info => "INFO"
  | debug => "DEBUG"
  | trace => "TRACE"

def Admits (limit level : Level) : Prop :=
  level.rank ≤ limit.rank

instance (limit level : Level) : Decidable (limit.Admits level) := by
  unfold Admits
  infer_instance

end Level

inductive Event where
  | headMade (id : Nat)
  | sizeRefused (elementSize pageSize : UInt64)
  | elementTaken (element id : Nat)
  | elementReturned (element id : Nat)
  | slabRetired (id : Nat)
  | slabDestroyed (id : Nat) (run : Run)
  | classListed (head : Nat)
  | slabListed (summary : String)
deriving DecidableEq, Repr

namespace Event

def level : Event → Level
  | sizeRefused .. => .warn
  | elementTaken .. | elementReturned .. => .trace
  | headMade .. | slabRetired .. | slabDestroyed .. | classListed .. | slabListed .. => .debug

def message : Event → String
  | headMade id => s!"slab pool: new size class head {id}"
  | sizeRefused elementSize pageSize =>
      s!"slab pool: element size {elementSize.toNat} does not fit a {pageSize.toNat} byte run"
  | elementTaken element id => s!"slab pool: allocated element {element} of slab {id}"
  | elementReturned element id => s!"slab pool: freed element {element} of slab {id}"
  | slabRetired id => s!"slab pool: slab {id} is empty, run may be reclaimed"
  | slabDestroyed id run =>
      s!"slab pool: destroying slab {id} (run {Text.hexadecimal run.offset.toNat}" ++
        s!", coordinate {run.coordinate.toNat})"
  | classListed head => s!"size class {head}:"
  | slabListed summary => s!"  {summary}"

def line (event : Event) : String :=
  event.level.name ++ " " ++ event.message

end Event

/-- What an operation reports when it meets a pool, whether or not it faults. -/
def Operation.events (operation : Operation) (pool : Pool) : List Event :=
  match operation with
  | newHead =>
      match pool.newHead with
      | .ok (id, _) => [.headMade id]
      | .error _ => []
  | insert _ _ _ elementSize =>
      if Run.Admits pool.pageSize elementSize then []
      else [.sizeRefused elementSize pool.pageSize]
  | allocate id =>
      match pool.slab id with
      | .ok slab =>
          if slab.CanServe then
            match slab.takeHandle with
            | .ok (handle, _) => [.elementTaken handle.index id]
            | .error _ => []
          else []
      | .error _ => []
  | free id head element =>
      match pool.slab id with
      | .ok slab =>
          if slab.elementSize = 0 then []
          else
            match slab.release element with
            | .ok _ =>
                match pool.free id head element with
                | .ok (false, _) => [.elementReturned element id, .slabRetired id]
                | _ => [.elementReturned element id]
            | .error _ => []
      | .error _ => []
  | destroy id =>
      match pool.destroy id with
      | .ok (run, _) => [.slabDestroyed id run]
      | .error _ => []
  | configure .. | link .. | unlink .. => []

end SlabRings
