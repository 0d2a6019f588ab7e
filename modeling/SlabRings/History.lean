import SlabRings.Pool.Service

/-!
# Histories

The operations of a pool as data, with the answer that each gives. A history is
a list of operations, run in turn from some pool on; it comes to an end only if
no operation in it faults. The pools that histories lead to from an empty pool
are the reachable ones.
-/

namespace SlabRings

inductive Operation where
  | newHead
  | insert (head : Nat) (coordinate : UInt32) (offset elementSize : UInt64)
  | configure (id head : Nat) (elementSize : UInt64)
  | allocate (id : Nat)
  | free (id head element : Nat)
  | link (id head : Nat)
  | unlink (id : Nat)
  | destroy (id : Nat)
deriving DecidableEq, Repr

inductive Answer where
  | head (id : Nat)
  | inserted (id : Option Nat)
  | allocated (handle : Option Handle)
  | freed (resident : Bool)
  | released (run : Run)
  | done
deriving DecidableEq, Repr

def Operation.apply : Operation → Pool → Except Fault (Answer × Pool)
  | newHead, pool => do
      let (id, pool) ← pool.newHead
      return (.head id, pool)
  | insert head coordinate offset elementSize, pool => do
      let (id, pool) ← pool.insert head coordinate offset elementSize
      return (.inserted id, pool)
  | configure id head elementSize, pool => do
      return (.done, ← pool.configure id head elementSize)
  | allocate id, pool => do
      let (handle, pool) ← pool.allocate id
      return (.allocated handle, pool)
  | free id head element, pool => do
      let (resident, pool) ← pool.free id head element
      return (.freed resident, pool)
  | link id head, pool => do
      return (.done, ← pool.link id head)
  | unlink id, pool => do
      return (.done, ← pool.unlink id)
  | destroy id, pool => do
      let (run, pool) ← pool.destroy id
      return (.released run, pool)

def Pool.run (pool : Pool) : List Operation → Except Fault (List Answer × Pool)
  | [] => .ok ([], pool)
  | operation :: rest => do
      let (answer, pool) ← operation.apply pool
      let (answers, pool) ← pool.run rest
      return (answer :: answers, pool)

/-- The pools that some history leads to from an empty pool. -/
inductive Reachable (pageSize : UInt64) : Pool → Prop where
  | empty : Reachable pageSize (.empty pageSize)
  | step {before after : Pool} {operation : Operation} {answer : Answer} :
      Reachable pageSize before → operation.apply before = .ok (answer, after) →
        Reachable pageSize after

end SlabRings
