import SlabRings.Event

/-!
# Sessions

A session applies actions to a state one after another and records, for each,
the events it reports and how it ends. The first action that faults ends the
session; what it reported before the fault stays on record.
-/

namespace SlabRings

/-- An action on a state that may report events, and may fault. -/
abbrev Session (State : Type) (α : Type) : Type :=
  StateT State (ExceptT Fault (StateM (Array Event))) α

structure Step (α : Type) where
  events : Array Event
  outcome : Except Fault α

namespace Step

def lines (step : Step α) (limit : Level) : Array String :=
  (step.events.filter fun event => limit.Admits event.level).map Event.line

end Step

namespace Session

variable {State α : Type}

/-! ## Running -/

/-- The records of the actions that are met, up to the first that faults. -/
def transcript : List (Session State α) → State → List (Step α)
  | [], _ => []
  | action :: rest, state =>
      match ((action.run state).run.run #[] : Except Fault (α × State) × Array Event) with
      | (.ok (result, state), events) => ⟨events, .ok result⟩ :: transcript rest state
      | (.error fault, events) => [⟨events, .error fault⟩]

/-! ## Building blocks -/

def report (events : List Event) : Session State Unit :=
  modifyThe (Array Event) fun recorded => events.foldl Array.push recorded

def ofExcept (result : Except Fault α) : Session State α :=
  match result with
  | .ok value => pure value
  | .error fault => throw fault

def read (reading : State → Except Fault α) : Session State α := do
  ofExcept (reading (← get))

def change (transition : State → Except Fault (α × State)) : Session State α := do
  let (result, state) ← ofExcept (transition (← get))
  set state
  return result

/-! ## Pool operations -/

private def applying (operation : Operation) (transition : Pool → Except Fault (α × Pool)) :
    Session Pool α := do
  report (operation.events (← get))
  change transition

def newHead : Session Pool Nat :=
  applying .newHead Pool.newHead

def insert (head : Nat) (coordinate : UInt32) (offset elementSize : UInt64) :
    Session Pool (Option Nat) :=
  applying (.insert head coordinate offset elementSize)
    fun pool => pool.insert head coordinate offset elementSize

def configure (id head : Nat) (elementSize : UInt64) : Session Pool Unit :=
  applying (.configure id head elementSize)
    fun pool => return ((), ← pool.configure id head elementSize)

def allocate (id : Nat) : Session Pool (Option Handle) :=
  applying (.allocate id) fun pool => pool.allocate id

def free (id head element : Nat) : Session Pool Bool :=
  applying (.free id head element) fun pool => pool.free id head element

def link (id head : Nat) : Session Pool Unit :=
  applying (.link id head) fun pool => return ((), ← pool.link id head)

def unlink (id : Nat) : Session Pool Unit :=
  applying (.unlink id) fun pool => return ((), ← pool.unlink id)

def destroy (id : Nat) : Session Pool Run :=
  applying (.destroy id) fun pool => pool.destroy id

/-! ## Compound actions -/

private def allocateAfter (id : Nat) :
    (count : Nat) → Array (Option Handle) → Session Pool (Array (Option Handle))
  | 0, handles => return handles
  | count + 1, handles => do
      match ← allocate id with
      | none => return handles.push none
      | some handle => allocateAfter id count (handles.push (some handle))

def allocateUpTo (id count : Nat) : Session Pool (Array (Option Handle)) :=
  allocateAfter id count #[]

def freeEach (id head : Nat) (elements : List Nat) : Session Pool (List Bool) :=
  elements.mapM fun element => free id head element

def listClass (head : Nat) : Session Pool Unit := do
  report [.classListed head]
  for id in ← read fun pool => pool.ring head do
    let summary ← read fun pool => do (← pool.slab id).summary
    report [.slabListed summary]

end Session

end SlabRings
