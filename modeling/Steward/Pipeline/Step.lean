import Steward.Request

/-!
# Steps

A step is a named piece of work on a request. Its contract says which slots of the request it reads
and which it fills.
-/

namespace Steward

/-- A part of a request that steps read or fill. -/
inductive Slot where
  | newState
  | existing
  /-- The id that a step took out of the input and left as a note. -/
  | resourceId
deriving DecidableEq

def Slot.text : Slot → String
  | newState => "new_state"
  | existing => "existing"
  | resourceId => "resource_id"

structure Contract where
  requires : List Slot := []
  provides : List Slot := []
deriving DecidableEq

/-- A request in the world it is worked on. -/
structure Session (Item Input R : Type) where
  world : World Item
  request : Request Input R

/-- Work on a request. Stopping keeps what was changed in the request and in the world. -/
abbrev Work (Item Input R α : Type) := EStateM Stop (Session Item Input R) α

structure Step (Item Input R : Type) where
  name : String
  contract : Contract := {}
  run : Work Item Input R Unit

namespace Work

variable {Item Input R α : Type}

/-- An operation on the world, as a part of the work on a request. -/
def perform (op : Op Item α) : Work Item Input R α := fun s =>
  match op.run s.world with
  | .ok a w => .ok a { s with world := w }
  | .error stop w => .error stop { s with world := w }

def fail (failure : Failure) : Work Item Input R α :=
  throw (.failed failure)

/-- The value of an answer, or a stop with its failure. -/
def ofExcept : Except Failure α → Work Item Input R α
  | .ok a => pure a
  | .error failure => fail failure

def request : Work Item Input R (Request Input R) := do
  return (← get).request

def modifyRequest (f : Request Input R → Request Input R) : Work Item Input R Unit :=
  modify fun s => { s with request := f s.request }

def newState : Work Item Input R Input := do
  ofExcept (← request).getNewState

/-- The state of the request that was stored before. -/
def existing : Work Item Input R Input := do
  ofExcept (← request).getExisting

def setNewState (state : Input) : Work Item Input R Unit :=
  modifyRequest fun r => { r with newState := some state }

def setExisting (state : Input) : Work Item Input R Unit :=
  modifyRequest fun r => { r with existing := some state }

/-- Leaves a note for later steps. -/
def leave (key : String) (note : Note R) : Work Item Input R Unit :=
  modifyRequest fun r => r.leave key note

/-- The kind that the call is about. -/
def requireKind : Work Item Input R Kind := do
  ofExcept (← request).call.requireKind

end Work

end Steward
