import Steward.Assignment
import Steward.World

/-!
# Requests

The working state of one run of a pipeline: what the caller gave, the state being built, the state
that was stored before, and a bag of notes that steps leave for later steps.
-/

namespace Steward

/-- A note in the bag. -/
inductive Note (R : Type) where
  | text (value : String)
  | flag (value : Bool)
  | number (value : Int)
  | resource (value : R)

namespace Note

variable {R : Type}

def text? : Note R → Option String
  | text value => some value
  | _ => none

def flag? : Note R → Option Bool
  | flag value => some value
  | _ => none

def number? : Note R → Option Int
  | number value => some value
  | _ => none

def resource? : Note R → Option R
  | resource value => some value
  | _ => none

end Note

/-- A request for something of type `Input`, about resources of type `R`. -/
structure Request (Input R : Type) where
  call : Call
  input : Input
  newState : Option Input := none
  existing : Option Input := none
  notes : List (String × Note R) := []

namespace Request

variable {Input R α : Type}

/-- A request whose new state is the input. -/
def seeded (call : Call) (input : Input) : Request Input R where
  call := call
  input := input
  newState := some input

/-- The new state, which some step must have filled. -/
def getNewState (r : Request Input R) : Except Failure Input :=
  match r.newState with
  | some state => .ok state
  | none => .error (.stateNotSet "new_state")

/-- The state stored before, which some step must have filled. -/
def getExisting (r : Request Input R) : Except Failure Input :=
  match r.existing with
  | some state => .ok state
  | none => .error (.stateNotSet "existing")

/-- Fills the new state with the input if it is not filled. -/
def seed (r : Request Input R) : Request Input R :=
  match r.newState with
  | some _ => r
  | none => { r with newState := some r.input }

/-! ## Notes -/

def contains (r : Request Input R) (key : String) : Bool :=
  (r.notes.lookup key).isSome

/-- Leaves a note, in place of one under the same key. -/
def leave (r : Request Input R) (key : String) (note : Note R) : Request Input R :=
  { r with notes := assign key note r.notes }

/-- The note under a key, if it is of the wanted sort. -/
def find? (r : Request Input R) (key : String) (sort : Note R → Option α) : Option α :=
  (r.notes.lookup key).bind sort

@[simp]
theorem find?_leave_self (r : Request Input R) (key : String) (note : Note R)
    (sort : Note R → Option α) : (r.leave key note).find? key sort = sort note := by
  rw [find?, leave, lookup_assign, if_pos rfl, Option.bind_some]

theorem find?_leave_of_ne (r : Request Input R) {key other : String} (note : Note R)
    (sort : Note R → Option α) (apart : key ≠ other) :
    (r.leave other note).find? key sort = r.find? key sort := by
  rw [find?, leave, lookup_assign, if_neg apart, find?]

/-- Takes the note under a key away, if it is of the wanted sort. -/
def take (r : Request Input R) (key : String) (sort : Note R → Option α) :
    Option α × Request Input R :=
  match r.find? key sort with
  | some value => (some value, { r with notes := r.notes.filter (·.1 ≠ key) })
  | none => (none, r)

end Request

end Steward
