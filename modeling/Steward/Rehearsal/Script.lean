import Steward.Call.Timeline
import Steward.Model.AgentInstance
import Steward.Text.Quoted

/-!
# Scripts

A stand-in for the service of agent instances: it answers calls from a list of expectations, one
after another, and keeps what it was given. A call that the next expectation does not foresee
breaks the rehearsal off.
-/

namespace Steward

/-- A call that a script foresees. -/
inductive ExpectedCall where
  | create
  | update
  | get (id : String)
deriving DecidableEq

namespace ExpectedCall

/-- How a foreseen call is described. -/
def describe : ExpectedCall → String
  | create => "create"
  | update => "update"
  | get id => s!"get({id})"

/-- The operation that is called. -/
def operation : ExpectedCall → String
  | create => "create"
  | update => "update"
  | get _ => "get"

end ExpectedCall

/-- A foreseen call with the answer to it. -/
structure Expectation where
  call : ExpectedCall
  answer : Except Failure AgentInstance

/-- A call that was made, with what could be seen of its context. -/
structure HeardCall where
  operation : String
  kindName : String
  hasDeadline : Bool
  cancelled : Bool
deriving DecidableEq

structure Script where
  expectations : List Expectation := []
  /-- What was given to be created or updated. -/
  received : List AgentInstance := []
  heard : List HeardCall := []
  /-- How often each of the recording steps was run. -/
  visits : List Nat := []

namespace Script

/-- Notes a call that was made. -/
def hear (s : Script) (t : Timeline) (call : Call) (operation : String) : Script :=
  { s with heard := s.heard ++ [⟨operation, call.kindName, call.deadline.isSome,
      t.isCancelled call⟩] }

/-- Keeps a resource that was given. -/
def keep (s : Script) (instanceGiven : AgentInstance) : Script :=
  { s with received := s.received ++ [instanceGiven] }

/-- The answer to a call. -/
def answer (s : Script) (made : ExpectedCall) : Except Stop AgentInstance × Script :=
  match s.expectations with
  | [] => (.error (.broken s!"Unexpected {made.operation} call: no expectations left"), s)
  | expected :: rest =>
    let s := { s with expectations := rest }
    match expected.call, made with
    | .create, .create => (expected.answer.mapError .failed, s)
    | .update, .update => (expected.answer.mapError .failed, s)
    | .get foreseen, .get id =>
      if foreseen = id then (expected.answer.mapError .failed, s)
      else (.error (.broken "get called with unexpected id"), s)
    | foreseen, made =>
      (.error (.broken s!"Expected {foreseen.describe}, got {made.describe}"), s)

/-- Counts a run of the recording step with a given number. -/
def visit (s : Script) (step : Nat) : Script :=
  { s with visits := s.visits.modify step (· + 1) }

/-- The complaint about expectations that were not met, if there are any. -/
def complaint? (s : Script) : Option String :=
  if s.expectations.isEmpty then none
  else some ("Not all expectations were met. " ++ toString s.expectations.length ++
    " remaining: [" ++ ", ".intercalate (s.expectations.map (Text.quoted ·.call.describe)) ++ "]")

end Script

end Steward
