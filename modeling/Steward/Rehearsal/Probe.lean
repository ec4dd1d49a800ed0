import Steward.Model.Agent
import Steward.Text.Natural
import Steward.Transport.Timed

/-!
# Probes

A service of agents for rehearsals: it answers every request with an agent that describes the
request, after a time and in a way that can be chosen for each method.
-/

namespace Steward

/-- How a probe treats the requests of one method. -/
structure ProbeManner where
  sleep : Option Nat := none
  breaks : Bool := false
  failure : Option Failure := none

namespace Probe

/-- What a request is about: the name of the resource, or the id. -/
def subject : Message Agent → String
  | .create agent => agent.metadata.name
  | .update agent => agent.metadata.name
  | .apply agent => agent.metadata.name
  | .delete id => id
  | .get id => id
  | .getByReference reference => reference.slug

/-- The time that a subject asks for: the number after `sleep-`. -/
def askedSleep (subject : String) : Option Nat :=
  match subject.toList with
  | 's' :: 'l' :: 'e' :: 'e' :: 'p' :: '-' :: cs => (Text.natural cs).toOption
  | _ => none

/-- The agent that describes a request. -/
def description (t : Timeline) (call : Call) (message : Message Agent) : Agent where
  metadata := { name := subject message, slug := message.method }
  spec := {
    description := call.kindName
    instructions := s!"deadline={call.deadline.isSome} cancelled={t.isCancelled call}" }
  status := {}

/-- Work that comes to nothing because the operation is not there. -/
def notThere (operation : String) : Job Agent where
  duration := 0
  entry := none
  reply _ := some (.error (.unimplemented operation))

/-- The work on a request of one method. -/
def job (manner : ProbeManner) (call : Call) (message : Message Agent) : Job Agent where
  duration := (manner.sleep.orElse fun _ => askedSleep (subject message)).getD 0
  entry := if manner.breaks then none else some s!"{message.method}:{subject message}"
  reply t :=
    if manner.breaks then none
    else match manner.failure with
      | some failure => some (.error failure)
      | none => some (.ok (description t call message))

/-- The work of a probe, given how it treats each method. -/
def work (manners : String → ProbeManner) (call : Call) (message : Message Agent) : Job Agent :=
  match message with
  | .apply _ => notThere "apply"
  | .getByReference _ => notThere "get_by_reference"
  | message => job (manners message.method) call message

end Probe

end Steward
