import Steward.Resource.Codec

/-!
# Workflow executions

One run of a workflow instance. Its status moves from phase to phase and is streamed to those who
listen.
-/

namespace Steward

/-- How far an execution has come. -/
inductive Phase where
  | pending
  | inProgress
  | completed
  | failed
  | cancelled
deriving DecidableEq, Inhabited

namespace Phase

def all : List Phase := [pending, inProgress, completed, failed, cancelled]

/-- The written form of a phase. -/
def text : Phase → String
  | pending => "pending"
  | inProgress => "in_progress"
  | completed => "completed"
  | failed => "failed"
  | cancelled => "cancelled"

/-- An execution does not leave this phase. -/
def isTerminal : Phase → Bool
  | pending => false
  | inProgress => false
  | completed => true
  | failed => true
  | cancelled => true

def ofText? (s : String) : Option Phase :=
  all.find? (·.text = s)

def toJson (p : Phase) : Json := .text p.text

def ofJson? (j : Json) : Option Phase :=
  j.choice?.bind ofText?

end Phase

structure ExecutionSpec where
  workflowInstanceId : String := ""
  triggerMessage : String := ""
deriving DecidableEq, Inhabited

structure ExecutionStatus where
  phase : Phase := .pending
  message : String := ""
deriving DecidableEq, Inhabited

namespace ExecutionSpec

def toJson (s : ExecutionSpec) : Json :=
  .record [("workflow_instance_id", .text s.workflowInstanceId),
    ("trigger_message", .text s.triggerMessage)]

def ofJson? (j : Json) : Option ExecutionSpec := do
  let fields ← j.fields? ["workflow_instance_id", "trigger_message"]
  return {
    workflowInstanceId := ← fields.get "workflow_instance_id" Json.text? ""
    triggerMessage := ← fields.get "trigger_message" Json.text? "" }

def violation? (s : ExecutionSpec) : Finding :=
  Rule.required "spec.workflow_instance_id" s.workflowInstanceId

end ExecutionSpec

namespace ExecutionStatus

def toJson (s : ExecutionStatus) : Json :=
  .record [("phase", s.phase.toJson), ("message", .text s.message)]

def ofJson? (j : Json) : Option ExecutionStatus := do
  let fields ← j.fields? ["phase", "message"]
  return {
    phase := ← fields.get "phase" Phase.ofJson? .pending
    message := ← fields.get "message" Json.text? "" }

end ExecutionStatus

/-- An update changes the trigger message and leaves the workflow instance as it is. -/
instance : Managed ExecutionSpec ExecutionStatus where
  specForm := ⟨ExecutionSpec.toJson, ExecutionSpec.ofJson?, {}⟩
  statusForm := some ⟨ExecutionStatus.toJson, ExecutionStatus.ofJson?, {}⟩
  freshStatus := {}
  violation? := ExecutionSpec.violation?
  merge stored requested := { stored with triggerMessage := requested.triggerMessage }

abbrev WorkflowExecution := Resource ExecutionSpec ExecutionStatus

namespace WorkflowExecution

/-- An execution of a workflow instance that has only a name. -/
def named (name workflowInstanceId : String) : WorkflowExecution where
  metadata := { name := name }
  spec := { workflowInstanceId := workflowInstanceId }
  status := {}

/-- A change of status, addressed to the execution with a given id. -/
def statusUpdate (id : String) (phase : Phase) (message : String) : WorkflowExecution where
  metadata := { id := id }
  spec := {}
  status := { phase := phase, message := message }

end WorkflowExecution

end Steward
