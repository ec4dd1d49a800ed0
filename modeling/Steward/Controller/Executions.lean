import Steward.Controller.Basic
import Steward.Model.WorkflowExecution
import Steward.Queue

/-!
# The service of workflow executions

Every write ends with handing the execution to those who listen to it. The status of an execution
has a pipeline of its own. There is no applying, and no addressing by natural key.
-/

namespace Steward.Executions

def kind : Kind := .workflowExecution

def service : String := "agentic.workflowexecution.v1.WorkflowExecutionCommandController"

/-- An execution in a terminal phase stays in it. -/
def checkPhase (existing : WorkflowExecution) (wanted : Phase) : Except Failure Unit :=
  if existing.status.phase.isTerminal ∧ wanted ≠ existing.status.phase then
    .error (.invalidArgument
      s!"execution {existing.id} is already {existing.status.phase.text}")
  else .ok ()

/-- Puts the status of the input on the stored execution. -/
def mergeStatus {Item R : Type} : Step Item WorkflowExecution R where
  name := "MergeExecutionStatus"
  contract := { requires := [.existing], provides := [.newState] }
  run := do
    let wanted := (← Work.request).input.status
    let existing ← Work.existing
    Work.ofExcept (checkPhase existing wanted.phase)
    let moment ← Catalog.nextUpdate existing.metadata.updatedAt
    Work.setNewState { existing with
      metadata := { existing.metadata with updatedAt := some moment }
      status := wanted }

abbrev ExecutionOp := Op WorkflowExecution

def createPipeline : Pipeline WorkflowExecution WorkflowExecution WorkflowExecution where
  name := Standard.pipelineName kind "create"
  seeds := true
  steps := Standard.createSteps ++ [Catalog.publish]

def updatePipeline : Pipeline WorkflowExecution WorkflowExecution WorkflowExecution where
  name := Standard.pipelineName kind "update"
  seeds := true
  steps := Standard.updateSteps ++ [Catalog.publish]

def statusPipeline : Pipeline WorkflowExecution WorkflowExecution WorkflowExecution where
  name := Standard.pipelineName kind "update_status"
  seeds := false
  steps := [Catalog.loadExisting, mergeStatus, Catalog.persist, Catalog.publish]

def create (call : Call) (execution : WorkflowExecution) : ExecutionOp WorkflowExecution :=
  createPipeline.write call execution

def update (call : Call) (execution : WorkflowExecution) : ExecutionOp WorkflowExecution :=
  updatePipeline.write call execution

/-- Moves an execution to the status of the one given, which also says which execution it is. -/
def updateStatus (call : Call) (execution : WorkflowExecution) : ExecutionOp WorkflowExecution :=
  statusPipeline.write call execution

/-- Registers a new subscription to an id, if there can be a queue for it. -/
def register (id : String) : ExecutionOp Nat := do
  Op.ofOutcome (Queue.checkRoom (← get).broker.capacity)
  modifyGet fun w => ((w.broker.subscribe id).1, { w with broker := (w.broker.subscribe id).2 })

/-- Ends a subscription; the answer is whether there was one. -/
def unsubscribe (id : String) (number : Nat) : ExecutionOp Bool :=
  modifyGet fun w =>
    ((w.broker.unsubscribe id number).1, { w with broker := (w.broker.unsubscribe id number).2 })

def get (call : Call) (id : String) : ExecutionOp WorkflowExecution :=
  (Standard.get kind).query call id

def controller : Controller WorkflowExecution WorkflowExecution where
  create := create
  update := update
  delete := (Standard.delete kind).remove
  get := get

/-- Answers the execution as it is now, and a subscription to all later writes. The registration
comes first, so that no write after the answer is missed; if there is no answer, it is undone. -/
def subscribe (call : Call) (id : String) : ExecutionOp (WorkflowExecution × Nat) := do
  let number ← register id
  try
    let snapshot ← get call id
    return (snapshot, number)
  catch stop =>
    let _ ← unsubscribe id number
    throw stop

end Steward.Executions
