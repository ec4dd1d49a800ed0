import Steward.Controller.AgentInstances
import Steward.Model.Agent

/-!
# The service of agents

Creating an agent reaches into another service: once the agent is stored, its default instance is
created there, and the instance's id is recorded in the agent's status. Nothing is undone when a
later step fails.
-/

namespace Steward.Agents

variable {Item : Type}

def kind : Kind := .agent

def service : String := "agentic.agent.v1.AgentCommandController"

/-- The note that holds the id of the default instance. -/
def defaultInstanceNote : String := "default_instance_id"

def defaultInstance (agent : Agent) : AgentInstance where
  metadata := { name := s!"{agent.metadata.slug}-default", scope := agent.metadata.scope }
  spec := {
    agentId := agent.id
    description := s!"Default instance of {agent.metadata.name}" }
  status := ()

/-- Creates the default instance of the agent in the new state. -/
def createDefaultInstance (instances : InstanceClient Item) : Step Item Agent Agent where
  name := "CreateDefaultInstance"
  contract := { requires := [.newState] }
  run := do
    let agent ← Work.newState
    if agent.id = "" then Work.fail (.internal "agent has no id; persist it first")
    let call := (← Work.request).call
    let created ← Work.perform (instances.createAsSystem call (defaultInstance agent))
    Work.leave defaultInstanceNote (.text created.id)

/-- Records the default instance in the agent's status and stores the agent again. -/
def recordDefaultInstance : Step Item Agent Agent where
  name := "UpdateAgentStatusWithDefaultInstance"
  contract := { requires := [.newState] }
  run := do
    match (← Work.request).find? defaultInstanceNote Note.text? with
    | none => Work.fail (.stateNotSet defaultInstanceNote)
    | some id =>
      let agent ← Work.newState
      Work.setNewState { agent with status := { agent.status with defaultInstanceId := id } }
      Catalog.persistNewState

/-- Creates an agent along with its default instance. -/
def createPipeline (instances : InstanceClient Item) : Pipeline Item Agent Agent where
  name := Standard.pipelineName kind "create"
  seeds := true
  steps := Standard.createSteps ++ [createDefaultInstance instances, recordDefaultInstance]

def create (instances : InstanceClient Item) (call : Call) (agent : Agent) : Op Item Agent :=
  (createPipeline instances).write call agent

def update (call : Call) (agent : Agent) : Op Item Agent :=
  (Standard.update kind).write call agent

def controller (instances : InstanceClient Item) : Controller Item Agent where
  create := create instances
  update := update
  apply := Standard.apply kind (create instances) update
  delete := (Standard.delete kind).remove
  get := (Standard.get kind).query
  getByReference := (Standard.getByReference kind).query

end Steward.Agents
