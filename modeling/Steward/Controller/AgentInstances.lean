import Steward.Controller.Basic
import Steward.Model.AgentInstance

/-!
# The service of agent instances

The standard pipelines, and the client through which the daemon itself uses the service.
-/

namespace Steward

namespace AgentInstances

def kind : Kind := .agentInstance

def service : String := "agentic.agentinstance.v1.AgentInstanceCommandController"

def create {Item : Type} (call : Call) (resource : AgentInstance) : Op Item AgentInstance :=
  (Standard.create kind).write call resource

def update {Item : Type} (call : Call) (resource : AgentInstance) : Op Item AgentInstance :=
  (Standard.update kind).write call resource

def controller {Item : Type} : Controller Item AgentInstance where
  create := create
  update := update
  apply := Standard.apply kind create update
  delete := (Standard.delete kind).remove
  get := (Standard.get kind).query
  getByReference := (Standard.getByReference kind).query

end AgentInstances

/-- A way to the service of agent instances. -/
structure InstanceClient (Item : Type) where
  create : Call → AgentInstance → Op Item AgentInstance
  update : Call → AgentInstance → Op Item AgentInstance
  get : Call → String → Op Item AgentInstance

namespace InstanceClient

variable {Item : Type}

/-- The label on resources that the daemon created on its own behalf. -/
def createdByLabel : String := "agentic.local/created-by"

def systemActor : String := "system"

/-- Creates an instance as the daemon itself, in a call of its own. -/
def createAsSystem (client : InstanceClient Item) (call : Call) (resource : AgentInstance) :
    Op Item AgentInstance := do
  let labelled := resource.withMetadata fun m =>
    { m with labels := m.labels.insert createdByLabel systemActor }
  client.create (← Op.child call) labelled

/-- Updates an instance in a call of its own. -/
def updateWithin (client : InstanceClient Item) (call : Call) (resource : AgentInstance) :
    Op Item AgentInstance := do
  client.update (← Op.child call) resource

/-- Fetches an instance in a call of its own. -/
def getWithin (client : InstanceClient Item) (call : Call) (id : String) :
    Op Item AgentInstance := do
  client.get (← Op.child call) id

end InstanceClient

end Steward
