import Steward.Controller.Agents
import Steward.Controller.Executions
import Steward.Daemon.Config
import Steward.Transport.Endpoint

/-!
# The daemon

The services of agents, agent instances and workflow executions over one store, as a configuration
puts them together. The service of agents uses that of agent instances through its client.
-/

namespace Steward

/-- The world that the daemon's operations work on: its broker hands out executions. -/
abbrev DaemonWorld := World WorkflowExecution

namespace Daemon

inductive StartFailure where
  | config (failure : ConfigFailure)
  | store (failure : Store.Failure)
  | stop (stop : Stop)
deriving DecidableEq

/-! ## Starting and stopping -/

def declareKinds (i : Interceptor) : Interceptor :=
  ((i.declare Agents.service Agents.kind.tag).declare
    AgentInstances.service AgentInstances.kind.tag).declare
    Executions.service Executions.kind.tag

/-- A path as the names along it, the empty ones among them. -/
def pathOf (directory : String) : Store.Path :=
  directory.splitOn "/"

def textOf? (disk : Store.Disk) (path : String) : Option String :=
  match disk.read (pathOf path) with
  | .ok content => String.fromUTF8? content
  | .error _ => none

/-- Where the configuration has values stored, and the disk afterwards. -/
def openBacking (config : Config) (disk : Store.Disk) :
    Except Store.Failure Store.Backing × Store.Disk :=
  match config.dataDir with
  | none => (.ok (.memory .empty), disk)
  | some directory =>
    ((Store.Directory.open disk (pathOf directory)).1.map .files,
      (Store.Directory.open disk (pathOf directory)).2)

/-- The daemon's world at the start over a store. -/
def world (config : Config) (backing : Store.Backing) (timeline : Timeline)
    (clock : Supply Timestamp) (ids : Supply String) : DaemonWorld where
  timeline := timeline
  store := { backing := backing }
  clock := clock
  ids := ids
  broker := .ofCapacity config.streamCapacity
  interceptor := declareKinds {}

/-- Starts the daemon; the answer is its world and the disk afterwards. The store is opened before
the channels of the services are. -/
def start (config : Config) (disk : Store.Disk) (timeline : Timeline)
    (clock : Supply Timestamp) (ids : Supply String) :
    Except StartFailure DaemonWorld × Store.Disk :=
  match config.validate with
  | .error failure => (.error (.config failure), disk)
  | .ok () =>
    match openBacking config disk with
    | (.error failure, disk) => (.error (.store failure), disk)
    | (.ok backing, disk) =>
      match Queue.checkRoom config.requestBuffer with
      | .error stop => (.error (.stop stop), disk)
      | .ok () => (.ok (world config backing timeline clock ids), disk)

/-- What a stopped daemon leaves on the disk. -/
def diskOf (w : DaemonWorld) (before : Store.Disk) : Store.Disk :=
  match w.store.backing with
  | .memory _ => before
  | .files directory => directory.disk

/-! ## Services -/

def instances (config : Config) : Endpoint WorkflowExecution AgentInstance where
  service := AgentInstances.service
  timeout := config.requestTimeout
  controller := AgentInstances.controller

def agents (config : Config) : Endpoint WorkflowExecution Agent where
  service := Agents.service
  timeout := config.requestTimeout
  controller := Agents.controller (.ofEndpoint (instances config))

def executions (config : Config) : Endpoint WorkflowExecution WorkflowExecution where
  service := Executions.service
  timeout := config.requestTimeout
  controller := Executions.controller

/-! ## Entry points besides the services -/

/-- A call as the transport would make it for a method: with the configured deadline, and with the
kind that the method is about. -/
def inbound (config : Config) (method : String) : Op WorkflowExecution Call := do
  let call ← Op.onTimeline fun t =>
    ((t.outbound config.requestTimeout t.background.1), t.background.2)
  Op.intercept method call

def updateStatus (call : Call) (execution : WorkflowExecution) :
    Op WorkflowExecution WorkflowExecution :=
  Executions.updateStatus call execution

/-- Answers an execution and subscribes to its later writes. -/
def subscribe (call : Call) (id : String) :
    Op WorkflowExecution (WorkflowExecution × Nat) :=
  Executions.subscribe call id

end Daemon

end Steward
