import Steward.Daemon.Basic

/-!
# A tour of the daemon

The life of one agent and of one execution: the agent is created along with its default instance,
changed, and deleted in the end; in between an execution runs to its end while somebody listens.
-/

namespace Steward.Daemon

def tourAgent : Agent :=
  { Agent.named "Code Reviewer" with
    spec := { model := "local-llm", instructions := "Review the diff." } }

def tourEdit (agent : Agent) : Agent :=
  { agent with spec := { agent.spec with description := "Reviews pull requests" } }

/-- Creates and changes the agent. -/
def agentTour (config : Config) (call : Call) : Op WorkflowExecution Agent := do
  let agent ← (agents config).send call (.create tourAgent)
  (agents config).send call (.update (tourEdit agent))

/-- Follows an execution to its end. -/
def executionTour (config : Config) (call : Call) : Op WorkflowExecution Unit := do
  let execution ← (executions config).send call
    (.create (WorkflowExecution.named "nightly review" "wfi-nightly"))
  let listening ← inbound config s!"/{Executions.service}/subscribe"
  let (_, number) ← subscribe listening execution.id
  let _ ← updateStatus listening (.statusUpdate execution.id .inProgress "reviewing")
  let _ ← updateStatus listening (.statusUpdate execution.id .completed "done")
  let _ ← Executions.unsubscribe execution.id number

/-- The whole tour. A failure of the execution's part does not end it. -/
def tour (config : Config) : Op WorkflowExecution Unit := do
  let call ← Op.onTimeline Timeline.background
  let agent ← agentTour config call
  match ← Op.attempt (executionTour config call) with
  | .error (.broken text) => throw (.broken text)
  | _ =>
    let _ ← (agents config).send call (.delete agent.id)

/-- Why the program ends without having done its work. -/
inductive TourFailure where
  | config (failure : ConfigFailure)
  | store (failure : Store.Failure)
  | stop (stop : Stop)
deriving DecidableEq

def TourFailure.ofStart : StartFailure → TourFailure
  | .config failure => config failure
  | .store failure => store failure
  | .stop cause => stop cause

def TourFailure.message : TourFailure → String
  | config failure => failure.message
  | store failure => s!"storage unavailable: {failure.message}"
  | stop (.failed failure) => failure.message
  | stop (.broken text) => text

/-- The code that the program exits with: one of its own if it broke off. -/
def TourFailure.exitCode : TourFailure → UInt8
  | stop (.broken _) => 101
  | _ => 1

/-- The program: from the environment and the disk to its outcome and the disk afterwards. -/
def runTour (readFile lookup : String → Option String) (disk : Store.Disk)
    (clock : Supply Timestamp) (ids : Supply String) : Except TourFailure Unit × Store.Disk :=
  match Config.ofEnvironment readFile lookup with
  | .error failure => (.error (.config failure), disk)
  | .ok config =>
    match start config disk {} clock ids with
    | (.error failure, disk) => (.error (.ofStart failure), disk)
    | (.ok world, disk) =>
      match (tour config).outcome world with
      | (.ok (), after) => (.ok (), diskOf after disk)
      | (.error stop, after) => (.error (.stop stop), diskOf after disk)

end Steward.Daemon
