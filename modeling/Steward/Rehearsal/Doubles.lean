import Steward.Controller.AgentInstances
import Steward.Pipeline.Basic

/-!
# Stand-ins

Steps and a client for rehearsing pipelines: steps that count their runs, cancel the call or take
their time, and a client that follows a script.
-/

namespace Steward.Rehearsal

variable {Item Input R : Type}

/-- A step that counts its runs under a number, and fails if it is told to. -/
def recorder (index : Nat) (name : String) (failure : Option Failure) (contract : Contract) :
    Step Item Input R where
  name := name
  contract := contract
  run := do
    Work.perform (Op.modifyScript (·.visit index))
    match failure with
    | some failure => Work.fail failure
    | none => pure ()

/-- A step that cancels the call. -/
def canceller : Step Item Input R where
  name := "Cancel"
  run := do
    let call := (← Work.request).call
    Work.perform (Op.onTimeline fun t => ((), t.cancel call))

/-- A step that takes some time. -/
def sleeper (duration : Nat) : Step Item Input R where
  name := "Sleep"
  run := Work.perform (Op.sleep duration)

/-- Answers a call as the script says. -/
def recite (call : Call) (made : ExpectedCall) (given : List AgentInstance) :
    Op Item AgentInstance := do
  let t := (← get).timeline
  Op.modifyScript fun s => given.foldl Script.keep (s.hear t call made.operation)
  let answer ← modifyGet fun w =>
    ((w.script.answer made).1, { w with script := (w.script.answer made).2 })
  Op.ofOutcome answer

/-- A client that follows the script. -/
def client : InstanceClient Item where
  create call resource := recite call .create [resource]
  update call resource := recite call .update [resource]
  get call id := recite call (.get id) []

end Steward.Rehearsal
