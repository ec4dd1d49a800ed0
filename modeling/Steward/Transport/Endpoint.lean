import Steward.Controller.AgentInstances
import Steward.Transport.Exchange

/-!
# Endpoints

The client of a service in the same process. A request has its caller's deadline, or the client's
timeout if that ends sooner. When the work on it takes no time of its own, a request and its answer
are one step of the caller.
-/

namespace Steward

structure Endpoint (Item R : Type) where
  service : String
  timeout : Option Nat := none
  controller : Controller Item R

/-- The call as it leaves a client with a timeout. -/
def Timeline.outbound (t : Timeline) (timeout : Option Nat) (call : Call) : Call :=
  match timeout with
  | some timeout => t.withTimeout call timeout
  | none => call

namespace Op

variable {Item α : Type}

/-- The outcome of an operation, stops included. -/
def attempt (op : Op Item α) : Op Item (Except Stop α) := fun w =>
  match op.run w with
  | .ok a w => .ok (.ok a) w
  | .error stop w => .ok (.error stop) w

end Op

namespace Endpoint

variable {Item R : Type}

/-- What a caller makes of the outcome of the work on its request. -/
def answer (e : Endpoint Item R) : Except Stop R → Op Item R
  | .ok resource => pure resource
  | .error (.failed failure) => Op.fail failure
  | .error (.broken _) => Op.fail (.unavailable s!"{e.service} dropped the response")

def send (e : Endpoint Item R) (call : Call) (message : Message R) : Op Item R := do
  let call := (← get).timeline.outbound e.timeout call
  Op.check call
  Op.giveWay
  let served ← Op.intercept (Exchange.methodOf e.service message) call
  let outcome ← Op.attempt (e.controller.handle served message)
  Op.check call
  e.answer outcome

end Endpoint

/-- The service of agent instances as seen through its client. -/
def InstanceClient.ofEndpoint {Item : Type} (e : Endpoint Item AgentInstance) :
    InstanceClient Item where
  create call resource := e.send call (.create resource)
  update call resource := e.send call (.update resource)
  get call id := e.send call (.get id)

end Steward
