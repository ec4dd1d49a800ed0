import Steward.Controller.Basic

/-!
# The exchange between callers and a service

Callers put requests into a channel with room for a fixed number of them. The service takes them
out one by one, gives each the kind it serves, and works on all of them at the same time. Each
answer goes to the caller of its own request, unless that caller has given up. The service ends
when nobody is left to send and all work is done.

The exchange is described by the events that can happen; any order in which they are possible is a
run of it.
-/

namespace Steward

/-- A request on its way, with the number of its caller. -/
structure Envelope (R : Type) where
  caller : Nat
  call : Call
  message : Message R

/-- How far a caller has come. -/
inductive Caller (R : Type) where
  /-- The request has not found room in the channel yet. -/
  | sending (call : Call) (message : Message R)
  | waiting
  | settled (answer : Except Failure R)

/-- What the work on a request ended with; nothing if it broke off. -/
abbrev Reply (R : Type) := Option (Except Failure R)

structure Exchange (R : Type) where
  service : String
  capacity : Nat
  interceptor : Interceptor := {}
  /-- The number of clients that requests can be sent through. -/
  clients : Nat := 1
  /-- There is a service that takes requests. -/
  serving : Bool := true
  /-- All callers so far, by number. -/
  callers : List (Caller R) := []
  /-- Requests in the channel. -/
  queue : List (Envelope R) := []
  /-- Requests that are worked on. -/
  tasks : List (Envelope R) := []
  /-- Answers that nobody has collected yet. -/
  replies : List (Nat × Reply R) := []
  /-- The service has ended in good order. -/
  ended : Bool := false

/-- What can happen in an exchange. -/
inductive ExchangeEvent (R : Type) where
  /-- A caller begins. -/
  | issue (call : Call) (message : Message R)
  /-- A request goes into the channel, or meets the end of it. -/
  | accept (caller : Nat)
  /-- The service takes a request out of the channel. -/
  | dispatch
  /-- The work on a caller's request ends. -/
  | finish (caller : Nat) (reply : Reply R)
  /-- A caller takes its answer. -/
  | collect (caller : Nat)
  /-- A caller stops waiting. -/
  | giveUp (caller : Nat) (failure : Failure)
  | copyClient
  | dropClient
  /-- The service ends. -/
  | close

namespace Exchange

variable {R : Type}

def closedFailure (x : Exchange R) : Failure :=
  .unavailable s!"{x.service} is closed"

/-- The failure of a caller whose request was worked on without an answer. -/
def droppedFailure (x : Exchange R) : Failure :=
  .unavailable s!"{x.service} dropped the response"

/-- The method by which the kind of a request is found. -/
def methodOf (service : String) (message : Message R) : String :=
  s!"/{service}/{message.method}"

/-- A caller is settled. -/
def settle (x : Exchange R) (caller : Nat) (answer : Except Failure R) : Exchange R :=
  { x with callers := x.callers.set caller (.settled answer) }

def isSending : Caller R → Bool
  | .sending .. => true
  | _ => false

/-- A request goes into the channel if there is room. -/
def accept? (x : Exchange R) (caller : Nat) : Option (Exchange R) :=
  match x.callers[caller]? with
  | some (.sending call message) =>
    if !x.serving then some (x.settle caller (.error x.closedFailure))
    else if x.queue.length < x.capacity then
      some { x with
        callers := x.callers.set caller .waiting
        queue := x.queue ++ [⟨caller, call, message⟩] }
    else none
  | _ => none

/-- The service takes the first request and gives its call the kind it serves. -/
def dispatch? (x : Exchange R) : Option (Exchange R) :=
  match x.queue with
  | [] => none
  | envelope :: rest =>
    let (call, interceptor) :=
      x.interceptor.intercept (methodOf x.service envelope.message) envelope.call
    some { x with
      queue := rest
      interceptor := interceptor
      tasks := x.tasks ++ [{ envelope with call := call }] }

def finish? (x : Exchange R) (caller : Nat) (reply : Reply R) : Option (Exchange R) :=
  if x.tasks.any (·.caller == caller) then
    some { x with
      tasks := x.tasks.filter (·.caller != caller)
      replies := x.replies ++ [(caller, reply)] }
  else none

def collect? (x : Exchange R) (caller : Nat) : Option (Exchange R) :=
  match x.callers[caller]?, x.replies.lookup caller with
  | some .waiting, some reply =>
    some ({ x with replies := x.replies.filter (·.1 != caller) }.settle caller
      (reply.getD (.error x.droppedFailure)))
  | _, _ => none

/-- A caller that is not settled yet stops waiting. -/
def giveUp? (x : Exchange R) (caller : Nat) (failure : Failure) : Option (Exchange R) :=
  match x.callers[caller]? with
  | some (.sending ..) => some (x.settle caller (.error failure))
  | some .waiting => some (x.settle caller (.error failure))
  | _ => none

/-- Nobody can send any more, and all work is done. -/
def isDone (x : Exchange R) : Bool :=
  x.clients == 0 && !x.callers.any isSending && x.queue.isEmpty && x.tasks.isEmpty

/-- What an event makes of an exchange; nothing if it cannot happen. -/
def step? (x : Exchange R) : ExchangeEvent R → Option (Exchange R)
  | .issue call message =>
    if x.clients = 0 then none else some { x with callers := x.callers ++ [.sending call message] }
  | .accept caller => x.accept? caller
  | .dispatch => x.dispatch?
  | .finish caller reply => x.finish? caller reply
  | .collect caller => x.collect? caller
  | .giveUp caller failure => x.giveUp? caller failure
  | .copyClient => if x.clients = 0 then none else some { x with clients := x.clients + 1 }
  | .dropClient => if x.clients = 0 then none else some { x with clients := x.clients - 1 }
  | .close => if x.serving && !x.ended && x.isDone then some { x with ended := true } else none

/-- The answer to a caller, once there is one. -/
def answer? (x : Exchange R) (caller : Nat) : Option (Except Failure R) :=
  match x.callers[caller]? with
  | some (.settled answer) => some answer
  | _ => none

end Exchange

end Steward
