import Steward.Transport.Endpoint

/-!
# Exchanges in time

A run of an exchange in which the work on requests takes time. Several requests may be on their way
together. Time moves to the next moment at which something happens: first the callers whose
deadline has come give up, then cancellations and the ends of work take effect, and then the other
callers look for their answers. A caller that once had to wait for room in the channel notices its
deadline only after the cancellations.
-/

namespace Steward

/-- The work on a request: how long it takes, what it leaves in the record when it ends, and what
it ends with. -/
structure Job (R : Type) where
  duration : Nat
  entry : Option String
  reply : Timeline → Reply R

/-- Work that has begun, with the moment of its end. -/
structure RunningJob (R : Type) where
  finish : Nat
  caller : Nat
  job : Job R

structure TimedExchange (R : Type) where
  exchange : Exchange R
  timeline : Timeline := {}
  /-- The timeout of the clients. -/
  timeout : Option Nat := none
  work : Call → Message R → Job R
  /-- The calls of all callers, by number. -/
  calls : List Call := []
  /-- Callers that have had to wait for room in the channel. -/
  late : List Nat := []
  /-- Work that has not ended, in the order in which it began. -/
  running : List (RunningJob R) := []
  /-- What ended work has left behind, in order. -/
  entries : List String := []

namespace TimedExchange

variable {R : Type}

def happen (b : TimedExchange R) (event : ExchangeEvent R) : TimedExchange R :=
  match b.exchange.step? event with
  | some exchange => { b with exchange := exchange }
  | none => b

def onTimeline (b : TimedExchange R) (f : Timeline → Timeline) : TimedExchange R :=
  { b with timeline := f b.timeline }

/-- Callers that have no answer yet, with their calls. -/
def pending (b : TimedExchange R) : List (Nat × Call) :=
  b.calls.zipIdx.filterMap fun (call, caller) =>
    if (b.exchange.answer? caller).isNone then some (caller, call) else none

/-- Callers that have not found room in the channel yet. -/
def sending (b : TimedExchange R) : List Nat :=
  b.exchange.callers.zipIdx.filterMap fun (state, caller) =>
    if Exchange.isSending state then some caller else none

/-! ## Work -/

def finish (b : TimedExchange R) (running : RunningJob R) : TimedExchange R :=
  let b := b.happen (.finish running.caller (running.job.reply b.timeline))
  { b with
    running := b.running.filter (·.caller != running.caller)
    entries := b.entries ++ running.job.entry.toList }

/-- Work that ends first; of several the one that began first. -/
def earliest : List (RunningJob R) → Option (RunningJob R)
  | [] => none
  | first :: rest =>
    match earliest rest with
    | some other => if other.finish < first.finish then some other else some first
    | none => some first

/-- Ends all work that is due by a moment, in order of time. -/
def finishBy (b : TimedExchange R) (moment : Nat) : TimedExchange R :=
  go b.running.length b
where
  /-- Ends at most so many. -/
  go : Nat → TimedExchange R → TimedExchange R
    | 0, b => b
    | n + 1, b =>
      match earliest b.running with
      | some running => if running.finish ≤ moment then go n (b.finish running) else b
      | none => b

/-- Takes the next request out of the channel and begins to work on it. -/
def serve (b : TimedExchange R) : TimedExchange R :=
  let b := b.happen .dispatch
  match b.exchange.tasks.getLast? with
  | none => b
  | some task =>
    let job := b.work task.call task.message
    { b with running := b.running ++ [⟨b.timeline.wake job.duration, task.caller, job⟩] }

/-- Takes all requests out of the channel and begins to work on them. -/
def serveAll (b : TimedExchange R) : TimedExchange R :=
  go b.exchange.queue.length b
where
  /-- Takes so many requests. -/
  go : Nat → TimedExchange R → TimedExchange R
    | 0, b => b
    | n + 1, b => go n b.serve

/-! ## Callers -/

/-- A caller begins with a request, unless its call is over already. -/
def begin (b : TimedExchange R) (request : Call × Message R) : TimedExchange R :=
  let call := b.timeline.outbound b.timeout request.1
  let caller := b.calls.length
  let b := { b with calls := b.calls ++ [call] }.happen (.issue call request.2)
  match b.timeline.check call with
  | .ok () => b
  | .error failure => b.happen (.giveUp caller failure)

/-- A caller gives up if its call is over. -/
def leaveIfOver (b : TimedExchange R) (caller : Nat × Call) : TimedExchange R :=
  match b.timeline.check caller.2 with
  | .ok () => b
  | .error failure => b.happen (.giveUp caller.1 failure)

def leaveAll (b : TimedExchange R) : TimedExchange R :=
  b.pending.foldl leaveIfOver b

/-- All callers whose calls are over give up, but for those that had to wait for room. -/
def leaveInTime (b : TimedExchange R) : TimedExchange R :=
  (b.pending.filter fun caller => !b.late.contains caller.1).foldl leaveIfOver b

/-- All callers whose calls are over give up, and the others take their answers. -/
def collectAll (b : TimedExchange R) : TimedExchange R :=
  let b := b.leaveAll
  b.pending.foldl (fun b caller => b.happen (.collect caller.1)) b

/-- As many requests go into the channel as it has room for. -/
def acceptAll (b : TimedExchange R) : TimedExchange R :=
  b.sending.foldl (fun b caller => b.happen (.accept caller)) b

/-- Requests go into the channel and out of it, as far as this takes no time. -/
def pump (b : TimedExchange R) : TimedExchange R :=
  let b := b.acceptAll
  go (b.sending.length + 1) { b with late := b.late ++ b.sending }
where
  /-- Empties and fills the channel at most so often. -/
  go : Nat → TimedExchange R → TimedExchange R
    | 0, b => b
    | n + 1, b =>
      let b := (b.onTimeline Timeline.giveWay).finishBy b.timeline.now
      let b := b.serveAll.finishBy b.timeline.now
      go n b.leaveAll.acceptAll

/-! ## Time -/

/-- The moments at which something will happen. -/
def moments (b : TimedExchange R) : List Nat :=
  b.pending.filterMap (·.2.deadline) ++ b.timeline.scheduled.map (·.1) ++
    b.running.map (·.finish)

def advance (b : TimedExchange R) (moment : Nat) : TimedExchange R :=
  let b := (b.onTimeline fun t => { t with now := max t.now moment }).leaveInTime
  if b.pending.isEmpty then b
  else ((b.onTimeline Timeline.giveWay).finishBy b.timeline.now).collectAll

/-- Lets time pass until all callers have their answers. -/
def awaitAll (b : TimedExchange R) : TimedExchange R :=
  go (b.moments.length + 1) b.collectAll
where
  /-- Moves on at most so often. -/
  go : Nat → TimedExchange R → TimedExchange R
    | 0, b => b
    | n + 1, b =>
      if b.pending.isEmpty then b
      else match b.moments.min? with
        | some moment => go n (b.advance moment)
        | none => b

/-- Sends requests at the same time and waits for all answers. -/
def send (b : TimedExchange R) (requests : List (Call × Message R)) :
    List (Except Failure R) × TimedExchange R :=
  let first := b.calls.length
  let b := (requests.foldl begin b).pump.awaitAll
  (((List.range requests.length).filterMap fun i => b.exchange.answer? (first + i)), b)

/-- The client goes away, and the service ends once all work is done. -/
def shutDown (b : TimedExchange R) : TimedExchange R :=
  let last := (b.running.map (·.finish)).foldl max b.timeline.now
  (((b.happen .dropClient).onTimeline fun t => { t with now := last }).finishBy last).happen .close

end TimedExchange

end Steward
