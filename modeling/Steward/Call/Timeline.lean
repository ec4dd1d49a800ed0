import Steward.Call.Basic

/-!
# The timeline

A clock that moves only while everybody waits or when it is put forward, the tokens handed out to
calls, those that have been cancelled, and the cancellations that others will make later on. Others
act when they are given a turn, and only then does the time of what they were asked for begin to
run.

Waiting is a race between a cancellation, the deadline and the end of what is waited for. The
deadline wins against an end at the same moment, and both win against a cancellation at the same
moment. Nobody sleeps longer than thirty years at a stretch, and no alarm is set for a moment after
the last one that alarms know: from then on they ring at once, while the clock goes on.

Moments and durations are whole milliseconds, and alarms ring at whole milliseconds only. A clock
that can be read more closely leaves room between two of them: a deadline in between is heard at the
next one, and what comes after the deadline but before that is still let through. Nothing of this is
seen where deadlines are whole milliseconds. Where it matters, in alarms and in the wait of one
call, the number of moments that make a millisecond is a parameter, `grain`, which is one everywhere
else.
-/

namespace Steward

structure Timeline where
  now : Nat := 0
  /-- How many tokens have been handed out. -/
  issued : Nat := 0
  cancelled : List Nat := []
  /-- Cancellations that others have been asked for since their last turn: the time until then, and
  the token. -/
  asked : List (Nat × Nat) := []
  /-- Moments at which others will cancel, with the tokens concerned. -/
  scheduled : List (Nat × Nat) := []
deriving DecidableEq

/-- How a wait ends: what was waited for is there, the call stopped the wait, or it never ends. -/
inductive Wait where
  | over
  | stopped (failure : Failure)
  | endless
deriving DecidableEq

namespace Timeline

/-! ## Deriving calls -/

/-- A call of its own, without deadline and kind. -/
def background (t : Timeline) : Call × Timeline :=
  ({ token := t.issued }, { t with issued := t.issued + 1 })

/-- A call made on behalf of another: it is cancelled along with it and keeps its deadline, but not
its kind. -/
def child (t : Timeline) (call : Call) : Call × Timeline :=
  ({ token := t.issued, ancestors := call.tokens, deadline := call.deadline },
    { t with issued := t.issued + 1 })

def withTimeout (t : Timeline) (call : Call) (timeout : Nat) : Call :=
  call.withDeadline (t.now + timeout)

/-! ## Alarms -/

/-- The longest that anybody sleeps at a stretch: thirty years of 365 days, in milliseconds. -/
def longestSleep : Nat := 946080000000

/-- The last millisecond that an alarm can be set for. -/
def lastAlarm : Nat := 18446744073709551613

/-- The moment at which the alarm rings that is set for a moment: with the millisecond in which it
is full. -/
def alarm (moment : Nat) (grain : Nat := 1) : Nat :=
  min ((moment + (grain - 1)) / grain) lastAlarm * grain

/-- The moment at which somebody wakes up who goes to sleep now. -/
def wake (t : Timeline) (duration : Nat) (grain : Nat := 1) : Nat :=
  alarm (t.now + min duration (longestSleep * grain)) grain

/-! ## Cancelling -/

def isCancelled (t : Timeline) (call : Call) : Bool :=
  call.tokens.any fun token => t.cancelled.contains token

def cancelToken (t : Timeline) (token : Nat) : Timeline :=
  { t with cancelled := token :: t.cancelled }

/-- Cancels a call and all calls derived from it. -/
def cancel (t : Timeline) (call : Call) : Timeline :=
  t.cancelToken call.token

/-- Asks somebody else to cancel a call after some time. -/
def cancelAfter (t : Timeline) (call : Call) (delay : Nat) : Timeline :=
  { t with asked := t.asked ++ [(delay, call.token)] }

/-- The time of all cancellations that have been asked for begins to run. -/
def schedule (t : Timeline) (grain : Nat := 1) : Timeline where
  now := t.now
  issued := t.issued
  cancelled := t.cancelled
  scheduled := t.scheduled ++ t.asked.map fun a => (t.wake a.1 grain, a.2)

/-- Makes the scheduled cancellations that are due. -/
def fire (t : Timeline) (isDue : Nat → Bool) : Timeline where
  now := t.now
  issued := t.issued
  cancelled := ((t.scheduled.filter fun s => isDue s.1).map (·.2)) ++ t.cancelled
  asked := t.asked
  scheduled := t.scheduled.filter fun s => !isDue s.1

/-- Gives others their turn without letting time pass. -/
def giveWay (t : Timeline) : Timeline :=
  t.schedule.fire (· ≤ t.now)

/-! ## Waiting -/

/-- Waits for a moment. Others come first, except at the very moment of arrival. -/
def advanceTo (t : Timeline) (moment : Nat) : Timeline :=
  if moment ≤ t.now then t else { t.schedule.fire (· < moment) with now := moment }

/-- Puts the clock forward at a stroke. Others have their turn, with the clock at its new moment;
what has come due on the way waits for the turn after that. -/
def jump (t : Timeline) (duration : Nat) : Timeline :=
  if duration = 0 then t.giveWay
  else { t.fire (· ≤ t.now) with now := t.now + duration }.schedule

/-- Fails if the call is cancelled or its deadline has come. -/
def check (t : Timeline) (call : Call) : Except Failure Unit :=
  if t.isCancelled call then .error .cancelled
  else match call.deadline with
    | some deadline => if deadline ≤ t.now then .error .deadlineExceeded else .ok ()
    | none => .ok ()

/-- The earlier of two moments, either of which may never come. -/
def earlier : Option Nat → Option Nat → Option Nat
  | some a, some b => some (min a b)
  | some a, none => some a
  | none, b => b

/-- The first moment before `limit` at which the call will be cancelled. -/
def firstCancellation (t : Timeline) (call : Call) (limit : Option Nat) : Option Nat :=
  (t.scheduled.filterMap fun s =>
    if call.tokens.contains s.2 && (match limit with
      | some limit => decide (s.1 < limit)
      | none => true)
    then some s.1 else none).min?

/-- Waits for something that is there at the moment `ready`, as long as the call lets it. What rings
at the deadline is an alarm, so the last alarm stops the wait even of a call that has time left. -/
def await (t : Timeline) (call : Call) (ready : Option Nat) (grain : Nat := 1) :
    Wait × Timeline :=
  match t.check call with
  | .error failure => (.stopped failure, t)
  | .ok () =>
    let deadline := call.deadline.map (alarm · grain)
    if deadline.any (· ≤ t.now) then (.stopped .deadlineExceeded, t)
    else if ready.any (· ≤ t.now) then (.over, t)
    else
      let t := t.schedule grain
      let limit := earlier deadline ready
      match t.firstCancellation call limit with
      | some moment =>
        let moment := max t.now moment
        (.stopped .cancelled, { t.fire (· ≤ moment) with now := moment })
      | none =>
        match limit with
        | none => (.endless, t)
        | some limit =>
          if deadline.any (· ≤ limit) then (.stopped .deadlineExceeded, t.advanceTo limit)
          else (.over, t.advanceTo limit)

end Timeline

end Steward
