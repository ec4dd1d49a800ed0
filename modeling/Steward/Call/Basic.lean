import Steward.Failure
import Steward.Kind

/-!
# Calls

A call can be cancelled and can have a deadline, and it carries the kind of resource it is about.
Calls derived from one another share or inherit their cancellation: every call holds the line of
tokens from its own up to that of the first call it descends from, and it is cancelled when one of
these tokens is. Times are milliseconds.
-/

namespace Steward

/-- A call in progress. -/
structure Call where
  /-- The token that is cancelled along with the call. -/
  token : Nat
  /-- The tokens of the calls it was derived from, the nearest first. -/
  ancestors : List Nat := []
  deadline : Option Nat := none
  kind : Option Kind := none
deriving DecidableEq

namespace Call

def tokens (call : Call) : List Nat :=
  call.token :: call.ancestors

/-- The call with a deadline, unless it already has an earlier one. -/
def withDeadline (call : Call) (deadline : Nat) : Call :=
  { call with deadline := some (match call.deadline with
      | some earlier => min earlier deadline
      | none => deadline) }

def withKind (call : Call) (kind : Kind) : Call :=
  { call with kind := some kind }

/-- The name of the call's kind, empty if it has none. -/
def kindName (call : Call) : String :=
  match call.kind with
  | some kind => kind.name
  | none => ""

/-- The call's kind, which the transport has to have set. -/
def requireKind (call : Call) : Except Failure Kind :=
  match call.kind with
  | some kind => .ok kind
  | none => .error (.internal
      "resource kind missing from call context; is the kind interceptor installed?")

end Call

end Steward
