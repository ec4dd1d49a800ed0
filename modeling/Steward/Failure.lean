/-!
# Failures

Why an operation on a resource failed, the text that says so, and the status code it is reported
under.
-/

namespace Steward

/-- The status a failure is reported under. -/
inductive Code where
  | notFound
  | alreadyExists
  | invalidArgument
  | internal
  | cancelled
  | deadlineExceeded
  | unimplemented
  | unavailable
deriving DecidableEq

def Code.text : Code → String
  | notFound => "not_found"
  | alreadyExists => "already_exists"
  | invalidArgument => "invalid_argument"
  | internal => "internal"
  | cancelled => "cancelled"
  | deadlineExceeded => "deadline_exceeded"
  | unimplemented => "unimplemented"
  | unavailable => "unavailable"

/-- Why an operation failed. -/
inductive Failure where
  | notFound (kind id : String)
  | alreadyExists (kind slug id : String)
  | invalidArgument (detail : String)
  | internal (detail : String)
  /-- A step read a slot that no earlier step filled. -/
  | stateNotSet (slot : String)
  /-- A step asks for a slot that nothing before it fills. -/
  | misconfigured (pipeline step requirement : String)
  | cancelled
  | deadlineExceeded
  | unimplemented (operation : String)
  | unavailable (detail : String)
deriving DecidableEq

namespace Failure

def name : Failure → String
  | notFound .. => "NotFound"
  | alreadyExists .. => "AlreadyExists"
  | invalidArgument _ => "InvalidArgument"
  | internal _ => "Internal"
  | stateNotSet _ => "StateNotSet"
  | misconfigured .. => "Misconfigured"
  | cancelled => "Cancelled"
  | deadlineExceeded => "DeadlineExceeded"
  | unimplemented _ => "Unimplemented"
  | unavailable _ => "Unavailable"

def message : Failure → String
  | notFound kind id => s!"{kind} not found: {id}"
  | alreadyExists kind slug id => s!"{kind} with slug '{slug}' already exists: {id}"
  | invalidArgument detail => s!"invalid argument: {detail}"
  | internal detail => s!"internal error: {detail}"
  | stateNotSet slot => s!"{slot} is not set on the request context"
  | misconfigured pipeline step requirement =>
    s!"pipeline '{pipeline}' is misconfigured: step '{step}' requires {requirement}"
  | cancelled => "request cancelled"
  | deadlineExceeded => "deadline exceeded"
  | unimplemented operation => s!"operation not implemented: {operation}"
  | unavailable detail => s!"service unavailable: {detail}"

/-- The status of a failure. A pipeline put together wrongly is an internal matter. -/
def code : Failure → Code
  | notFound .. => .notFound
  | alreadyExists .. => .alreadyExists
  | invalidArgument _ => .invalidArgument
  | internal _ => .internal
  | stateNotSet _ => .internal
  | misconfigured .. => .internal
  | cancelled => .cancelled
  | deadlineExceeded => .deadlineExceeded
  | unimplemented _ => .unimplemented
  | unavailable _ => .unavailable

end Failure

/-- Why an operation did not come to a result: it failed, or it broke off with a message because a
promise the program relies on was not kept. -/
inductive Stop where
  | failed (failure : Failure)
  | broken (message : String)
deriving DecidableEq

end Steward
