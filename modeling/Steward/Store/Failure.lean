import Steward.Failure

/-!
# Store failures

Why a store refused an operation, and what that means to the operation on the resource.
-/

namespace Steward.Store

inductive Failure where
  | notFound (key : String)
  | invalidKey (segment : String)
  | serialization (detail : String)
  | io (detail : String)
  | internal (detail : String)
deriving DecidableEq

namespace Failure

def name : Failure → String
  | notFound _ => "NotFound"
  | invalidKey _ => "InvalidKey"
  | serialization _ => "Serialization"
  | io _ => "Io"
  | internal _ => "Internal"

def message : Failure → String
  | notFound key => s!"key not found: {key}"
  | invalidKey segment => s!"invalid key segment: {segment}"
  | serialization detail => s!"serialization failure: {detail}"
  | io detail => s!"storage I/O failure: {detail}"
  | internal detail => s!"storage failure: {detail}"

/-- A missing key means that the resource does not exist, a refused key that the argument was
wrong, and anything else is internal. -/
def explain (kind id : String) : Failure → Steward.Failure
  | notFound _ => .notFound kind id
  | invalidKey segment => .invalidArgument segment
  | failure => .internal failure.message

end Failure

end Steward.Store
