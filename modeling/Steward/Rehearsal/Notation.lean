import Steward.Json.Access
import Steward.Json.Parser
import Steward.Rehearsal.Doubles
import Steward.Rehearsal.Probe
import Steward.Rules
import Steward.Text.Hex

/-!
# The notation of rehearsals

How bytes, resources, failures, calls, requests, steps and the faults of a store are written in
documents that describe a rehearsal. What is missing in a failure is blank, and a failure of an
unknown sort is an internal one.
-/

namespace Steward

namespace Json

/-- Bytes, given as hexadecimal digits, as a document or as a text. -/
def bytes (j : Json) : ByteArray :=
  match j.textAt? "hex", j.given? "value" with
  | some digits, _ => (Text.ofHex? digits).getD ByteArray.empty
  | none, some value => Text.utf8 value.compact
  | none, none => Text.utf8 (j.textAt "text")

/-- The bytes of a document, which may itself be given as a text. -/
def embedded : Json → ByteArray
  | .string (some s) => Text.utf8 s
  | j => Text.utf8 j.compact

/-- A document, which may itself be given as a text. -/
def document? (j : Json) : Option Json :=
  ofBytes? j.embedded

/-- A resource, given as a document or as the text of one. -/
def resource? {Spec Status : Type} [Managed Spec Status] (j : Json) :
    Option (Resource Spec Status) :=
  (Resource.decode j.embedded).toOption

/-- A failure. -/
def failure (j : Json) : Failure :=
  let detail := j.textAt "msg"
  match j.textAt "error" with
  | "NotFound" => .notFound (j.textAt "kind") (j.textAt "id")
  | "AlreadyExists" => .alreadyExists (j.textAt "kind") (j.textAt "slug") (j.textAt "id")
  | "InvalidArgument" => .invalidArgument detail
  | "StateNotSet" => .stateNotSet detail
  | "Misconfigured" =>
    .misconfigured (j.textAt "pipeline") (j.textAt "step") (j.textAt "requirement")
  | "Cancelled" => .cancelled
  | "DeadlineExceeded" => .deadlineExceeded
  | "Unimplemented" => .unimplemented detail
  | "Unavailable" => .unavailable detail
  | _ => .internal detail

/-- A failure of a store. -/
def storeFailure (j : Json) : Store.Failure :=
  let detail := j.textAt "msg"
  match j.textAt "error" with
  | "NotFound" => .notFound detail
  | "InvalidKey" => .invalidKey detail
  | "Serialization" => .serialization detail
  | "Io" => .io detail
  | _ => .internal detail

/-- What a rule finds. An unknown rule finds nothing. -/
def finding (j : Json) : Finding :=
  let field := j.textAt "field"
  let value := j.textAt "value"
  let intAt (name : String) : Int := ((j.member name).int?).getD 0
  match j.textAt "rule" with
  | "required" => Rule.required field value
  | "max_len" => Rule.maxLength field value ((j.natAt? "max").getD 0)
  | "pattern" =>
    (Pattern.all.find? (·.text = j.textAt "re")).bind fun p => Rule.pattern field value p
  | "range" => Rule.range field (intAt "value") (intAt "min") (intAt "max")
  | "check" => Rule.check field (j.flagAt "ok") (j.textAt "message")
  | _ => none

/-- A request. Either part may be missing: an unknown operation is no request, and one whose
resource or reference cannot be read has no message. -/
def message? {Spec Status : Type} [Managed Spec Status] (j : Json) :
    Option (Option (Message (Resource Spec Status))) :=
  let resource : Option (Resource Spec Status) := (j.member "resource").resource?
  match j.textAt "do" with
  | "create" => some (resource.map .create)
  | "update" => some (resource.map .update)
  | "apply" => some (resource.map .apply)
  | "delete" => some (some (.delete (j.textAt "id")))
  | "get" => some (some (.get (j.textAt "id")))
  | "get_by_reference" => some ((Reference.ofJson? (j.member "reference")).map .getByReference)
  | _ => none

/-- How a probe treats requests. -/
def manner (j : Json) : ProbeManner where
  sleep := j.natAt? "sleep_ms"
  breaks := j.flagAt "panic"
  failure := (j.given? "error").map failure

/-- Slots that a contract names. -/
def slots (j : Json) : List Slot :=
  j.items.filterMap fun s =>
    [Slot.newState, .existing, .resourceId].find? fun slot => s.text? = some slot.text

/-- The step with a name, when `own` are those that the input allows. The state counts the recording
steps before it. -/
def step {Item Input R : Type} (own : List (Step Item Input R)) (j : Json) :
    StateT Nat Option (Step Item Input R) := do
  match (j.text?).getD (j.textAt "step") with
  | "Recording" =>
    let index ← modifyGet fun n => (n, n + 1)
    return Rehearsal.recorder index (j.textAt "name") ((j.given? "fail").map failure)
      { requires := (j.member "requires").slots, provides := (j.member "provides").slots }
  | "Cancel" => return Rehearsal.canceller
  | "Sleep" => return Rehearsal.sleeper ((j.natAt? "ms").getD 0)
  | "Validate" => own.find? (·.name = "ValidateProto")
  | name => own.find? (·.name = name)

/-- A foreseen call with the answer to it. -/
def expectation (j : Json) : Expectation where
  call := match j.textAt "call" with
    | "update" => .update
    | "get" => .get (j.textAt "id")
    | _ => .create
  answer := match j.member? "err", (j.member "ok").resource? with
    | some f, _ => .error f.failure
    | none, some resource => .ok resource
    | none, none => .error (.internal "the answer cannot be read")

end Json

namespace Timeline

/-- A new call with the kind and the deadline that a document gives it, cancelled if it says so. -/
def described (t : Timeline) (j : Json) : Call × Timeline :=
  let (call, t) := t.background
  let call := ((Kind.ofTag? (j.textAt "kind")).map call.withKind).getD call
  let call := ((j.natAt? "timeout_ms").map (t.withTimeout call)).getD call
  (call, if j.flagAt "cancelled" then t.cancel call else t)

/-- Has the call cancelled later on, if a document says when. -/
def cancelLater (t : Timeline) (call : Call) (j : Json) : Timeline :=
  ((j.natAt? "cancel_after_ms").map (t.cancelAfter call)).getD t

end Timeline

namespace Store

/-- Arms the failure of the next operation of a sort. -/
def armed (s : Store) (operation : String) (f : Failure) : Store :=
  match operation with
  | "put" => { s with faults := { s.faults with put := some f } }
  | "get" => { s with faults := { s.faults with get := some f } }
  | "delete" => { s with faults := { s.faults with delete := some f } }
  | "list" => { s with faults := { s.faults with list := some f } }
  | _ => s

/-- Arms all failures in a document, and sets the delay that it gives. -/
def prepared (s : Store) (j : Json) : Store :=
  let s := (j.member "faults").members.foldl
    (fun s (operation, f) => s.armed operation f.storeFailure) s
  match j.member? "delay_ms" with
  | none => s
  | some delay => { s with delay := delay.nat? }

/-- Values with their keys, as a list of documents gives them. -/
def valuesOf (items : List Json) : List (Key × ByteArray) :=
  items.map fun item => (⟨item.textAt "kind", item.textAt "id"⟩, item.bytes)

/-- Values in memory, the last one counting where a key is given twice. -/
def tableOf (values : List (Key × ByteArray)) : Table :=
  values.foldl (fun table (key, value) => ((table.store key value).toOption).getD table) .empty

end Store

end Steward
