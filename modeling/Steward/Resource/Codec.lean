import Steward.Json.Parser
import Steward.Json.Printer
import Steward.Resource.Basic
import Steward.Store.Failure

/-!
# Resources as bytes

The stored form of a resource: compact JSON in UTF-8. Reading it tolerates other versions of the
form: members may come in any order, those with unknown names are skipped, and missing ones take
their defaults; only the metadata has to be there.
-/

namespace Steward.Resource

variable {Spec Status : Type}

/-- The member that holds the status, if resources of this type have one. -/
def statusMember (Spec : Type) [Managed Spec Status] (status : Status) : List (String × Json) :=
  match (Managed.statusForm Spec : Option (Form Status)) with
  | some form => [("status", form.write status)]
  | none => []

variable [Managed Spec Status]

/-- A resource as JSON. -/
def toJson (r : Resource Spec Status) : Json :=
  .record <|
    [("api_version", .text r.apiVersion), ("kind", .text r.kindName),
      ("metadata", r.metadata.toJson),
      ("spec", (Managed.specForm Status : Form Spec).write r.spec)] ++
    statusMember Spec r.status

/-- The members with a place of their own. All others are kept until the end, so that the version
and the kind can be picked out of them. -/
def ownMembers (Spec Status : Type) [Managed Spec Status] : List String :=
  match (Managed.statusForm Spec : Option (Form Status)) with
  | some _ => ["metadata", "spec", "status"]
  | none => ["metadata", "spec"]

/-- The member can be read, or is one of those with a place of their own. -/
def isSoundMember (own : List String) : Option String × Json → Bool
  | (none, _) => false
  | (some name, value) => own.contains name || value.isKeepable (Json.maxDepth - 1)

/-- The status among the fields of a resource, if resources of this type have one. -/
def readStatus (Spec : Type) [Managed Spec Status] (fields : Fields) : Option Status :=
  match (Managed.statusForm Spec : Option (Form Status)) with
  | some form => fields.get "status" form.read form.blank
  | none => some (Managed.freshStatus Spec)

/-- Reads a resource from its JSON. -/
def ofJson? : Json → Option (Resource Spec Status)
  | .object members => do
    let own := ownMembers Spec Status
    if members.all (isSoundMember own) then
      let fields ← Json.memberFields? (own ++ ["api_version", "kind"]) members
      let metadata ← fields "metadata"
      let form : Form Spec := Managed.specForm Status
      return {
        apiVersion := ← fields.get "api_version" Json.text? ""
        kindName := ← fields.get "kind" Json.text? ""
        metadata := ← Metadata.ofJson? 2 metadata
        spec := ← fields.get "spec" form.read form.blank
        status := ← readStatus Spec fields }
    else none
  | _ => none

/-- The stored bytes of a resource. -/
def encode (r : Resource Spec Status) : ByteArray :=
  Text.utf8 r.toJson.compact

/-- The resource that stored bytes hold. -/
def decode (bytes : ByteArray) : Except Store.Failure (Resource Spec Status) :=
  match (Json.ofBytes? bytes).bind ofJson? with
  | some r => .ok r
  | none => .error (.serialization "the value is not a resource of this type")

end Steward.Resource
