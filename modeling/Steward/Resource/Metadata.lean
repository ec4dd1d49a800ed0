import Steward.Resource.Labels
import Steward.Resource.Scope
import Steward.Rules
import Steward.Timestamp.Text

/-!
# Metadata

What every resource carries besides its own content: identity, name, owner, labels and the moments
of its creation and last change.
-/

namespace Steward

structure Metadata where
  id : String := ""
  name : String := ""
  slug : String := ""
  scope : OwnerScope := .platform
  labels : Labels := .empty
  createdAt : Option Timestamp := none
  updatedAt : Option Timestamp := none
deriving DecidableEq, Inhabited

namespace Metadata

/-- The fields of metadata, in the order of declaration. -/
def fieldNames : List String :=
  ["id", "name", "slug", "owner_scope", "labels", "created_at", "updated_at"]

/-- A member that is left out when there is no value for it. -/
def timeMember (name : String) : Option Timestamp → List (String × Json)
  | none => []
  | some t => [(name, .text t.text)]

/-- Metadata as JSON. Labels are left out when there are none, times when they are not set. -/
def toJson (m : Metadata) : Json :=
  .record <|
    [("id", .text m.id), ("name", .text m.name), ("slug", .text m.slug),
      ("owner_scope", m.scope.toJson)] ++
    (if m.labels.isEmpty then [] else [("labels", m.labels.toJson)]) ++
    timeMember "created_at" m.createdAt ++ timeMember "updated_at" m.updatedAt

def readTime (j : Json) : Option Timestamp :=
  j.text?.bind Timestamp.ofText?

/-- Reads metadata at a given depth of nesting. -/
def ofJson? (depth : Nat) (j : Json) : Option Metadata := do
  let fields ← j.fields? fieldNames
  return {
    id := ← fields.get "id" Json.text? ""
    name := ← fields.get "name" Json.text? ""
    slug := ← fields.get "slug" Json.text? ""
    scope := ← fields.get "owner_scope" (OwnerScope.ofJson? (depth + 1)) .platform
    labels := ← fields.get "labels" Labels.ofJson? .empty
    createdAt := ← fields.get "created_at" (Json.optional? readTime) none
    updatedAt := ← fields.get "updated_at" (Json.optional? readTime) none }

/-- An organization scope names its organization. -/
def scopeIsNamed : OwnerScope → Bool
  | .platform => true
  | .organization org => !Text.isAllBlank org

/-- The first rule for metadata that is violated. -/
def violation? (m : Metadata) : Finding :=
  Rule.first [
    Rule.required "metadata.name" m.name,
    Rule.maxLength "metadata.name" m.name 253,
    Rule.maxLength "metadata.slug" m.slug 63,
    Rule.check "metadata.owner_scope" (scopeIsNamed m.scope)
      "organization scope requires an org",
    Rule.check "metadata.labels" (m.labels.names.all (!·.isEmpty)) "label keys must not be empty"]

end Metadata

end Steward
