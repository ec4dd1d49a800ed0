import Steward.Kind
import Steward.Json.Printer
import Steward.Resource.Scope

/-!
# References

A reference addresses a resource by its natural key instead of its id.
-/

namespace Steward

namespace Kind

def toJson (kind : Kind) : Json := .text kind.tag

def ofJson? (j : Json) : Option Kind :=
  j.choice?.bind ofTag?

end Kind

/-- A slug within an organization, or within the platform if none is named. -/
structure Reference where
  kind : Option Kind := none
  org : Option String := none
  slug : String
deriving DecidableEq

namespace Reference

/-- The reference names the kind only if it has to be of that kind. -/
def ofKind (r : Reference) (kind : Kind) : Reference :=
  { r with kind := some kind }

/-- The scope that a reference points into. An empty organization is none. -/
def scope (r : Reference) : OwnerScope :=
  match r.org with
  | none => .platform
  | some org => if org.isEmpty then .platform else .organization org

def toJson (r : Reference) : Json :=
  .record <|
    (match r.kind with
      | none => []
      | some kind => [("kind", kind.toJson)]) ++
    (match r.org with
      | none => []
      | some org => [("org", .text org)]) ++
    [("slug", .text r.slug)]

def ofJson? (j : Json) : Option Reference := do
  let fields ← j.fields? ["kind", "org", "slug"]
  let slug ← fields "slug"
  return {
    kind := ← fields.get "kind" (Json.optional? Kind.ofJson?) none
    org := ← fields.get "org" (Json.optional? Json.text?) none
    slug := ← slug.text? }

end Reference

end Steward
