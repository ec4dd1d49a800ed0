import Steward.Json.Record

/-!
# Owner scopes

The boundary within which slugs are unique: the platform, or one organization.
-/

namespace Steward

inductive OwnerScope where
  | platform
  | organization (org : String)
deriving DecidableEq, Inhabited

namespace OwnerScope

/-- The organization of a scope. -/
def org? : OwnerScope → Option String
  | platform => none
  | organization org => some org

/-- The scope as it appears in messages. -/
def display : OwnerScope → String
  | platform => "platform"
  | organization org => s!"org:{org}"

def toJson : OwnerScope → Json
  | platform => .record [("scope", .text "platform")]
  | organization org => .record [("scope", .text "organization"), ("org", .text org)]

/-- Reads a scope at a given depth of nesting. The members of an object are kept until its sort is
known, so each of them has to be sound; an array holds the sort and then the organization. -/
def ofJson? (depth : Nat) : Json → Option OwnerScope
  | .object members =>
    if Json.membersKeepable (Json.maxDepth - depth) members then
      match Json.valuesOf "scope" members with
      | [.string (some "platform")] => some platform
      | [.string (some "organization")] =>
        match Json.valuesOf "org" members with
        | [.string (some org)] => some (organization org)
        | _ => none
      | _ => none
    else none
  | .array [.string (some "platform")] => some platform
  | .array [.string (some "organization"), .string (some org)] => some (organization org)
  | _ => none

end OwnerScope

end Steward
