import Steward.Resource.Metadata

/-!
# Resources

A resource is metadata around a specification, which its owner writes, and a status, which the
system writes. Its natural key is its kind, its owner scope and its slug.
-/

namespace Steward

/-- A resource with a specification and a status. -/
structure Resource (Spec Status : Type) where
  apiVersion : String := ""
  kindName : String := ""
  metadata : Metadata
  spec : Spec
  status : Status
deriving DecidableEq

/-- The version stamped on every new resource. -/
def apiVersion : String := "agentic.local/v1"

/-- A specification and a status that belong together: how they are written, which rules the
specification obeys, and which parts of it an update may change. -/
class Managed (Spec Status : Type) where
  specForm : Form Spec
  /-- Absent for resources without a status. -/
  statusForm : Option (Form Status)
  /-- The status of a resource that has just been created. -/
  freshStatus : Status
  /-- The first rule for the specification that is violated. -/
  violation? : Spec → Finding
  /-- The stored specification with the changes that an update asks for. -/
  merge (stored requested : Spec) : Spec

namespace Resource

variable {Spec Status : Type}

abbrev id (r : Resource Spec Status) : String := r.metadata.id

/-- The resource with other metadata. -/
def withMetadata (r : Resource Spec Status) (change : Metadata → Metadata) :
    Resource Spec Status :=
  { r with metadata := change r.metadata }

/-- The resource under another id. -/
def withId (r : Resource Spec Status) (id : String) : Resource Spec Status :=
  r.withMetadata fun m => { m with id := id }

/-- The resource has a given natural key among those of its kind. -/
def hasKey (scope : OwnerScope) (slug : String) (r : Resource Spec Status) : Bool :=
  r.metadata.slug == slug && r.metadata.scope == scope

variable [Managed Spec Status]

/-- The first rule that is violated, those for metadata coming first. -/
def violation? (r : Resource Spec Status) : Finding :=
  match r.metadata.violation? with
  | some v => some v
  | none => Managed.violation? Status r.spec

/-- The stored resource with the changes to its specification that an update asks for. -/
def merge (stored requested : Resource Spec Status) : Resource Spec Status :=
  { stored with spec := Managed.merge Status stored.spec requested.spec }

/-- The resource with the status of a new one. -/
def withFreshStatus (r : Resource Spec Status) : Resource Spec Status :=
  { r with status := Managed.freshStatus Spec }

end Resource

end Steward
