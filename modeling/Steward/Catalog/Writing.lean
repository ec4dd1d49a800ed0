import Steward.Catalog.Lookup
import Steward.Slug

/-!
# Steps that build and write resources

From the input to what is stored: checking it, giving it a slug, making a new resource or the next
version of a stored one, storing it and telling those who listen.
-/

namespace Steward.Catalog

variable {Item Spec Status : Type} [Managed Spec Status]

/-- Checks the input against the rules for metadata and for its specification. -/
def validate : Step Item (Resource Spec Status) (Resource Spec Status) where
  name := "ValidateProto"
  run := do
    match (← Work.request).input.violation? with
    | none => pure ()
    | some violation => Work.fail (.invalidArgument violation.message)

/-- The slug to use for metadata: the one it has, or else the one its name gives. -/
def resolvedSlug (m : Metadata) : Except Failure String :=
  if m.slug ≠ "" then .ok m.slug
  else if Text.isAllBlank m.name then
    .error (.invalidArgument "metadata.name is required to derive a slug")
  else if Slug.ofName m.name = "" then
    .error (.invalidArgument s!"metadata.name '{m.name}' has no characters usable in a slug")
  else .ok (Slug.ofName m.name)

/-- Gives the new state a slug if it has none. -/
def resolveSlug : Step Item (Resource Spec Status) (Resource Spec Status) where
  name := "ResolveSlug"
  contract := { requires := [.newState] }
  run := do
    let state ← Work.newState
    let slug ← Work.ofExcept (resolvedSlug state.metadata)
    Work.setNewState (state.withMetadata fun m => { m with slug := slug })

/-- Refuses a natural key that is taken. -/
def checkDuplicate : Step Item (Resource Spec Status) (Resource Spec Status) where
  name := "CheckDuplicate"
  contract := { requires := [.newState] }
  run := do
    let kind ← Work.requireKind
    let metadata := (← Work.newState).metadata
    if metadata.slug = "" then
      Work.fail (.internal "slug must be resolved before the duplicate check")
    let call := (← Work.request).call
    let found : List (Resource Spec Status) ←
      Work.perform (findByKey call kind metadata.scope metadata.slug)
    match found with
    | [] => pure ()
    | taken :: _ => Work.fail (.alreadyExists kind.name metadata.slug taken.id)

/-- The id to use for a new resource: the one it has, or else a new one. -/
def idOrNew (kind : Kind) (id : String) : Op Item String :=
  if id = "" then Op.newId kind else pure id

/-- Makes a new resource of the input: kind, version, id, moment of creation, and the status of
something new. An id that the caller chose is kept. -/
def buildNewState : Step Item (Resource Spec Status) (Resource Spec Status) where
  name := "BuildNewState"
  contract := { provides := [.newState] }
  run := do
    let kind ← Work.requireKind
    Work.modifyRequest Request.seed
    let state ← Work.newState
    let now ← Work.perform Op.readClock
    let id ← Work.perform (idOrNew kind state.id)
    let stamped : Resource Spec Status := { state with
      kindName := kind.name
      apiVersion := apiVersion
      metadata := { state.metadata with id := id, createdAt := some now, updatedAt := some now } }
    Work.setNewState stamped.withFreshStatus

/-- The moment to record for a change made now. Beyond the last moment that can be represented the
work breaks off. -/
def nextUpdate {Input R : Type} (previous : Option Timestamp) :
    Work Item Input R Timestamp := do
  let now ← Work.perform Op.readClock
  match Timestamp.next? previous now with
  | some moment => return moment
  | none => throw (.broken "`DateTime + TimeDelta` overflowed")

/-- The stored metadata with the name and the labels that an update asks for, if it does. -/
def updatedMetadata (stored requested : Metadata) (moment : Timestamp) : Metadata :=
  { stored with
    name := if Text.isAllBlank requested.name then stored.name else requested.name
    labels := if requested.labels.isEmpty then stored.labels else requested.labels
    updatedAt := some moment }

/-- Makes the next version of the stored resource. Identity, natural key, status and moment of
creation stay as they are. -/
def buildUpdateState : Step Item (Resource Spec Status) (Resource Spec Status) where
  name := "BuildUpdateState"
  contract := { requires := [.existing], provides := [.newState] }
  run := do
    let existing ← Work.existing
    let requested := (← Work.request).input
    let moment ← nextUpdate existing.metadata.updatedAt
    Work.setNewState ((existing.merge requested).withMetadata
      fun stored => updatedMetadata stored requested.metadata moment)

/-- Stores a resource of a kind under its id, in place of what is there. -/
def persistResource (call : Call) (kind : Kind) (resource : Resource Spec Status) :
    Op Item Unit := do
  if resource.id = "" then
    Op.fail (.internal s!"refusing to persist {kind.name} without an id")
  match ← Op.put call ⟨kind.name, resource.id⟩ resource.encode with
  | .ok () => pure ()
  | .error failure => Op.fail (failure.explain kind.name resource.id)

def persistNewState : Work Item (Resource Spec Status) (Resource Spec Status) Unit := do
  let kind ← Work.requireKind
  let state ← Work.newState
  Work.perform (persistResource (← Work.request).call kind state)

def persist : Step Item (Resource Spec Status) (Resource Spec Status) where
  name := "Persist"
  contract := { requires := [.newState] }
  run := persistNewState

/-- Hands the new state to those who listen to its id. -/
def publish : Step (Resource Spec Status) (Resource Spec Status) (Resource Spec Status) where
  name := "Publish"
  contract := { requires := [.newState] }
  run := do
    let state ← Work.newState
    let _ ← Work.perform (Op.publish state.id state)

end Steward.Catalog
