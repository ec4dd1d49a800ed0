import Steward.Pipeline.Basic
import Steward.Resource.Codec
import Steward.Resource.Reference

/-!
# Steps that look resources up

Resources are found by id or by natural key. Where a natural key belongs to more than one stored
resource, nothing is chosen.
-/

namespace Steward.Catalog

variable {Item Spec Status : Type} [Managed Spec Status]

/-! ## Keys of notes -/

def resourceIdNote : String := "resource_id"

def existingNote : String := "existing_resource"

def targetNote : String := "target_resource"

/-- Whether there is a resource with the natural key of the one to apply. -/
def existsNote : String := "exists_in_database"

/-- Whether applying means creating. -/
def shouldCreateNote : String := "should_create"

/-! ## Looking in the store -/

def load (call : Call) (kind : Kind) (id : String) : Op Item (Resource Spec Status) := do
  match ← Op.fetch call ⟨kind.name, id⟩ with
  | .error failure => Op.fail (failure.explain kind.name id)
  | .ok bytes =>
    match Resource.decode bytes with
    | .error failure => Op.fail (failure.explain kind.name id)
    | .ok resource => return resource

def decodeAll (values : List ByteArray) : Except Store.Failure (List (Resource Spec Status)) :=
  values.mapM Resource.decode

def findByKey (call : Call) (kind : Kind) (scope : OwnerScope) (slug : String) :
    Op Item (List (Resource Spec Status)) := do
  match (← Op.list call kind.name).bind decodeAll with
  | .error failure => Op.fail (.internal s!"failed to list {kind.name}: {failure.message}")
  | .ok resources => return resources.filter (Resource.hasKey scope slug)

/-- The failure to report when a natural key belongs to several resources. -/
def ambiguous (count : Nat) (kind : Kind) (slug : String) (scope : OwnerScope) : Failure :=
  .internal s!"{count} {kind.name} resources share slug '{slug}' in scope {scope.display}"

/-- The only resource among those found, if there is any. -/
def unique? (kind : Kind) (slug : String) (scope : OwnerScope) :
    List (Resource Spec Status) → Op Item (Option (Resource Spec Status))
  | [] => pure none
  | [resource] => pure (some resource)
  | found => Op.fail (ambiguous found.length kind slug scope)

def loadByKey (call : Call) (kind : Kind) (scope : OwnerScope) (slug : String) :
    Op Item (Resource Spec Status) := do
  match ← unique? kind slug scope (← findByKey call kind scope slug) with
  | some resource => return resource
  | none => Op.fail (.notFound kind.name slug)

/-! ## Resources as input -/

/-- Loads the stored version of the resource at hand: by its id, and without an id by its slug, in
which case the id that was found is put on the new state. -/
def loadExisting : Step Item (Resource Spec Status) (Resource Spec Status) where
  name := "LoadExisting"
  contract := { provides := [.existing] }
  run := do
    let kind ← Work.requireKind
    let request ← Work.request
    let metadata := (request.newState.getD request.input).metadata
    if metadata.id ≠ "" then
      Work.setExisting (← Work.perform (load request.call kind metadata.id))
    else if metadata.slug ≠ "" then
      let existing ← Work.perform (loadByKey request.call kind metadata.scope metadata.slug)
      Work.modifyRequest fun r => { r with newState := r.newState.map (·.withId existing.id) }
      Work.setExisting existing
    else
      Work.fail (.invalidArgument "metadata.id or metadata.slug is required")

/-- Finds out whether there is a resource with the natural key of the new state, which then takes
over its id. -/
def loadForApply : Step Item (Resource Spec Status) (Resource Spec Status) where
  name := "LoadForApply"
  contract := { requires := [.newState] }
  run := do
    let kind ← Work.requireKind
    let metadata := (← Work.newState).metadata
    let call := (← Work.request).call
    let found ← Work.perform (findByKey call kind metadata.scope metadata.slug)
    let existing ← Work.perform (unique? kind metadata.slug metadata.scope found)
    Work.leave existsNote (.flag existing.isSome)
    Work.leave shouldCreateNote (.flag existing.isNone)
    match existing with
    | none => pure ()
    | some existing =>
      Work.modifyRequest fun r => { r with newState := r.newState.map (·.withId existing.id) }
      Work.setExisting existing

/-! ## Ids as input -/

/-- Takes the id out of the input, without the blanks around it. -/
def extractResourceId {R : Type} : Step Item String R where
  name := "ExtractResourceId"
  contract := { provides := [.resourceId] }
  run := do
    let id := Text.trim (← Work.request).input
    if id = "" then Work.fail (.invalidArgument "resource id is required")
    Work.leave resourceIdNote (.text id)

def extractedId {R : Type} : Work Item String R String := do
  match (← Work.request).find? resourceIdNote Note.text? with
  | some id => return id
  | none => Work.fail (.stateNotSet resourceIdNote)

/-- The id that a step took out of the input, or else the one that the input holds. -/
def wantedId {R : Type} : Work Item String R String := do
  let request ← Work.request
  if request.contains resourceIdNote then extractedId else return Text.trim request.input

def loadTarget : Step Item String (Resource Spec Status) where
  name := "LoadTarget"
  run := do
    let kind ← Work.requireKind
    let id ← wantedId
    if id = "" then Work.fail (.invalidArgument "resource id is required")
    let target ← Work.perform (load (← Work.request).call kind id)
    Work.leave targetNote (.resource target)

/-- Loads the resource that is about to be deleted, so that it can be handed back afterwards. -/
def loadExistingForDelete : Step Item String (Resource Spec Status) where
  name := "LoadExistingForDelete"
  contract := { requires := [.resourceId] }
  run := do
    let kind ← Work.requireKind
    let id ← extractedId
    let existing ← Work.perform (load (← Work.request).call kind id)
    Work.leave existingNote (.resource existing)

def deleteResource {R : Type} : Step Item String R where
  name := "DeleteResource"
  contract := { requires := [.resourceId] }
  run := do
    let kind ← Work.requireKind
    let id ← extractedId
    match ← Work.perform (Op.delete (← Work.request).call ⟨kind.name, id⟩) with
    | .ok () => pure ()
    | .error failure => Work.fail (failure.explain kind.name id)

/-! ## References as input -/

def checkReferenceKind (reference : Reference) (kind : Kind) : Except Failure Unit :=
  match reference.kind with
  | none => .ok ()
  | some wanted =>
    if wanted = kind then .ok ()
    else .error (.invalidArgument
      s!"reference kind {wanted.name} does not match {kind.name}")

def loadByReference : Step Item Reference (Resource Spec Status) where
  name := "LoadByReference"
  run := do
    let kind ← Work.requireKind
    let request ← Work.request
    let reference := request.input
    if Text.isAllBlank reference.slug then
      Work.fail (.invalidArgument "reference slug is required")
    Work.ofExcept (checkReferenceKind reference kind)
    let target ← Work.perform (loadByKey request.call kind reference.scope reference.slug)
    Work.leave targetNote (.resource target)

end Steward.Catalog
