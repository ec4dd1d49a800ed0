import Steward.Proofs.Effects
import Steward.Proofs.Steps
import Steward.Proofs.Validity

/-!
# What steps do to a request and to the table

For each step what it makes of the request, where the table in memory is as given. All of them leave
the table as it is but for storing and deleting. Main statements: one for each step.
-/

namespace Steward

open Store

section Works

variable {Item Input R α : Type} {s : Session Item Input R} {t : Table}

/-- The work leaves the table as it is, however it ends. If it ends with a value, `Q` holds of the
request. -/
def Looks (work : Work Item Input R Unit) (s : Session Item Input R) (t : Table)
    (Q : Request Input R → Prop) : Prop :=
  Ends work s (fun _ s' => Leads s.world t s'.world ∧ Q s'.request)
    fun _ s' => Leads s.world t s'.world

/-- A step that only looks, and then the others. -/
theorem ends_runSteps_of_looks {step : Step Item Input R} {steps : List (Step Item Input R)}
    {P : Request Input R → Prop} {Q : Unit → Session Item Input R → Prop}
    {E : Stop → Session Item Input R → Prop} (stored : s.world.store.backing = .memory t)
    (first : Looks step.run s t P)
    (rest : ∀ s', Leads s.world t s'.world → P s'.request →
      Ends (Pipeline.runSteps steps) s' Q E)
    (halted : ∀ stop s', Leads s.world t s'.world → E stop s') :
    Ends (Pipeline.runSteps (step :: steps)) s Q E := by
  rw [ends_runSteps_cons]
  refine ⟨fun _ => ?_, fun failure _ => halted _ s (.refl stored)⟩
  exact Ends.imp first (fun _ s' ⟨leads, holds⟩ => rest s' leads holds) halted

end Works

/-! ## Steps on resources -/

section Resources

open Catalog

variable {Item Spec Status : Type} [Managed Spec Status] {t : Table} {kind : Kind}
  {s : Session Item (Resource Spec Status) (Resource Spec Status)}
  {state : Resource Spec Status}

theorem looks_validate (stored : s.world.store.backing = .memory t) :
    Looks validate.run s t fun r => r = s.request ∧ s.request.input.violation? = none :=
  ends_validate (fun valid => ⟨.refl stored, rfl, valid⟩) fun _ _ => .refl stored

omit [Managed Spec Status] in
theorem looks_resolveSlug (stored : s.world.store.backing = .memory t)
    (filled : s.request.newState = some state) :
    Looks resolveSlug.run s t fun r => ∃ slug, resolvedSlug state.metadata = .ok slug ∧
      r = { s.request with newState := some (state.withMetadata fun m => { m with slug := slug }) }
    :=
  ends_resolveSlug filled (fun slug resolved => ⟨.refl stored, slug, resolved, rfl⟩)
    fun _ _ => .refl stored

/-- The natural key of the new state is free, or the step fails. -/
theorem looks_checkDuplicate (stored : s.world.store.backing = .memory t)
    (own : s.request.call.kind = some kind) (filled : s.request.newState = some state) :
    Looks checkDuplicate.run s t fun r => r = s.request ∧ KeyFree kind t state := by
  refine ends_checkDuplicate filled (forall_kind own fun _ => ?_) (fun _ => .refl stored)
    fun _ => .refl stored
  refine (reads_findByKey _ _ stored _ _).ends ?_ fun _ _ leads => leads
  intro found w leads listed
  refine ⟨fun none => ⟨leads, rfl, ?_⟩, fun _ _ _ => leads⟩
  -- A resource with the natural key would have been found.
  intro id other held same
  have inside : other ∈ found := (listed other).2 ⟨⟨id, held⟩, same⟩
  rw [none] at inside
  cases inside

theorem looks_buildNewState (stored : s.world.store.backing = .memory t)
    (own : s.request.call.kind = some kind) (filled : s.request.newState = some state) :
    Looks buildNewState.run s t fun r => ∃ id now, IdFor kind s.world.ids state.id id ∧
      r = { s.request with newState := some (stamped kind id now state) } := by
  have seeded : s.request.seed = s.request := by simp [Request.seed, filled]
  refine ends_buildNewState (by rw [seeded, filled]) (forall_kind own ?_)
    fun _ => .refl stored
  rw [seeded]
  have timed : Leads s.world t { s.world with clock := s.world.clock.next.2 } :=
    .pass stored (fun _ still => still) _
  refine (reads_idOrNew kind timed.stored state.id).ends ?_ fun _ _ leads => timed.trans leads
  intro id w leads named
  exact ⟨timed.trans leads, id, _, named.of_leads timed, rfl⟩

/-- The id of a resource can stand in a key, and the call that stores it is alive. -/
structure Placed (kind : Kind) (r : Resource Spec Status) (call : Call) (w : World Item) :
    Prop where
  accepted : checkKey ⟨kind.name, r.id⟩ = .ok ()
  live : w.timeline.check call = .ok ()

/-- The new state is stored under its id, or the table is as before. -/
theorem ends_persist (stored : s.world.store.backing = .memory t)
    (own : s.request.call.kind = some kind) (filled : s.request.newState = some state) :
    Ends persist.run s
      (fun _ s' => Leads s.world (t.put ⟨kind.name, state.id⟩ state.encode) s'.world ∧
        s'.request = s.request ∧ Placed kind state s'.request.call s'.world)
      fun _ s' => Leads s.world t s'.world := by
  refine ends_persistNewState filled (forall_kind own ?_) fun _ => .refl stored
  refine (ends_persistResource _ kind stored state).imp ?_ fun _ _ leads => leads
  rintro _ w ⟨leads, accepted, live⟩
  exact ⟨leads, rfl, accepted, live⟩

/-- The stored resource that is meant by one: the one held under its id, and without an id one with
its natural key. -/
def Meant (kind : Kind) (t : Table) (state old : Resource Spec Status) : Prop :=
  (state.id ≠ "" ∧ Holds kind t state.id old) ∨
    (state.id = "" ∧ (∃ id, Holds kind t id old) ∧ SameKey old state)

theorem Meant.held {state old : Resource Spec Status} (meant : Meant kind t state old) :
    ∃ id, Holds kind t id old := by
  rcases meant with ⟨-, held⟩ | ⟨-, held, -⟩
  · exact ⟨_, held⟩
  · exact held

/-- What is meant by its id is what is held under it. -/
theorem Meant.eq_of_chosen {state old held : Resource Spec Status} (meant : Meant kind t state old)
    (chosen : state.id ≠ "") (holds : Holds kind t state.id held) : old = held := by
  rcases meant with ⟨-, holds'⟩ | ⟨unchosen, -⟩
  · exact holds'.unique holds
  · exact absurd unchosen chosen

/-- In a table that is well kept, one stored resource at most is meant. -/
theorem KindKept.meant_unique (kept : KindKept Spec Status kind t)
    {state old old' : Resource Spec Status} (meant : Meant kind t state old)
    (meant' : Meant kind t state old') : old = old' := by
  rcases meant with ⟨chosen, held⟩ | ⟨unchosen, ⟨id, held⟩, same⟩ <;>
    rcases meant' with ⟨chosen', held'⟩ | ⟨unchosen', ⟨id', held'⟩, same'⟩
  · exact held.unique held'
  · exact absurd unchosen' chosen
  · exact absurd unchosen chosen'
  · obtain rfl := kept.unique id id' old old' held held' (same.trans same'.symm)
    exact held.unique held'

/-- The stored resource that is meant by the one at hand is found, or the step fails. -/
theorem looks_loadExisting (stored : s.world.store.backing = .memory t)
    (own : s.request.call.kind = some kind) :
    Looks loadExisting.run s t fun r => ∃ newState old,
      Meant kind t (s.request.newState.getD s.request.input) old ∧
      r = { s.request with newState := newState, existing := some old } := by
  refine ends_loadExisting (forall_kind own fun chosen => ?_)
    (forall_kind own fun unchosen _ => ?_) (fun _ _ => .refl stored) fun _ => .refl stored
  · refine (reads_load _ _ stored _).ends ?_ fun _ _ leads => leads
    intro old w leads held
    exact ⟨leads, _, old, .inl ⟨chosen, held⟩, rfl⟩
  · refine (reads_loadByKey _ _ stored _ _).ends ?_ fun _ _ leads => leads
    intro old w leads ⟨held, same⟩
    exact ⟨leads, _, old, .inr ⟨unchosen, held, same⟩, rfl⟩

/-- The moment chosen for a change is the next one. -/
theorem ends_nextUpdate_leads {Input R : Type} {s : Session Item Input R}
    {previous : Option Timestamp} {Q : Timestamp → Session Item Input R → Prop}
    {E : Stop → Session Item Input R → Prop} (stored : s.world.store.backing = .memory t)
    (next : ∀ now moment w', Leads s.world t w' → Timestamp.next? previous now = some moment →
      Q moment { s with world := w' })
    (halted : ∀ stop w', Leads s.world t w' → E stop { s with world := w' }) :
    Ends (nextUpdate previous) s Q E :=
  ends_nextUpdate
    (fun moment chosen => next _ moment _ (.pass stored (fun _ still => still) _) chosen)
    (halted _ _ (.pass stored (fun _ still => still) _))

theorem looks_buildUpdateState {old : Resource Spec Status}
    (stored : s.world.store.backing = .memory t) (filled : s.request.existing = some old) :
    Looks buildUpdateState.run s t fun r => ∃ now moment,
      Timestamp.next? old.metadata.updatedAt now = some moment ∧
      r = { s.request with newState := some (updated old s.request.input moment) } := by
  refine ends_buildUpdateState filled ?_
  exact ends_nextUpdate_leads stored
    (fun now moment w leads chosen => ⟨leads, now, moment, chosen, rfl⟩) fun _ _ leads => leads

/-- The new state takes over the id of the stored resource with its natural key, if there is one;
otherwise it stays, and creating is called for. -/
theorem looks_loadForApply (stored : s.world.store.backing = .memory t)
    (own : s.request.call.kind = some kind) (filled : s.request.newState = some state) :
    Looks loadForApply.run s t fun r =>
      (KeyFree kind t state ∧ r.newState = some state ∧
        r.find? shouldCreateNote Note.flag? = some true) ∨
      ∃ old, SameKey old state ∧ (∃ id, Holds kind t id old) ∧
        r.newState = some (state.withId old.id) ∧
        r.find? shouldCreateNote Note.flag? = some false := by
  refine ends_loadForApply filled (forall_kind own ?_) fun _ => .refl stored
  refine (reads_findByKey _ _ stored _ _).ends ?_ fun _ _ leads => leads
  intro found w leads listed
  refine (reads_unique? kind leads.stored _ _ found).ends ?_ fun _ _ more => leads.trans more
  intro only w' more same
  refine ⟨leads.trans more, ?_⟩
  cases only with
  | none =>
    refine Or.inl ⟨?_, filled, find?_lookedUp⟩
    intro id other held shared
    have inside : other ∈ found := (listed other).2 ⟨⟨id, held⟩, shared⟩
    rw [same] at inside
    cases inside
  | some old =>
    have inside : old ∈ found := by simp [same]
    obtain ⟨held, shared⟩ := (listed old).1 inside
    refine Or.inr ⟨old, shared, held, ?_, find?_lookedUp⟩
    simp [lookedUp, Request.leave, filled]

end Resources

/-! ## Steps on executions -/

theorem looks_mergeStatus {Item R : Type} {t : Table} {s : Session Item WorkflowExecution R}
    {old : WorkflowExecution} (stored : s.world.store.backing = .memory t)
    (filled : s.request.existing = some old) :
    Looks Executions.mergeStatus.run s t fun r =>
      Executions.checkPhase old s.request.input.status.phase = .ok () ∧ ∃ now moment,
      Timestamp.next? old.metadata.updatedAt now = some moment ∧
      r = { s.request with newState := some { old with
        metadata := { old.metadata with updatedAt := some moment }
        status := s.request.input.status } } := by
  refine ends_mergeStatus filled (fun allowed => ?_) fun _ _ => .refl stored
  exact ends_nextUpdate_leads stored
    (fun now moment w leads chosen => ⟨leads, allowed, now, moment, chosen, rfl⟩)
    fun _ _ leads => leads

/-! ## Steps on ids and references -/

section Ids

open Catalog

variable {Item Spec Status : Type} [Managed Spec Status] {t : Table} {kind : Kind}

theorem looks_extractResourceId {R : Type} {s : Session Item String R}
    (stored : s.world.store.backing = .memory t) :
    Looks extractResourceId.run s t fun r =>
      r = s.request.leave resourceIdNote (.text (Text.trim s.request.input)) :=
  ends_extractResourceId (fun _ => ⟨.refl stored, rfl⟩) fun _ => .refl stored

/-- Without an id taken out before, the resource is the one held under the id that the input is. -/
theorem looks_loadTarget {s : Session Item String (Resource Spec Status)}
    (stored : s.world.store.backing = .memory t) (own : s.request.call.kind = some kind)
    (unnoted : s.request.contains resourceIdNote = false) :
    Looks loadTarget.run s t fun r => ∃ target : Resource Spec Status,
      Holds kind t (Text.trim s.request.input) target ∧
      r = s.request.leave targetNote (.resource target) := by
  refine ends_loadTarget (forall_kind own fun id same _ => ?_) (fun _ => .refl stored)
    (fun _ _ => .refl stored) fun _ => .refl stored
  rw [same unnoted]
  refine (reads_load _ _ stored _).ends ?_ fun _ _ leads => leads
  exact fun target w leads held => ⟨leads, target, held, rfl⟩

/-- What is held under the noted id is noted as well. -/
theorem looks_loadExistingForDelete {s : Session Item String (Resource Spec Status)} {id : String}
    (stored : s.world.store.backing = .memory t) (own : s.request.call.kind = some kind)
    (noted : s.request.find? resourceIdNote Note.text? = some id) :
    Looks loadExistingForDelete.run s t fun r => ∃ old : Resource Spec Status,
      Holds kind t id old ∧ r = s.request.leave existingNote (.resource old) := by
  refine ends_loadExistingForDelete (forall_kind own fun id' noted' => ?_) (fun _ => .refl stored)
    fun _ => .refl stored
  obtain rfl : id = id' := Option.some.inj (noted.symm.trans noted')
  refine (reads_load _ _ stored _).ends ?_ fun _ _ leads => leads
  exact fun old w leads held => ⟨leads, old, held, rfl⟩

/-- The value under the noted id is removed, or the table is as before. -/
theorem ends_deleteResource {R : Type} {s : Session Item String R} {id : String}
    (stored : s.world.store.backing = .memory t) (own : s.request.call.kind = some kind)
    (noted : s.request.find? resourceIdNote Note.text? = some id) :
    Ends deleteResource.run s
      (fun _ s' => Leads s.world (t.erase ⟨kind.name, id⟩) s'.world ∧ s'.request = s.request)
      fun _ s' => Leads s.world t s'.world := by
  refine ends_deleteStep (forall_kind own fun id' noted' => ?_) (fun _ => .refl stored)
    fun _ => .refl stored
  obtain rfl : id = id' := Option.some.inj (noted.symm.trans noted')
  refine (ends_delete _ _ stored).imp ?_ fun _ _ leads => leads
  intro answer w done
  rcases done with ⟨rfl, leads⟩ | ⟨⟨failure, rfl⟩, leads⟩
  · exact ⟨fun _ => ⟨leads, rfl⟩, nofun⟩
  · exact ⟨nofun, fun _ _ => leads⟩

/-- What a reference finds: a resource with its natural key, if its slug has anything but blanks. -/
structure Found (kind : Kind) (t : Table) (reference : Reference) (r : Resource Spec Status) :
    Prop where
  there : Text.isAllBlank reference.slug = false
  held : ∃ id, Holds kind t id r
  scope : r.metadata.scope = reference.scope
  slug : r.metadata.slug = reference.slug

theorem looks_loadByReference {s : Session Item Reference (Resource Spec Status)}
    (stored : s.world.store.backing = .memory t) (own : s.request.call.kind = some kind) :
    Looks loadByReference.run s t fun r => ∃ target : Resource Spec Status,
      Found kind t s.request.input target ∧ r = s.request.leave targetNote (.resource target) := by
  refine ends_loadByReference (forall_kind own fun there _ => ?_) (fun _ => .refl stored)
    (fun _ _ _ _ => .refl stored) fun _ => .refl stored
  refine (reads_loadByKey _ _ stored _ _).ends ?_ fun _ _ leads => leads
  rintro target w leads ⟨held, scope, slug⟩
  exact ⟨leads, target, ⟨there, held, scope, slug⟩, rfl⟩

end Ids

end Steward
