import Steward.Controller.Basic
import Steward.Proofs.StepEffects

/-!
# What pipelines do to the table

A pipeline of a kind leaves the table in memory as it is or changes one value of the kind: it adds a
resource with a free natural key, puts a new version in the place of a stored resource, or removes a
value. Each of these changes keeps a table that is well kept. Main statements: `Change.kept`,
`stows_createSteps` and `stows_updateSteps`.
-/

namespace Steward

open Store

/-! ## Changes -/

section Changes

variable {Spec Status : Type} [Managed Spec Status]

/-- The resource put in place. -/
def stow (kind : Kind) (t : Table) (r : Resource Spec Status) : Table :=
  t.put ⟨kind.name, r.id⟩ r.encode

/-- A resource in place makes no difference to what is held of another kind. -/
theorem holds_stow_of_ne {Spec' Status' : Type} [Managed Spec' Status'] {kind kind' : Kind}
    {t : Table} {id : String} {r : Resource Spec Status} {r' : Resource Spec' Status'}
    (other : kind'.name ≠ kind.name) :
    Holds kind' (stow kind t r) id r' ↔ Holds kind' t id r' := by
  have apart : (⟨kind'.name, id⟩ : Key) ≠ ⟨kind.name, r.id⟩ :=
    fun same => other (congrArg Key.kind same)
  unfold Holds stow
  rw [Table.get?_put_of_ne apart]

/-- A new version of a stored resource: sound if that one is, under the same id and with the same
natural key. -/
structure NextVersion (kind : Kind) (t : Table) (old r : Resource Spec Status) : Prop where
  held : ∃ id, Holds kind t id old
  named : r.id = old.id
  same : SameKey old r
  sound : Sound kind old → Sound kind r

/-- How one operation changes the values of a kind. -/
inductive Change (Spec Status : Type) [Managed Spec Status] (kind : Kind) (t : Table) :
    Table → Prop where
  | same : Change Spec Status kind t t
  | add (r : Resource Spec Status) (sound : Sound kind r) (free : KeyFree kind t r) :
      Change Spec Status kind t (stow kind t r)
  | renew (old r : Resource Spec Status) (next : NextVersion kind t old r) :
      Change Spec Status kind t (stow kind t r)
  | drop (id : String) : Change Spec Status kind t (t.erase ⟨kind.name, id⟩)

variable {kind : Kind} {t t' : Table}

/-- A change leaves the values of other kinds as they are. -/
theorem Change.get? (change : Change Spec Status kind t t') {key : Key}
    (other : key.kind ≠ kind.name) : t'.get? key = t.get? key := by
  have apart : ∀ id, key ≠ ⟨kind.name, id⟩ := by
    rintro id rfl
    exact other rfl
  cases change with
  | same => rfl
  | add r => exact Table.get?_put_of_ne (apart r.id)
  | renew old r => exact Table.get?_put_of_ne (apart r.id)
  | drop id => rw [Table.get?_erase, if_neg (apart id)]

/-- A table that is well kept for another kind stays so. -/
theorem Change.kept_other {Spec' Status' : Type} [Managed Spec' Status'] {kind' : Kind}
    (change : Change Spec Status kind t t') (other : kind'.name ≠ kind.name)
    (kept : KindKept Spec' Status' kind' t) : KindKept Spec' Status' kind' t' :=
  kept.congr fun _ => change.get? other

theorem Change.kind_of_new (change : Change Spec Status kind t t') {key : Key} {bytes : ByteArray}
    (found : t'.get? key = some bytes) : key.kind = kind.name ∨ t.get? key = some bytes := by
  by_cases same : key.kind = kind.name
  · exact Or.inl same
  · exact Or.inr (change.get? same ▸ found)

/-- A table that is well kept for the kind stays so. -/
theorem Change.kept [LawfulManaged Spec Status] (change : Change Spec Status kind t t')
    (kept : KindKept Spec Status kind t) : KindKept Spec Status kind t' := by
  cases change with
  | same => exact kept
  | add r sound free => exact kept.add sound free
  | renew old r next =>
    -- In a table that is well kept the old version stands under its own id, so the new one takes
    -- its place.
    obtain ⟨id, held⟩ := next.held
    obtain ⟨named, sound⟩ := kept.of_holds held
    have there : Holds kind t r.id old := by rw [next.named, named]; exact held
    exact kept.renew there next.same (next.sound sound)
  | drop id => exact kept.drop _

end Changes

/-! ## Lines of steps -/

section Lines

open Catalog

variable {Item Spec Status : Type} [Managed Spec Status] {t : Table} {kind : Kind}

/-- What creating makes of an input: a sound resource with a natural key that was free. -/
structure Created (kind : Kind) (t : Table) (ids : Supply String)
    (input r : Resource Spec Status) : Prop where
  valid : input.violation? = none
  free : KeyFree kind t r
  named : IdFor kind ids input.id r.id
  made : ∃ slug id now, resolvedSlug input.metadata = .ok slug ∧
    r = stamped kind id now (input.withMetadata fun m => { m with slug := slug })

theorem Created.sound {ids : Supply String} {input r : Resource Spec Status}
    (created : Created kind t ids input r) : Sound kind r := by
  obtain ⟨slug, id, now, resolved, rfl⟩ := created.made
  exact sound_new created.valid resolved kind id now

theorem Created.of_leads {w w' : World Item} {t' : Table} {input r : Resource Spec Status}
    (leads : Leads w t' w') (created : Created kind t w'.ids input r) :
    Created kind t w.ids input r :=
  { created with named := created.named.of_leads leads }

/-- The resource with its slug resolved. -/
def Resolved (input resolved : Resource Spec Status) : Prop :=
  ∃ slug, resolvedSlug input.metadata = .ok slug ∧
    resolved = input.withMetadata fun m => { m with slug := slug }

/-- What updating makes of an input and of the stored resource that is meant. -/
structure Revised (kind : Kind) (t : Table) (input old r : Resource Spec Status) : Prop where
  valid : input.violation? = none
  meant : ∃ resolved, Resolved input resolved ∧ Meant kind t resolved old
  made : ∃ now moment, Timestamp.next? old.metadata.updatedAt now = some moment ∧
    r = updated old input moment

theorem Revised.nextVersion [LawfulManaged Spec Status] {input old r : Resource Spec Status}
    (revised : Revised kind t input old r) : NextVersion kind t old r := by
  obtain ⟨valid, ⟨resolved, -, meant⟩, now, moment, next, rfl⟩ := revised
  exact ⟨meant.held, rfl, sameKey_updated input moment, fun sound => sound.update valid next⟩

/-- The steps end with a resource of which `Made` holds as the new state, or they stop; either way
the table is as before. -/
def Drafts (steps : List (Step Item (Resource Spec Status) (Resource Spec Status)))
    (t : Table) (s : Session Item (Resource Spec Status) (Resource Spec Status))
    (Made : Resource Spec Status → Prop) : Prop :=
  Ends (Pipeline.runSteps steps) s
    (fun _ s' => ∃ r, Made r ∧ Leads s.world t s'.world ∧ s'.request.call = s.request.call ∧
      s'.request.newState = some r)
    fun _ s' => Leads s.world t s'.world

/-- The steps end with a resource of which `Made` holds as the new state and in place, or they stop
and the table is as before. -/
def Stows (steps : List (Step Item (Resource Spec Status) (Resource Spec Status))) (kind : Kind)
    (t : Table) (s : Session Item (Resource Spec Status) (Resource Spec Status))
    (Made : Resource Spec Status → Prop) : Prop :=
  Ends (Pipeline.runSteps steps) s
    (fun _ s' => ∃ r, Made r ∧ Leads s.world (stow kind t r) s'.world ∧
      s'.request.call = s.request.call ∧ s'.request.newState = some r ∧
      Placed kind r s.request.call s'.world)
    fun _ s' => Leads s.world t s'.world

variable {s : Session Item (Resource Spec Status) (Resource Spec Status)}
  {steps : List (Step Item (Resource Spec Status) (Resource Spec Status))}
  {Made : Resource Spec Status → Prop}

omit [Managed Spec Status] in
/-- The last step before storing leaves the resource that is to be stored. -/
theorem drafts_of_looks_last {step : Step Item (Resource Spec Status) (Resource Spec Status)}
    {P : Request (Resource Spec Status) (Resource Spec Status) → Prop}
    (stored : s.world.store.backing = .memory t) (last : Looks step.run s t P)
    (made : ∀ r, P r → r.call = s.request.call ∧ ∃ state, Made state ∧ r.newState = some state) :
    Drafts [step] t s Made := by
  refine ends_runSteps_of_looks stored last (fun s' leads holds => ?_) fun _ _ leads => leads
  obtain ⟨call, state, made, filled⟩ := made _ holds
  exact ⟨state, made, leads, call, filled⟩

omit [Managed Spec Status] in
/-- A step that only looks comes before. -/
theorem drafts_of_looks {step : Step Item (Resource Spec Status) (Resource Spec Status)}
    {P : Request (Resource Spec Status) (Resource Spec Status) → Prop}
    (stored : s.world.store.backing = .memory t) (first : Looks step.run s t P)
    (rest : ∀ s', Leads s.world t s'.world → P s'.request →
      s'.request.call = s.request.call ∧ Drafts steps t s' Made) :
    Drafts (step :: steps) t s Made := by
  refine ends_runSteps_of_looks stored first (fun s' leads holds => ?_) fun _ _ leads => leads
  obtain ⟨call, drafts⟩ := rest s' leads holds
  refine Ends.imp drafts ?_ fun _ _ more => leads.trans more
  rintro _ s'' ⟨r, made, more, call', filled⟩
  exact ⟨r, made, leads.trans more, call'.trans call, filled⟩

/-- Storing comes last. -/
theorem Drafts.stows (own : s.request.call.kind = some kind)
    (drafts : Drafts steps t s Made) : Stows (steps ++ [persist]) kind t s Made := by
  unfold Stows
  rw [ends_runSteps_append]
  refine Ends.imp drafts ?_ fun _ _ leads => leads
  rintro _ s' ⟨r, made, leads, call, filled⟩
  rw [ends_runSteps_cons]
  refine ⟨fun _ => ?_, fun _ _ => leads⟩
  have own' : s'.request.call.kind = some kind := by rw [call, own]
  refine (ends_persist leads.stored own' filled).imp ?_ fun _ _ more => leads.trans more
  rintro _ s'' ⟨more, same, placed⟩
  rw [same, call] at placed
  exact ⟨r, made, leads.trans more, by rw [same, call], by rw [same, filled], placed⟩

/-- The steps of a creation up to storing. -/
def createDraft : List (Step Item (Resource Spec Status) (Resource Spec Status)) :=
  [validate, resolveSlug, checkDuplicate, buildNewState]

/-- The steps of an update up to storing. -/
def updateDraft : List (Step Item (Resource Spec Status) (Resource Spec Status)) :=
  [validate, resolveSlug, loadExisting, buildUpdateState]

/-- The steps that create make a new resource of the input. -/
theorem drafts_create (stored : s.world.store.backing = .memory t)
    (own : s.request.call.kind = some kind)
    (filled : s.request.newState = some s.request.input) :
    Drafts createDraft t s (Created kind t s.world.ids s.request.input) := by
  refine drafts_of_looks stored (looks_validate stored) ?_
  rintro s₁ leads₁ ⟨same₁, valid⟩
  refine ⟨by rw [same₁], drafts_of_looks leads₁.stored
    (looks_resolveSlug leads₁.stored (by rw [same₁, filled])) ?_⟩
  rintro s₂ leads₂ ⟨slug, resolved, same₂⟩
  have own₂ : s₂.request.call.kind = some kind := by rw [same₂, same₁, own]
  refine ⟨by rw [same₂], drafts_of_looks leads₂.stored
    (looks_checkDuplicate leads₂.stored own₂ (by rw [same₂])) ?_⟩
  rintro s₃ leads₃ ⟨same₃, free⟩
  refine ⟨by rw [same₃], drafts_of_looks_last leads₃.stored
    (looks_buildNewState leads₃.stored (by rw [same₃, own₂]) (by rw [same₃, same₂])) ?_⟩
  rintro r ⟨id, now, named, same₄⟩
  refine ⟨by rw [same₄], _, ?_, by rw [same₄]⟩
  -- The id was made after the texts that the earlier steps have drawn.
  have earlier := (leads₁.trans leads₂).trans leads₃
  exact ⟨valid, free, named.of_leads earlier, slug, id, now, resolved, rfl⟩

/-- The steps that update make the next version of a stored resource. -/
theorem drafts_update (stored : s.world.store.backing = .memory t)
    (own : s.request.call.kind = some kind)
    (filled : s.request.newState = some s.request.input) :
    Drafts updateDraft t s fun r => ∃ old, Revised kind t s.request.input old r := by
  refine drafts_of_looks stored (looks_validate stored) ?_
  rintro s₁ leads₁ ⟨same₁, valid⟩
  refine ⟨by rw [same₁], drafts_of_looks leads₁.stored
    (looks_resolveSlug leads₁.stored (by rw [same₁, filled])) ?_⟩
  rintro s₂ leads₂ ⟨slug, resolved, same₂⟩
  have own₂ : s₂.request.call.kind = some kind := by rw [same₂, same₁, own]
  refine ⟨by rw [same₂], drafts_of_looks leads₂.stored
    (looks_loadExisting leads₂.stored own₂) ?_⟩
  rintro s₃ leads₃ ⟨newState, old, meant, same₃⟩
  refine ⟨by rw [same₃], drafts_of_looks_last leads₃.stored
    (looks_buildUpdateState leads₃.stored (by rw [same₃])) ?_⟩
  rintro r ⟨now, moment, next, same₄⟩
  rw [same₂] at meant
  refine ⟨by rw [same₄], _,
    ⟨old, valid, ⟨_, ⟨slug, resolved, rfl⟩, meant⟩, now, moment, next, rfl⟩, ?_⟩
  rw [same₄, same₃, same₂, same₁]

/-- The steps that create store a new resource made of the input. -/
theorem stows_createSteps (stored : s.world.store.backing = .memory t)
    (own : s.request.call.kind = some kind)
    (filled : s.request.newState = some s.request.input) :
    Stows Standard.createSteps kind t s (Created kind t s.world.ids s.request.input) :=
  (drafts_create stored own filled).stows own

/-- The steps that update store the next version of a stored resource. -/
theorem stows_updateSteps (stored : s.world.store.backing = .memory t)
    (own : s.request.call.kind = some kind)
    (filled : s.request.newState = some s.request.input) :
    Stows Standard.updateSteps kind t s fun r => ∃ old, Revised kind t s.request.input old r :=
  (drafts_update stored own filled).stows own

end Lines

end Steward
