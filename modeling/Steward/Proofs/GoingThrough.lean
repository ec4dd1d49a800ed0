import Steward.Proofs.Services

/-!
# What goes through

Where the front of the store was not told to fail, an operation whose demands are met ends with a
value, however long the store takes; nothing but the end of its own call can break it off. What the
values are follows from what operations leave behind, whether they go through or not. Main
statements: `goes_create`, `goes_update`, `goes_apply` and `goes_get`.
-/

namespace Steward

open Store

/-- The empty text cannot stand in a key. -/
theorem ne_empty_of_checkKey {kind : Kind} {id : String}
    (accepted : checkKey ⟨kind.name, id⟩ = .ok ()) : id ≠ "" := by
  rintro rfl
  cases kind <;> exact absurd accepted (by decide)

/-! ## Operations -/

section Worlds

variable {Item α β : Type} {call : Call} {w w' : World Item} {t : Table}

/-- The operation ends with a value of which `Q` holds, unless its call breaks it off. -/
def Gives (call : Call) (op : Op Item α) (w : World Item) (Q : α → Prop) : Prop :=
  Ends op w (fun a _ => Q a) fun stop _ => Halts call w stop

/-- The operation ends with a value, unless its call breaks it off. -/
def Goes (call : Call) (op : Op Item α) (w : World Item) : Prop :=
  Gives call op w fun _ => True

theorem gives_pure {a : α} {Q : α → Prop} (holds : Q a) :
    Gives call (pure a : Op Item α) w Q :=
  holds

/-- An operation that only looks, and what follows it with the value that it gives. -/
theorem Gives.bind {op : Op Item β} {next : β → Op Item α} {P P' : β → Prop} {Q : α → Prop}
    (gives : Gives call op w P) (reads : Reads op w t P')
    (rest : ∀ b w', Leads w t w' → P b → P' b → Gives call (next b) w' Q) :
    Gives call (op >>= next) w Q := by
  unfold Gives
  rw [ends_bind]
  refine (Ends.and gives reads).imp ?_ fun _ _ ⟨halts, _⟩ => halts
  rintro b w' ⟨given, leads, read⟩
  exact Ends.imp (rest b w' leads given read) (fun _ _ holds => holds)
    fun _ _ halts => halts.of_leads leads

/-- The same in a world that came before. -/
theorem Goes.of_leads {op : Op Item α} (leads : Leads w t w') (goes : Goes call op w') :
    Ends op w' (fun _ _ => True) fun stop _ => Halts call w stop :=
  Ends.imp goes (fun _ _ _ => trivial) fun _ _ halts => halts.of_leads leads

/-- Of an operation that goes through, whatever else is known holds of its outcome, unless its call
was disturbed. -/
theorem Goes.outcome {op : Op Item α} {Q : α → World Item → Prop} {E : Stop → World Item → Prop}
    (goes : Goes call op w) (ends : Ends op w Q E) (still : w.timeline.Undisturbed call) :
    ∃ a w', op.outcome w = (.ok a, w') ∧ Q a w' := by
  obtain ⟨a, w', outcome, -, holds⟩ | ⟨stop, w', -, halts, -⟩ := (Ends.and goes ends).outcome_cases
  · exact ⟨a, w', outcome, holds⟩
  · exact absurd still halts.disturbed

/-! ## Operations of the store -/

section Stores

variable (faultless : w.store.faults = {}) (stored : w.store.backing = .memory t)
include faultless stored

theorem gives_fetch (key : Key) : Gives call (Op.fetch call key) w (· = t.fetch key) := by
  refine ends_delayed stored (fun timeline _ _ => ?_) fun _ _ _ halts => halts
  rw [ends_onStore]
  simp only [Store.get, faultless, stored]

theorem gives_list (name : String) :
    Gives call (Op.list call name) w (· = .ok (t.valuesOf name)) := by
  refine ends_delayed stored (fun timeline _ _ => ?_) fun _ _ _ halts => halts
  rw [ends_onStore]
  simp only [Store.list, Store.contents, faultless, stored]

theorem gives_put {key : Key} (accepted : checkKey key = .ok ()) (value : ByteArray) :
    Gives call (Op.put call key value) w (· = .ok ()) := by
  refine ends_delayed stored (fun timeline _ _ => ?_) fun _ _ _ halts => halts
  unfold Op.storePut
  rw [ends_bind, ends_get]
  simp only [stored, ends_onStore, Store.put, faultless, Table.store, accepted]

theorem gives_delete {key : Key} {value : ByteArray} (found : t.get? key = some value) :
    Gives call (Op.delete call key) w (· = .ok ()) := by
  refine ends_delayed stored (fun timeline _ _ => ?_) fun _ _ _ halts => halts
  rw [ends_onStore]
  simp only [Store.delete, faultless, stored, Table.remove, found]

/-! ## Operations of the catalog -/

open Catalog

variable {Spec Status : Type} [Managed Spec Status] {kind : Kind}

theorem goes_load {id : String} {r : Resource Spec Status} (held : Holds kind t id r) :
    Goes call (load call kind id : Op Item (Resource Spec Status)) w := by
  obtain ⟨bytes, found, read⟩ := held
  refine Gives.bind (gives_fetch faultless stored _) (reads_fetch call _ stored) ?_
  rintro _ w' leads rfl -
  simp only [Table.fetch, found, read]
  exact gives_pure trivial

/-- What is found for a natural key are different resources. -/
theorem gives_findByKey (kept : KindKept Spec Status kind t) (scope : OwnerScope) (slug : String) :
    Gives call (findByKey call kind scope slug : Op Item (List (Resource Spec Status))) w
      (List.Pairwise fun r r' => r.id ≠ r'.id) := by
  obtain ⟨resources, decoded⟩ := kept.decodeAll
  refine Gives.bind (gives_list faultless stored _) (reads_list call stored _) ?_
  rintro _ w' leads rfl -
  simp only [Except.bind, decoded]
  exact gives_pure ((kept.pairwise_decodeAll decoded).filter _)

omit faultless stored [Managed Spec Status] in
/-- Among different resources of which any two are the same there are not several. -/
theorem goes_unique? {slug : String} {scope : OwnerScope} {found : List (Resource Spec Status)}
    (apart : found.Pairwise fun r r' => r.id ≠ r'.id)
    (same : ∀ r ∈ found, ∀ r' ∈ found, r.id = r'.id) :
    Goes call (unique? kind slug scope found : Op Item _) w := by
  match found with
  | [] => exact gives_pure trivial
  | [_] => exact gives_pure trivial
  | first :: second :: _ =>
    refine absurd (same first (by simp) second (by simp)) ?_
    exact (List.pairwise_cons.1 apart).1 second (by simp)

/-- Where natural keys are unique, the stored resource with one of them is found. -/
theorem goes_loadByKey (kept : KindKept Spec Status kind t) {id : String}
    {old : Resource Spec Status} (held : Holds kind t id old) :
    Goes call (loadByKey call kind old.metadata.scope old.metadata.slug :
      Op Item (Resource Spec Status)) w := by
  refine Gives.bind (gives_findByKey faultless stored kept _ _)
    (reads_findByKey call kind stored _ _) ?_
  intro found w' leads apart listed
  have inside : old ∈ found := (listed old).2 ⟨⟨id, held⟩, rfl, rfl⟩
  have same : ∀ r ∈ found, r = old := by
    intro r inside
    obtain ⟨⟨id', held'⟩, key⟩ := (listed r).1 inside
    obtain rfl := kept.unique id' id r old held' held key
    exact held'.unique held
  have goes : Goes call (unique? kind old.metadata.slug old.metadata.scope found : Op Item _) w' :=
    goes_unique? apart fun r inside r' inside' => by rw [same r inside, same r' inside']
  refine Gives.bind goes (reads_unique? kind leads.stored _ _ found) ?_
  rintro only w'' more - rfl
  cases only with
  | none => cases inside
  | some r => exact gives_pure trivial

theorem goes_persistResource {r : Resource Spec Status}
    (accepted : checkKey ⟨kind.name, r.id⟩ = .ok ()) :
    Goes call (persistResource call kind r : Op Item Unit) w := by
  unfold Goes Gives persistResource
  rw [ends_unless]
  refine ⟨fun unnamed => absurd unnamed (ne_empty_of_checkKey accepted), fun _ => ?_⟩
  rw [ends_bind]
  refine Ends.imp (gives_put faultless stored accepted r.encode) ?_ fun _ _ halts => halts
  rintro _ w' rfl
  trivial

end Stores

end Worlds

/-! ## Steps -/

section Steps

open Catalog

/-- The work comes to its end, unless its call breaks it off. -/
def Passes {Item Input R : Type} (work : Work Item Input R Unit) (s : Session Item Input R) :
    Prop :=
  Ends work s (fun _ _ => True) fun stop _ => Halts s.request.call s.world stop

/-- A step that only looks, and then the others. -/
theorem passes_cons {Item Input R : Type} {s : Session Item Input R} {t : Table}
    {step : Step Item Input R} {steps : List (Step Item Input R)} {P : Request Input R → Prop}
    (passes : Passes step.run s) (looks : Looks step.run s t P)
    (rest : ∀ s', Leads s.world t s'.world → P s'.request →
      s'.request.call = s.request.call ∧ Passes (Pipeline.runSteps steps) s') :
    Passes (Pipeline.runSteps (step :: steps)) s := by
  unfold Passes
  rw [ends_runSteps_cons]
  refine ⟨fun _ => ?_, fun _ failed => halts_of_check failed⟩
  refine (Ends.and passes looks).imp ?_ fun _ _ ⟨halts, _⟩ => halts
  rintro _ s' ⟨-, leads, holds⟩
  obtain ⟨same, passes⟩ := rest s' leads holds
  refine Ends.imp passes (fun _ _ _ => trivial) fun _ _ halts => ?_
  rw [same] at halts
  exact halts.of_leads leads

/-- The last step. -/
theorem passes_last {Item Input R : Type} {s : Session Item Input R} {step : Step Item Input R}
    (passes : Passes step.run s) : Passes (Pipeline.runSteps [step]) s := by
  unfold Passes
  rw [ends_runSteps_cons]
  exact ⟨fun _ => passes, fun _ failed => halts_of_check failed⟩

variable {Item Spec Status : Type} [Managed Spec Status] {t : Table} {kind : Kind}
  {s : Session Item (Resource Spec Status) (Resource Spec Status)} {state : Resource Spec Status}

theorem passes_validate (valid : s.request.input.violation? = none) : Passes validate.run s := by
  refine ends_validate (fun _ => trivial) fun violation found => ?_
  rw [valid] at found
  cases found

omit [Managed Spec Status] in
theorem passes_resolveSlug (filled : s.request.newState = some state) {slug : String}
    (resolved : resolvedSlug state.metadata = .ok slug) : Passes resolveSlug.run s := by
  refine ends_resolveSlug filled (fun _ _ => trivial) fun failure unresolved => ?_
  rw [resolved] at unresolved
  cases unresolved

theorem passes_buildNewState (own : s.request.call.kind = some kind)
    (filled : s.request.newState = some state) : Passes buildNewState.run s := by
  have seeded : s.request.seed = s.request := by simp [Request.seed, filled]
  refine ends_buildNewState (by rw [seeded, filled]) (forall_kind own ?_) (not_noKind own)
  unfold idOrNew
  split <;> exact trivial

/-- There is a next moment, whatever the clock says. -/
def Timely (previous : Option Timestamp) : Prop :=
  ∀ now, ∃ moment, Timestamp.next? previous now = some moment

/-- Where there is a next moment, choosing it does not break off. -/
theorem ends_nextUpdate_timely {Input R : Type} {s : Session Item Input R}
    {previous : Option Timestamp} {Q : Timestamp → Session Item Input R → Prop}
    {E : Stop → Session Item Input R → Prop} (timely : Timely previous)
    (chosen : ∀ moment s', Q moment s') : Ends (nextUpdate previous) s Q E := by
  unfold nextUpdate
  rw [ends_bind, ends_perform, Op.readClock, ends_modifyGet]
  obtain ⟨moment, next⟩ := timely s.world.clock.next.1
  simp only [next]
  exact chosen moment _

theorem passes_buildUpdateState {old : Resource Spec Status}
    (filled : s.request.existing = some old) (timely : Timely old.metadata.updatedAt) :
    Passes buildUpdateState.run s :=
  ends_buildUpdateState filled (ends_nextUpdate_timely timely fun _ _ => trivial)

section Stores

variable (faultless : s.world.store.faults = {}) (stored : s.world.store.backing = .memory t)
  (own : s.request.call.kind = some kind)
include faultless stored own

theorem passes_checkDuplicate (kept : KindKept Spec Status kind t)
    (filled : s.request.newState = some state) (there : state.metadata.slug ≠ "")
    (free : KeyFree kind t state) : Passes checkDuplicate.run s := by
  refine ends_checkDuplicate filled (forall_kind own fun _ => ?_)
    (fun blank => absurd blank there) (not_noKind own)
  refine (Ends.and (gives_findByKey faultless stored kept _ _)
    (reads_findByKey s.request.call kind stored _ _)).imp ?_ fun _ _ ⟨halts, _⟩ => halts
  rintro found w ⟨-, leads, listed⟩
  refine ⟨fun _ => trivial, fun taken others some => ?_⟩
  obtain ⟨⟨id, held⟩, same⟩ := (listed taken).1 (by simp [some])
  exact absurd same (free id taken held)

theorem passes_loadForApply (kept : KindKept Spec Status kind t)
    (filled : s.request.newState = some state) : Passes loadForApply.run s := by
  refine ends_loadForApply filled (forall_kind own ?_) (not_noKind own)
  refine (Ends.and (gives_findByKey faultless stored kept _ _)
    (reads_findByKey s.request.call kind stored _ _)).imp ?_ fun _ _ ⟨halts, _⟩ => halts
  rintro found w ⟨apart, leads, listed⟩
  have same : ∀ r ∈ found, ∀ r' ∈ found, r.id = r'.id := by
    intro r inside r' inside'
    obtain ⟨⟨id, held⟩, scope, slug⟩ := (listed r).1 inside
    obtain ⟨⟨id', held'⟩, scope', slug'⟩ := (listed r').1 inside'
    rw [(kept.of_holds held).1, (kept.of_holds held').1]
    exact kept.unique id id' r r' held held' ⟨scope.trans scope'.symm, slug.trans slug'.symm⟩
  have goes : Goes s.request.call
      (unique? kind state.metadata.slug state.metadata.scope found) w := goes_unique? apart same
  exact goes.of_leads leads

theorem passes_loadExisting {old : Resource Spec Status}
    (chosen : (s.request.newState.getD s.request.input).id ≠ "")
    (held : Holds kind t (s.request.newState.getD s.request.input).id old) :
    Passes loadExisting.run s :=
  ends_loadExisting (forall_kind own fun _ => goes_load faultless stored held)
    (forall_kind own fun unchosen _ => absurd unchosen chosen)
    (fun unchosen _ => absurd unchosen chosen) (not_noKind own)

/-- The stored resource that is meant by the one at hand is found, by its id or by its natural
key. -/
theorem passes_loadMeant (kept : KindKept Spec Status kind t) {old : Resource Spec Status}
    (meant : Meant kind t (s.request.newState.getD s.request.input) old) :
    Passes loadExisting.run s := by
  rcases meant with ⟨chosen, held⟩ | ⟨unchosen, ⟨id, held⟩, scope, slug⟩
  · exact passes_loadExisting faultless stored own chosen held
  · refine ends_loadExisting (forall_kind own fun chosen => absurd unchosen chosen)
      (forall_kind own fun _ _ => ?_) (fun _ unnamed => ?_) (not_noKind own)
    · rw [← scope, ← slug]
      exact goes_loadByKey faultless stored kept held
    · -- No resource without a slug is stored.
      rw [← slug] at unnamed
      exact absurd unnamed (kept.of_holds held).2.slug

theorem passes_persist (filled : s.request.newState = some state)
    (accepted : checkKey ⟨kind.name, state.id⟩ = .ok ()) : Passes persist.run s := by
  refine ends_persistNewState filled (forall_kind own ?_) (not_noKind own)
  exact goes_persistResource faultless stored accepted

end Stores

theorem passes_loadTarget {s : Session Item String (Resource Spec Status)}
    {r : Resource Spec Status} (faultless : s.world.store.faults = {})
    (stored : s.world.store.backing = .memory t) (own : s.request.call.kind = some kind)
    (unnoted : s.request.contains resourceIdNote = false)
    (named : Text.trim s.request.input ≠ "") (held : Holds kind t (Text.trim s.request.input) r) :
    Passes (loadTarget : Step Item String (Resource Spec Status)).run s := by
  refine ends_loadTarget (forall_kind own fun id same _ => ?_)
    (fun blank => absurd (blank unnoted) named) (fun noted _ => ?_) (not_noKind own)
  · rw [same unnoted]
    exact goes_load faultless stored held
  · rw [unnoted] at noted
    cases noted

/-- Where natural keys are unique, a reference to a stored resource finds it. -/
theorem passes_loadByReference {s : Session Item Reference (Resource Spec Status)} {id : String}
    {r : Resource Spec Status} (faultless : s.world.store.faults = {})
    (stored : s.world.store.backing = .memory t) (own : s.request.call.kind = some kind)
    (kept : KindKept Spec Status kind t) (held : Holds kind t id r)
    (found : Found kind t s.request.input r)
    (fits : checkReferenceKind s.request.input kind = .ok ()) :
    Passes (loadByReference : Step Item Reference (Resource Spec Status)).run s := by
  refine ends_loadByReference (forall_kind own fun _ _ => ?_) (fun blank => ?_)
    (fun kind' failure own' refused => ?_) (not_noKind own)
  · rw [← found.scope, ← found.slug]
    exact goes_loadByKey faultless stored kept held
  · rw [found.there] at blank
    cases blank
  · obtain rfl : kind = kind' := Option.some.inj (own.symm.trans own')
    rw [fits] at refused
    cases refused

theorem passes_extractResourceId {R : Type} {s : Session Item String R}
    (named : Text.trim s.request.input ≠ "") : Passes extractResourceId.run s := by
  simp only [Passes, extractResourceId, ends_bind, ends_request, ends_work_unless, Work.leave,
    ends_modifyRequest]
  exact ⟨fun blank => absurd blank named, fun _ => trivial⟩

section Removal

variable {s : Session Item String (Resource Spec Status)} {id : String} {r : Resource Spec Status}
  (faultless : s.world.store.faults = {}) (stored : s.world.store.backing = .memory t)
  (own : s.request.call.kind = some kind)
  (noted : s.request.find? resourceIdNote Note.text? = some id) (held : Holds kind t id r)
include faultless stored own noted held

theorem passes_loadExistingForDelete :
    Passes (loadExistingForDelete : Step Item String (Resource Spec Status)).run s := by
  refine ends_loadExistingForDelete (forall_kind own fun id' noted' => ?_) (fun missing => ?_)
    (not_noKind own)
  · obtain rfl : id = id' := Option.some.inj (noted.symm.trans noted')
    exact goes_load faultless stored held
  · rw [noted] at missing
    cases missing

theorem passes_deleteResource :
    Passes (deleteResource : Step Item String (Resource Spec Status)).run s := by
  refine ends_deleteStep (forall_kind own fun id' noted' => ?_) (fun missing => ?_)
    (not_noKind own)
  · obtain rfl : id = id' := Option.some.inj (noted.symm.trans noted')
    obtain ⟨bytes, found, -⟩ := held
    refine Ends.imp (gives_delete faultless stored found) ?_ fun _ _ halts => halts
    rintro _ w rfl
    exact ⟨fun _ => trivial, nofun⟩
  · rw [noted] at missing
    cases missing

end Removal

end Steps

/-! ## Pipelines -/

section Pipelines

open Catalog

variable {Item Spec Status : Type} [Managed Spec Status] {call : Call} {kind : Kind}
  {w : World Item} {t : Table} {input : Resource Spec Status}

theorem goes_write {p : Pipeline Item (Resource Spec Status) (Resource Spec Status)}
    {Made : Resource Spec Status → Prop} (seeds : p.seeds = true)
    (passes : Passes (Pipeline.runSteps p.steps) (seededSession w call input))
    (stows : Stows p.steps kind t (seededSession w call input) Made) :
    Goes call (p.write call input) w := by
  unfold Goes Gives Pipeline.write
  rw [ends_bind, ends_execute, seeds]
  refine (Ends.and passes stows).imp ?_ fun _ _ ⟨halts, _⟩ => halts
  rintro _ s' ⟨-, r, -, -, -, filled, -⟩
  rw [Request.getNewState, filled]
  exact trivial

/-- The steps with which pipelines begin that take a resource: a valid input gets its slug. -/
theorem passes_begin {steps : List (Step Item (Resource Spec Status) (Resource Spec Status))}
    (stored : w.store.backing = .memory t) (valid : input.violation? = none) {slug : String}
    (resolved : resolvedSlug input.metadata = .ok slug)
    (rest : ∀ s, Leads w t s.world →
      s.request = { Request.seeded call input with
        newState := some (input.withMetadata fun m => { m with slug := slug }) } →
      Passes (Pipeline.runSteps steps) s) :
    Passes (Pipeline.runSteps (validate :: resolveSlug :: steps)) (seededSession w call input) := by
  refine passes_cons (passes_validate valid) (looks_validate stored) ?_
  rintro s₁ leads₁ ⟨same₁, -⟩
  have filled : s₁.request.newState = some input := by rw [same₁]; rfl
  refine ⟨by rw [same₁], passes_cons (passes_resolveSlug filled resolved)
    (looks_resolveSlug leads₁.stored filled) ?_⟩
  rintro s₂ leads₂ ⟨slug', resolved', same₂⟩
  obtain rfl : slug = slug' := Except.ok.inj (resolved.symm.trans resolved')
  exact ⟨by rw [same₂], rest s₂ (leads₁.trans leads₂) (by rw [same₂, same₁]; rfl)⟩

variable (faultless : w.store.faults = {}) (stored : w.store.backing = .memory t)
  (own : call.kind = some kind)
include faultless stored own

/-- The steps that create come to their end with a valid resource of which the natural key is free
and the id can stand in a key. -/
theorem passes_createSteps (kept : KindKept Spec Status kind t) (valid : input.violation? = none)
    {slug : String} (resolved : resolvedSlug input.metadata = .ok slug)
    (free : KeyFree kind t (input.withMetadata fun m => { m with slug := slug }))
    (accepted : ∀ id, IdFor kind w.ids input.id id → checkKey ⟨kind.name, id⟩ = .ok ()) :
    Passes (Pipeline.runSteps Standard.createSteps) (seededSession w call input) := by
  refine passes_begin stored valid resolved fun s₁ leads₁ same₁ => ?_
  have own₁ : s₁.request.call.kind = some kind := by rw [same₁]; exact own
  have filled₁ : s₁.request.newState =
      some (input.withMetadata fun m => { m with slug := slug }) := by rw [same₁]
  refine passes_cons (passes_checkDuplicate (leads₁.faultless faultless) leads₁.stored own₁ kept
    filled₁ (resolvedSlug_eq_ok resolved).1 free)
    (looks_checkDuplicate leads₁.stored own₁ filled₁) ?_
  rintro s₂ leads₂ ⟨same₂, -⟩
  have leads₂ := leads₁.trans leads₂
  rw [← same₂] at own₁ filled₁
  refine ⟨by rw [same₂], passes_cons (passes_buildNewState own₁ filled₁)
    (looks_buildNewState leads₂.stored own₁ filled₁) ?_⟩
  rintro s₃ leads₃ ⟨id, now, named, same₃⟩
  have own₃ : s₃.request.call.kind = some kind := by rw [same₃]; exact own₁
  have filled₃ : s₃.request.newState = some (stamped kind id now
      (input.withMetadata fun m => { m with slug := slug })) := by rw [same₃]
  have leads₃ := leads₂.trans leads₃
  exact ⟨by rw [same₃], passes_last (passes_persist (leads₃.faultless faultless) leads₃.stored own₃
    filled₃ (accepted id (named.of_leads leads₂)))⟩

/-- A valid resource with a natural key that is free is created under an id that can stand in a
key. -/
theorem goes_create (kept : KindKept Spec Status kind t) (valid : input.violation? = none)
    {slug : String} (resolved : resolvedSlug input.metadata = .ok slug)
    (free : KeyFree kind t (input.withMetadata fun m => { m with slug := slug }))
    (accepted : ∀ id, IdFor kind w.ids input.id id → checkKey ⟨kind.name, id⟩ = .ok ()) :
    Goes call ((Standard.create kind).write call input) w :=
  goes_write rfl (passes_createSteps faultless stored own kept valid resolved free accepted)
    (stows_createSteps (s := seededSession w call input) stored own rfl)

/-- The steps that update come to their end with a valid resource that means a stored one. -/
theorem passes_updateSteps (kept : KindKept Spec Status kind t) (valid : input.violation? = none)
    {slug : String} (resolved : resolvedSlug input.metadata = .ok slug)
    {old : Resource Spec Status}
    (meant : Meant kind t (input.withMetadata fun m => { m with slug := slug }) old)
    (accepted : checkKey ⟨kind.name, old.id⟩ = .ok ()) (timely : Timely old.metadata.updatedAt) :
    Passes (Pipeline.runSteps Standard.updateSteps) (seededSession w call input) := by
  refine passes_begin stored valid resolved fun s₁ leads₁ same₁ => ?_
  have own₁ : s₁.request.call.kind = some kind := by rw [same₁]; exact own
  have filled₁ : s₁.request.newState.getD s₁.request.input =
      input.withMetadata fun m => { m with slug := slug } := by rw [same₁]; rfl
  have meant₁ : Meant kind t (s₁.request.newState.getD s₁.request.input) old := by
    rw [filled₁]
    exact meant
  refine passes_cons (passes_loadMeant (leads₁.faultless faultless) leads₁.stored own₁ kept meant₁)
    (looks_loadExisting leads₁.stored own₁) ?_
  rintro s₂ leads₂ ⟨newState, old', meant', same₂⟩
  obtain rfl : old' = old := kept.meant_unique meant' meant₁
  have own₂ : s₂.request.call.kind = some kind := by rw [same₂]; exact own₁
  have filled₂ : s₂.request.existing = some old' := by rw [same₂]
  have leads₂ := leads₁.trans leads₂
  refine ⟨by rw [same₂], passes_cons (passes_buildUpdateState filled₂ timely)
    (looks_buildUpdateState leads₂.stored filled₂) ?_⟩
  rintro s₃ leads₃ ⟨now, moment, -, same₃⟩
  have own₃ : s₃.request.call.kind = some kind := by rw [same₃]; exact own₂
  have filled₃ : s₃.request.newState = some (updated old' s₂.request.input moment) := by rw [same₃]
  have leads₃ := leads₂.trans leads₃
  exact ⟨by rw [same₃], passes_last (passes_persist (leads₃.faultless faultless) leads₃.stored own₃
    filled₃ accepted)⟩

/-- A valid input updates the stored resource that it means. -/
theorem goes_update (kept : KindKept Spec Status kind t) (valid : input.violation? = none)
    {slug : String} (resolved : resolvedSlug input.metadata = .ok slug)
    {old : Resource Spec Status}
    (meant : Meant kind t (input.withMetadata fun m => { m with slug := slug }) old)
    (accepted : checkKey ⟨kind.name, old.id⟩ = .ok ()) (timely : Timely old.metadata.updatedAt) :
    Goes call ((Standard.update kind).write call input) w :=
  goes_write rfl (passes_updateSteps faultless stored own kept valid resolved meant accepted timely)
    (stows_updateSteps (s := seededSession w call input) stored own rfl)

theorem goes_applyLookup (kept : KindKept Spec Status kind t) (valid : input.violation? = none)
    {slug : String} (resolved : resolvedSlug input.metadata = .ok slug) :
    Goes call ((Standard.applyLookup kind).execute { call := call, input := input }) w := by
  unfold Goes Gives
  rw [ends_execute]
  refine passes_begin stored valid resolved fun s leads same => passes_last ?_
  exact passes_loadForApply (leads.faultless faultless) leads.stored (by rw [same]; exact own) kept
    (by rw [same])

/-- A valid input is applied if the creation or the update goes through that it calls for. -/
theorem goes_apply {create update : Call → Resource Spec Status → Op Item (Resource Spec Status)}
    (kept : KindKept Spec Status kind t) (valid : input.violation? = none) {slug : String}
    (resolved : resolvedSlug input.metadata = .ok slug)
    (creates : ∀ w' resolved, Leads w t w' → Resolved input resolved →
      KeyFree kind t resolved → Goes call (create call resolved) w')
    (updates : ∀ w' resolved old, Leads w t w' → Resolved input resolved → SameKey old resolved →
      (∃ id, Holds kind t id old) → Goes call (update call (resolved.withId old.id)) w') :
    Goes call (Standard.apply kind create update call input) w := by
  unfold Standard.apply Goes Gives
  rw [ends_bind]
  refine (Ends.and (goes_applyLookup faultless stored own kept valid resolved)
    (ends_applyLookup stored own)).imp ?_ fun _ _ ⟨halts, _⟩ => halts
  rintro request w' ⟨-, leads, resolved, made, outcome⟩
  rw [ends_bind, Request.getNewState]
  rcases outcome with ⟨free, filled, flagged⟩ | ⟨old, same, held, filled, flagged⟩
  · rw [filled, flagged]
    exact (creates w' resolved leads made free).of_leads leads
  · rw [filled, flagged]
    exact (updates w' resolved old leads made same held).of_leads leads

omit faultless own [Managed Spec Status] in
/-- A pipeline of one step that leaves a target answers if the step comes to its end. -/
theorem goes_query {Input : Type} {p : Pipeline Item Input (Resource Spec Status)}
    {step : Step Item Input (Resource Spec Status)} {input : Input}
    {P : Resource Spec Status → Prop} (seeds : p.seeds = false) (steps : p.steps = [step])
    (passes : Passes step.run ⟨w, { call := call, input := input }⟩)
    (looks : Looks step.run ⟨w, { call := call, input := input }⟩ t fun r => ∃ target, P target ∧
      r = Request.leave { call := call, input := input } targetNote (.resource target)) :
    Goes call (p.query call input) w := by
  unfold Pipeline.query Pipeline.answerNote Goes Gives
  rw [ends_bind, ends_execute, steps, seeds]
  refine (Ends.and (passes_last passes) (ends_runSteps_of_looks stored looks
    (Q := fun _ s' => (s'.request.find? targetNote Note.resource?).isSome)
    (E := fun _ _ => True) ?_ fun _ _ _ => trivial)).imp ?_ fun _ _ ⟨halts, _⟩ => halts
  · rintro s' - ⟨target, -, same⟩
    rw [ends_runSteps_nil, same, Request.find?_leave_self]
    rfl
  · rintro _ s' ⟨-, found⟩
    obtain ⟨target, noted⟩ := Option.isSome_iff_exists.1 found
    simp only [noted]
    exact trivial

/-- A stored resource can be got. -/
theorem goes_get {id : String} (named : Text.trim id ≠ "") {r : Resource Spec Status}
    (held : Holds kind t (Text.trim id) r) :
    Goes call
      ((Standard.get kind : Pipeline Item String (Resource Spec Status)).query call id) w :=
  goes_query stored rfl rfl (passes_loadTarget (s := ⟨w, { call := call, input := id }⟩)
    faultless stored own rfl named held) (looks_loadTarget stored own rfl)

/-- A stored resource is found by its natural key. -/
theorem goes_getByReference {reference : Reference} (kept : KindKept Spec Status kind t)
    {id : String} {r : Resource Spec Status} (held : Holds kind t id r)
    (found : Found kind t reference r) (fits : checkReferenceKind reference kind = .ok ()) :
    Goes call ((Standard.getByReference kind :
      Pipeline Item Reference (Resource Spec Status)).query call reference) w :=
  goes_query stored rfl rfl (passes_loadByReference (s := ⟨w, { call := call, input := reference }⟩)
    faultless stored own kept held found fits) (looks_loadByReference stored own)

/-- A stored resource can be deleted. -/
theorem goes_delete {id : String} (named : Text.trim id ≠ "") {r : Resource Spec Status}
    (held : Holds kind t (Text.trim id) r) :
    Goes call
      ((Standard.delete kind : Pipeline Item String (Resource Spec Status)).remove call id) w := by
  have passes : Passes (Pipeline.runSteps
      (Standard.delete kind : Pipeline Item String (Resource Spec Status)).steps)
      ⟨w, { call := call, input := id }⟩ := by
    refine passes_cons (passes_extractResourceId named) (looks_extractResourceId stored) ?_
    intro s₁ leads₁ same₁
    have own₁ : s₁.request.call.kind = some kind := by rw [same₁]; exact own
    have noted₁ : s₁.request.find? resourceIdNote Note.text? = some (Text.trim id) := by
      rw [same₁, Request.find?_leave_self]
      rfl
    have faultless₁ := leads₁.faultless faultless
    refine ⟨by rw [same₁]; rfl, passes_cons
      (passes_loadExistingForDelete faultless₁ leads₁.stored own₁ noted₁ held)
      (looks_loadExistingForDelete leads₁.stored own₁ noted₁) ?_⟩
    rintro s₂ leads₂ ⟨old, held₂, same₂⟩
    have own₂ : s₂.request.call.kind = some kind := by rw [same₂]; exact own₁
    have noted₂ : s₂.request.find? resourceIdNote Note.text? = some (Text.trim id) := by
      rw [same₂, Request.find?_leave_of_ne _ _ _ (by decide)]
      exact noted₁
    exact ⟨by rw [same₂]; rfl, passes_last (passes_deleteResource (leads₂.faultless faultless₁)
      leads₂.stored own₂ noted₂ held₂)⟩
  unfold Pipeline.remove Pipeline.answerNote Goes Gives
  rw [ends_bind, ends_execute]
  refine (Ends.and passes (ends_deleteSteps stored own id)).imp ?_ fun _ _ ⟨halts, _⟩ => halts
  rintro _ s ⟨-, old, -, noted, -⟩
  rw [noted]
  exact trivial

/-- So it is gone afterwards, if nothing is in store for the call. -/
theorem outcome_delete {id : String} (named : Text.trim id ≠ "") {r : Resource Spec Status}
    (held : Holds kind t (Text.trim id) r) (still : w.timeline.Undisturbed call) :
    ∃ w', ((Standard.delete kind : Pipeline Item String (Resource Spec Status)).remove call
      id).outcome w = (.ok r, w') ∧ Leads w (t.erase ⟨kind.name, Text.trim id⟩) w' := by
  obtain ⟨r', w', done, held', leads⟩ :=
    (goes_delete faultless stored own named held).outcome (ends_remove stored own id) still
  obtain rfl := held.unique held'
  exact ⟨w', done, leads⟩

end Pipelines

/-! ## Workflow executions -/

section Executions

open Executions

variable {call : Call} {w : DaemonWorld} {t : Table}

/-- Handing the new state on does not break off what storing it has not. -/
theorem passes_published {steps : List (Step WorkflowExecution WorkflowExecution WorkflowExecution)}
    {s : Session WorkflowExecution WorkflowExecution WorkflowExecution}
    {Made : WorkflowExecution → Prop} (passes : Passes (Pipeline.runSteps steps) s)
    (stows : Stows steps kind t s Made) :
    Passes (Pipeline.runSteps (steps ++ [Catalog.publish])) s := by
  unfold Passes
  rw [ends_runSteps_append]
  refine (Ends.and passes stows).imp ?_ fun _ _ ⟨halts, _⟩ => halts
  rintro _ s' ⟨-, r, -, -, call, filled, placed⟩
  rw [ends_runSteps_cons, call, placed.live]
  exact ⟨fun _ => ends_publish filled trivial, nofun⟩

theorem goes_announced {p : Pipeline WorkflowExecution WorkflowExecution WorkflowExecution}
    {input : WorkflowExecution} {Made : WorkflowExecution → Prop}
    {steps : List (Step WorkflowExecution WorkflowExecution WorkflowExecution)}
    (published : p.steps = steps ++ [Catalog.publish])
    (passes : Passes (Pipeline.runSteps steps)
      ⟨w, if p.seeds then Request.seeded call input else { call := call, input := input }⟩)
    (stows : Stows steps kind t
      ⟨w, if p.seeds then Request.seeded call input else { call := call, input := input }⟩ Made) :
    Goes call (p.write call input) w := by
  unfold Goes Gives Pipeline.write
  rw [ends_bind, ends_execute, published]
  refine (Ends.and (passes_published passes stows) (ends_published stows)).imp ?_
    fun _ _ ⟨halts, _⟩ => ?_
  · rintro _ s' ⟨-, r, -, -, filled, -⟩
    rw [Request.getNewState, filled]
    exact trivial
  · split at halts <;> exact halts

theorem passes_mergeStatus {s : Session WorkflowExecution WorkflowExecution WorkflowExecution}
    {old : WorkflowExecution} (filled : s.request.existing = some old)
    (allowed : checkPhase old s.request.input.status.phase = .ok ())
    (timely : Timely old.metadata.updatedAt) : Passes mergeStatus.run s := by
  refine ends_mergeStatus filled (fun _ => ends_nextUpdate_timely timely fun _ _ => trivial) ?_
  intro failure refused
  rw [allowed] at refused
  cases refused

variable (faultless : w.store.faults = {}) (stored : w.store.backing = .memory t)
  (own : call.kind = some kind) (kept : KindKept ExecutionSpec ExecutionStatus kind t)
  {input : WorkflowExecution}
include faultless stored own kept

/-- The status of a stored execution can be changed to what its phase allows. -/
theorem goes_updateStatus {old : WorkflowExecution} (meant : Meant kind t input old)
    (allowed : checkPhase old input.status.phase = .ok ())
    (accepted : checkKey ⟨kind.name, old.id⟩ = .ok ()) (timely : Timely old.metadata.updatedAt) :
    Goes call (updateStatus call input) w := by
  refine goes_announced (p := statusPipeline) rfl ?_ ((drafts_status stored own rfl).stows own)
  refine passes_cons (passes_loadMeant faultless stored own kept meant)
    (looks_loadExisting stored own) ?_
  rintro s₁ leads₁ ⟨newState, old', meant', same₁⟩
  obtain rfl : old' = old := kept.meant_unique meant' meant
  have own₁ : s₁.request.call.kind = some kind := by rw [same₁]; exact own
  have filled₁ : s₁.request.existing = some old' := by rw [same₁]
  have allowed₁ : checkPhase old' s₁.request.input.status.phase = .ok () := by
    rw [same₁]; exact allowed
  refine ⟨by rw [same₁], passes_cons (passes_mergeStatus filled₁ allowed₁ timely)
    (looks_mergeStatus leads₁.stored filled₁) ?_⟩
  rintro s₂ leads₂ ⟨-, now, moment, -, same₂⟩
  have own₂ : s₂.request.call.kind = some kind := by rw [same₂]; exact own₁
  have filled₂ : s₂.request.newState = some { old' with
      metadata := { old'.metadata with updatedAt := some moment }
      status := s₁.request.input.status } := by rw [same₂]
  have leads₂ := leads₁.trans leads₂
  exact ⟨by rw [same₂], passes_last (passes_persist (leads₂.faultless faultless) leads₂.stored own₂
    filled₂ accepted)⟩

/-- Undisturbed, it is changed, stored and handed on. -/
theorem outcome_updateStatus {old : WorkflowExecution} (meant : Meant kind t input old)
    (allowed : checkPhase old input.status.phase = .ok ())
    (accepted : checkKey ⟨kind.name, old.id⟩ = .ok ()) (timely : Timely old.metadata.updatedAt)
    (still : w.timeline.Undisturbed call) :
    ∃ r w', (updateStatus call input).outcome w = (.ok r, w') ∧ Moved t input old r ∧
      Leads (announced w r) (stow kind t r) w' := by
  have goes := goes_updateStatus faultless stored own kept meant allowed accepted timely
  obtain ⟨r, w', outcome, ⟨old', moved⟩, leads, -⟩ :=
    goes.outcome (announces_updateStatus input stored own) still
  obtain rfl := kept.meant_unique moved.meant meant
  exact ⟨r, w', outcome, moved, leads⟩

end Executions

end Steward
