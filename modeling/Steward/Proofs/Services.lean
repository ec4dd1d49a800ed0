import Steward.Daemon.Basic
import Steward.Proofs.Changes

/-!
# What services do to the table

The operations of the services over a table in memory. Each leaves the table as it is or changes one
value of its kind; the creation of an agent, which changes more than one, has a module of its own.
Main statements: `changes_instances`, `changes_executions` and `ends_apply`.
-/

namespace Steward

open Store

/-! ## Pipelines of a kind -/

section Pipelines

variable {Item Spec Status : Type} [Managed Spec Status] {kind : Kind} {t : Table} {w : World Item}
  {call : Call} {input : Resource Spec Status} {Made : Resource Spec Status → Prop}

/-- The operation ends with a resource of which `Made` holds and which is in place, or it stops and
the table is as before. -/
def Saves (op : Op Item (Resource Spec Status)) (w : World Item) (kind : Kind) (t : Table)
    (Made : Resource Spec Status → Prop) : Prop :=
  Ends op w (fun r w' => Made r ∧ Leads w (stow kind t r) w' ∧ checkKey ⟨kind.name, r.id⟩ = .ok ())
    fun _ w' => Leads w t w'

/-- The same for an operation that may stop after the resource is in place. -/
def SavesOrStops (op : Op Item (Resource Spec Status)) (w : World Item) (kind : Kind) (t : Table)
    (Made : Resource Spec Status → Prop) : Prop :=
  Ends op w (fun r w' => Made r ∧ Leads w (stow kind t r) w')
    fun _ w' => Leads w t w' ∨ ∃ r, Made r ∧ Leads w (stow kind t r) w'

/-- The session in which a pipeline runs that seeds its requests. -/
def seededSession (w : World Item) (call : Call) (input : Resource Spec Status) :
    Session Item (Resource Spec Status) (Resource Spec Status) :=
  ⟨w, Request.seeded call input⟩

theorem saves_write {p : Pipeline Item (Resource Spec Status) (Resource Spec Status)}
    (seeds : p.seeds = true) (stows : Stows p.steps kind t (seededSession w call input) Made) :
    Saves (p.write call input) w kind t Made := by
  unfold Saves Pipeline.write
  rw [ends_bind, ends_execute, seeds]
  refine Ends.imp stows ?_ fun _ _ leads => leads
  rintro _ s' ⟨r, made, leads, -, filled, placed⟩
  rw [Request.getNewState, filled]
  exact ⟨made, leads, placed.accepted⟩

/-- A new resource of a kind is created as the standard pipeline does. -/
theorem saves_create (stored : w.store.backing = .memory t) (own : call.kind = some kind) :
    Saves ((Standard.create kind).write call input) w kind t (Created kind t w.ids input) :=
  saves_write rfl (stows_createSteps stored own rfl)

theorem saves_update (stored : w.store.backing = .memory t) (own : call.kind = some kind) :
    Saves ((Standard.update kind).write call input) w kind t
      fun r => ∃ old, Revised kind t input old r :=
  saves_write rfl (stows_updateSteps stored own rfl)

/-- Looking up what applying means leaves the table as it is; it ends with the input, of which the
slug is resolved, or with the same under the id of the stored resource with its natural key. -/
theorem ends_applyLookup (stored : w.store.backing = .memory t) (own : call.kind = some kind) :
    Ends ((Standard.applyLookup kind).execute { call := call, input := input }) w
      (fun r w' => Leads w t w' ∧ ∃ state, Resolved input state ∧
        ((KeyFree kind t state ∧ r.newState = some state ∧
          r.find? Catalog.shouldCreateNote Note.flag? = some true) ∨
        ∃ old, SameKey old state ∧ (∃ id, Holds kind t id old) ∧
          r.newState = some (state.withId old.id) ∧
          r.find? Catalog.shouldCreateNote Note.flag? = some false))
      fun _ w' => Leads w t w' := by
  rw [ends_execute]
  refine ends_runSteps_of_looks stored (looks_validate stored) ?_ fun _ _ leads => leads
  rintro s₁ leads₁ ⟨same₁, -⟩
  have filled₁ : s₁.request.newState = some input := by rw [same₁]; rfl
  refine ends_runSteps_of_looks leads₁.stored (looks_resolveSlug leads₁.stored filled₁) ?_
    fun _ _ more => leads₁.trans more
  rintro s₂ leads₂ ⟨slug, resolved, same₂⟩
  have own₂ : s₂.request.call.kind = some kind := by rw [same₂, same₁]; exact own
  have earlier := leads₁.trans leads₂
  refine ends_runSteps_of_looks leads₂.stored
    (looks_loadForApply leads₂.stored own₂ (by rw [same₂])) ?_ fun _ _ more => earlier.trans more
  intro s₃ leads₃ outcome
  exact ⟨earlier.trans leads₃, _, ⟨slug, resolved, rfl⟩, outcome⟩

end Pipelines

/-! ## Operations that change one value -/

section Changing

variable {Item α : Type} {Spec Status : Type} [Managed Spec Status] {kind : Kind}

/-- Whatever the table in memory, the operation leaves it as it is or changes one value of the
kind, however it ends. It hands nothing to those who listen. -/
def Changes (Spec Status : Type) [Managed Spec Status] (kind : Kind) (op : Op Item α) : Prop :=
  ∀ w t, w.store.backing = .memory t →
    Ends op w (fun _ w' => ∃ t', Change Spec Status kind t t' ∧ Leads w t' w')
      fun _ w' => ∃ t', Change Spec Status kind t t' ∧ Leads w t' w'

/-- The same for an operation that may hand something to those who listen. -/
def ChangesAside (Spec Status : Type) [Managed Spec Status] (kind : Kind) (op : Op Item α) : Prop :=
  ∀ w t, w.store.backing = .memory t →
    Ends op w (fun _ w' => ∃ t', Change Spec Status kind t t' ∧ LeadsAside w t' w')
      fun _ w' => ∃ t', Change Spec Status kind t t' ∧ LeadsAside w t' w'

theorem Changes.aside {op : Op Item α} (changes : Changes Spec Status kind op) :
    ChangesAside Spec Status kind op := fun w t stored =>
  (changes w t stored).imp (fun _ _ ⟨t', change, leads⟩ => ⟨t', change, leads.aside⟩)
    fun _ _ ⟨t', change, leads⟩ => ⟨t', change, leads.aside⟩

namespace Changes

theorem fail (failure : Failure) :
    Changes Spec Status kind (Op.fail failure : Op Item α) :=
  fun _ t stored => ⟨t, .same, .refl stored⟩

/-- What comes after an operation that leaves the table as it is. -/
theorem after_leads {op : Op Item α} (changes : Changes Spec Status kind op) {w w' : World Item}
    {t : Table} (leads : Leads w t w') :
    Ends op w' (fun _ w'' => ∃ t', Change Spec Status kind t t' ∧ Leads w t' w'')
      fun _ w'' => ∃ t', Change Spec Status kind t t' ∧ Leads w t' w'' :=
  (changes w' t leads.stored).imp (fun _ _ ⟨t', change, more⟩ => ⟨t', change, leads.trans more⟩)
    fun _ _ ⟨t', change, more⟩ => ⟨t', change, leads.trans more⟩

theorem of_saves {op : Op Item (Resource Spec Status)}
    (change : ∀ w t, w.store.backing = .memory t → ∃ Made : Resource Spec Status → Prop,
      Saves op w kind t Made ∧ ∀ r, Made r → Change Spec Status kind t (stow kind t r)) :
    Changes Spec Status kind op := by
  intro w t stored
  obtain ⟨Made, saves, made⟩ := change w t stored
  exact Ends.imp saves (fun r w' ⟨holds, leads, _⟩ => ⟨_, made r holds, leads⟩)
    fun _ w' leads => ⟨t, .same, leads⟩

end Changes

theorem Created.change {t : Table} {ids : Supply String} {input r : Resource Spec Status}
    (created : Created kind t ids input r) : Change Spec Status kind t (stow kind t r) :=
  .add r created.sound created.free

omit [Managed Spec Status] in
/-- A pipeline of one step that only looks, and leaves a target that is answered then. -/
theorem reads_query {Input : Type} {call : Call} {p : Pipeline Item Input (Resource Spec Status)}
    {step : Step Item Input (Resource Spec Status)} {input : Input} {w : World Item} {t : Table}
    {P : Resource Spec Status → Prop} (seeds : p.seeds = false) (steps : p.steps = [step])
    (stored : w.store.backing = .memory t)
    (looks : Looks step.run ⟨w, { call := call, input := input }⟩ t fun r => ∃ target, P target ∧
      r = Request.leave { call := call, input := input } Catalog.targetNote (.resource target)) :
    Reads (p.query call input) w t P := by
  unfold Reads Pipeline.query Pipeline.answerNote
  rw [ends_bind, ends_execute, steps, seeds]
  refine ends_runSteps_of_looks stored looks ?_ fun _ _ leads => leads
  rintro s leads ⟨target, holds, same⟩
  have noted : s.request.find? Catalog.targetNote Note.resource? = some target := by
    rw [same, Request.find?_leave_self]
    rfl
  rw [ends_runSteps_nil, noted]
  exact ⟨leads, holds⟩

/-- What only reads changes nothing. -/
theorem Changes.of_reads {op : Op Item α} {Q : Table → α → Prop}
    (reads : ∀ w t, w.store.backing = .memory t → Reads op w t (Q t)) :
    Changes Spec Status kind op := fun w t stored =>
  Ends.imp (reads w t stored) (fun _ _ ⟨leads, _⟩ => ⟨t, .same, leads⟩)
    fun _ _ leads => ⟨t, .same, leads⟩

variable {call : Call} {w : World Item} {t : Table}

theorem reads_getByReference {reference : Reference} (stored : w.store.backing = .memory t)
    (own : call.kind = some kind) :
    Reads ((Standard.getByReference kind : Pipeline Item Reference (Resource Spec Status)).query
      call reference) w t (Found kind t reference) :=
  reads_query rfl rfl stored (looks_loadByReference stored own)

theorem changes_getByReference (own : call.kind = some kind) (reference : Reference) :
    Changes Spec Status kind
      ((Standard.getByReference kind : Pipeline Item Reference (Resource Spec Status)).query call
        reference) :=
  .of_reads fun _ _ stored => reads_getByReference stored own

theorem reads_get {id : String} (stored : w.store.backing = .memory t)
    (own : call.kind = some kind) :
    Reads ((Standard.get kind : Pipeline Item String (Resource Spec Status)).query call id) w t
      (Holds kind t (Text.trim id)) :=
  reads_query rfl rfl stored (looks_loadTarget stored own rfl)

theorem changes_get (own : call.kind = some kind) (id : String) :
    Changes Spec Status kind
      ((Standard.get kind : Pipeline Item String (Resource Spec Status)).query call id) :=
  .of_reads fun _ _ stored => reads_get stored own

/-- The steps that delete note what is held under the id that the input is, blanks around it aside,
and remove it, or the table is as before. -/
theorem ends_deleteSteps {w : World Item} {t : Table} (stored : w.store.backing = .memory t)
    (own : call.kind = some kind) (input : String) :
    Ends (Pipeline.runSteps
        (Standard.delete kind : Pipeline Item String (Resource Spec Status)).steps)
      ⟨w, { call := call, input := input }⟩
      (fun _ s => ∃ old : Resource Spec Status, Holds kind t (Text.trim input) old ∧
        s.request.find? Catalog.existingNote Note.resource? = some old ∧
        Leads w (t.erase ⟨kind.name, Text.trim input⟩) s.world)
      fun _ s => Leads w t s.world := by
  refine ends_runSteps_of_looks stored (looks_extractResourceId stored) ?_ fun _ _ leads => leads
  intro s₁ leads₁ same₁
  have own₁ : s₁.request.call.kind = some kind := by rw [same₁]; exact own
  have noted₁ : s₁.request.find? Catalog.resourceIdNote Note.text? = some (Text.trim input) := by
    rw [same₁, Request.find?_leave_self]
    rfl
  refine ends_runSteps_of_looks leads₁.stored
    (looks_loadExistingForDelete leads₁.stored own₁ noted₁) ?_ fun _ _ more => leads₁.trans more
  rintro s₂ leads₂ ⟨old, held, same₂⟩
  have earlier := leads₁.trans leads₂
  have own₂ : s₂.request.call.kind = some kind := by rw [same₂]; exact own₁
  have noted₂ : s₂.request.find? Catalog.resourceIdNote Note.text? = some (Text.trim input) := by
    rw [same₂, Request.find?_leave_of_ne _ _ _ (by decide)]
    exact noted₁
  rw [ends_runSteps_cons]
  refine ⟨fun _ => ?_, fun _ _ => earlier⟩
  refine (ends_deleteResource leads₂.stored own₂ noted₂).imp ?_ fun _ _ more => earlier.trans more
  rintro _ s₃ ⟨leads₃, same₃⟩
  refine ⟨old, held, ?_, earlier.trans leads₃⟩
  rw [same₃, same₂, Request.find?_leave_self]
  rfl

/-- What is held under the id is answered and gone, or the table is as before. -/
theorem ends_remove {w : World Item} {t : Table} (stored : w.store.backing = .memory t)
    (own : call.kind = some kind) (input : String) :
    Ends ((Standard.delete kind : Pipeline Item String (Resource Spec Status)).remove call input) w
      (fun r w' => Holds kind t (Text.trim input) r ∧
        Leads w (t.erase ⟨kind.name, Text.trim input⟩) w')
      fun _ w' => Leads w t w' := by
  unfold Pipeline.remove Pipeline.answerNote
  rw [ends_bind, ends_execute]
  refine (ends_deleteSteps stored own input).imp ?_ fun _ _ leads => leads
  rintro _ s ⟨old, held, noted, leads⟩
  rw [noted]
  exact ⟨held, leads⟩

theorem changes_delete (own : call.kind = some kind) (id : String) :
    Changes Spec Status kind
      ((Standard.delete kind : Pipeline Item String (Resource Spec Status)).remove call id) :=
  fun _ t stored => (ends_remove stored own id).imp (fun _ _ ⟨_, leads⟩ => ⟨_, .drop _, leads⟩)
    fun _ _ leads => ⟨t, .same, leads⟩

theorem changes_create (own : call.kind = some kind) (input : Resource Spec Status) :
    Changes Spec Status kind ((Standard.create kind : Pipeline Item _ _).write call input) :=
  .of_saves fun _ _ stored => ⟨_, saves_create stored own, fun _ created => created.change⟩

/-- An update puts the next version of a stored resource in its place. -/
theorem change_of_revised [LawfulManaged Spec Status] {t : Table} {input r : Resource Spec Status}
    (revised : ∃ old, Revised kind t input old r) : Change Spec Status kind t (stow kind t r) := by
  obtain ⟨old, revised⟩ := revised
  exact .renew old r revised.nextVersion

theorem changes_update [LawfulManaged Spec Status] (own : call.kind = some kind)
    (input : Resource Spec Status) :
    Changes Spec Status kind ((Standard.update kind : Pipeline Item _ _).write call input) :=
  .of_saves fun _ _ stored =>
    ⟨_, saves_update stored own, fun _ revised => change_of_revised revised⟩

/-- Applying ends as the creation does that it calls for, or as the update. -/
theorem ends_apply {create update : Call → Resource Spec Status → Op Item (Resource Spec Status)}
    {w : World Item} {t : Table} {input : Resource Spec Status}
    {Q : Resource Spec Status → World Item → Prop} {E : Stop → World Item → Prop}
    (stored : w.store.backing = .memory t) (own : call.kind = some kind)
    (creates : ∀ w' resolved, Leads w t w' → Resolved input resolved →
      KeyFree kind t resolved → Ends (create call resolved) w' Q E)
    (updates : ∀ w' resolved old, Leads w t w' → Resolved input resolved → SameKey old resolved →
      (∃ id, Holds kind t id old) → Ends (update call (resolved.withId old.id)) w' Q E)
    (halted : ∀ stop w', Leads w t w' → E stop w') :
    Ends (Standard.apply kind create update call input) w Q E := by
  unfold Standard.apply
  rw [ends_bind]
  refine (ends_applyLookup stored own).imp ?_ halted
  rintro request w' ⟨leads, resolved, made, outcome⟩
  rw [ends_bind, Request.getNewState]
  rcases outcome with ⟨free, filled, flagged⟩ | ⟨old, same, held, filled, flagged⟩
  · rw [filled, flagged]
    exact creates w' resolved leads made free
  · rw [filled, flagged]
    exact updates w' resolved old leads made same held

theorem changes_apply {create update : Call → Resource Spec Status → Op Item (Resource Spec Status)}
    (own : call.kind = some kind)
    (creates : ∀ input, Changes Spec Status kind (create call input))
    (updates : ∀ input, Changes Spec Status kind (update call input))
    (input : Resource Spec Status) :
    Changes Spec Status kind (Standard.apply kind create update call input) := fun _ t stored =>
  ends_apply stored own (fun _ resolved leads _ _ => (creates resolved).after_leads leads)
    (fun _ _ _ leads _ _ _ => (updates _).after_leads leads)
    fun _ _ leads => ⟨t, .same, leads⟩

end Changing

/-! ## The service of agent instances -/

section Instances

variable {Item : Type} {call : Call}

theorem changes_instances (own : call.kind = some .agentInstance)
    (message : Message AgentInstance) :
    Changes AgentInstanceSpec Unit .agentInstance
      ((AgentInstances.controller : Controller Item AgentInstance).handle call message) := by
  cases message with
  | create resource => exact changes_create own resource
  | update resource => exact changes_update own resource
  | apply resource => exact changes_apply own (changes_create own) (changes_update own) resource
  | delete id => exact changes_delete own id
  | get id => exact changes_get own id
  | getByReference reference => exact changes_getByReference own reference

end Instances

/-! ## Agent instances through their client -/

section Client

variable {w : DaemonWorld} {t : Table} (config : Config) (call : Call) (resource : AgentInstance)

/-- The interceptor knows what the daemon's services declare, and remembers nothing else. -/
structure Declared (i : Interceptor) : Prop where
  declared : i.declared = (Daemon.declareKinds {}).declared
  agrees : i.Agrees

theorem Declared.of_leads {w' : DaemonWorld} (declared : Declared w.interceptor)
    (leads : Leads w t w') : Declared w'.interceptor :=
  ⟨leads.declared.trans declared.declared, leads.agrees declared.agrees⟩

theorem ends_attempt {Item α : Type} {w : World Item} {op : Op Item α}
    {Q : Except Stop α → World Item → Prop} {E : Stop → World Item → Prop} :
    Ends (Op.attempt op) w Q E ↔
      Ends op w (fun a w' => Q (.ok a) w') fun stop w' => Q (.error stop) w' := by
  simp only [Ends, EStateM.run, Op.attempt]
  cases op w <;> rfl

/-- A call for the creation of an instance gets the kind of instances. -/
theorem ends_intercept_create {Q : Call → DaemonWorld → Prop} {E : Stop → DaemonWorld → Prop}
    (stored : w.store.backing = .memory t) (declared : Declared w.interceptor)
    (next : ∀ w', Leads w t w' → Q (call.withKind .agentInstance) w') :
    Ends (Op.intercept (Exchange.methodOf AgentInstances.service (.create resource)) call) w Q E
    := by
  have service : Interceptor.serviceOf?
      (Exchange.methodOf AgentInstances.service (.create resource)) =
        some AgentInstances.service := by
    show Interceptor.serviceOf? s!"/{AgentInstances.service}/create" = _
    decide
  have known : w.interceptor.lookUp AgentInstances.service = some .agentInstance := by
    rw [Interceptor.lookUp, declared.declared]
    decide
  obtain ⟨kinds, agrees, same⟩ := declared.agrees.intercept service known call
  unfold Op.intercept
  rw [ends_modifyGet, kinds]
  exact next _ ⟨stored, rfl, same, fun _ => agrees, rfl, Nat.le_refl _, id, fun _ still => still⟩

/-- An instance that is created through the client is in place when the client has its answer. The
client may give up on an instance that is in place. -/
theorem savesOrStops_send (stored : w.store.backing = .memory t)
    (declared : Declared w.interceptor) :
    SavesOrStops ((Daemon.instances config).send call (.create resource)) w .agentInstance t
      (Created .agentInstance t w.ids resource) := by
  unfold SavesOrStops Endpoint.send
  rw [ends_bind, ends_get, ends_bind, ends_check]
  refine ⟨fun _ => ?_, fun _ _ => Or.inl (.refl stored)⟩
  rw [ends_bind, Op.giveWay, ends_onTimeline, ends_bind]
  -- The call that reaches the service carries the kind of instances, whatever the client's did.
  refine ends_intercept_create _ resource stored declared fun w₁ leads₁ => ?_
  have leads₁ : Leads w t w₁ :=
    (Leads.pass stored (fun _ still => still.giveWay) w.clock).trans leads₁
  rw [ends_bind, ends_attempt]
  refine Ends.imp (saves_create leads₁.stored rfl) ?_ ?_
  · rintro r w₂ ⟨created, leads₂, -⟩
    have created : Created .agentInstance t w.ids resource r := Created.of_leads leads₁ created
    have leads := leads₁.trans leads₂
    rw [ends_bind, ends_check]
    exact ⟨fun _ => ⟨created, leads⟩, fun _ _ => Or.inr ⟨r, created, leads⟩⟩
  · intro stop w₂ leads₂
    have leads := leads₁.trans leads₂
    rw [ends_bind, ends_check]
    refine ⟨fun _ => ?_, fun _ _ => Or.inl leads⟩
    cases stop with
    | failed failure => exact Or.inl leads
    | broken message => exact Or.inl leads

end Client

/-! ## The service of workflow executions -/

section Executions

open Executions

variable {call : Call}

/-- The world in which an execution was handed to those who listen to its id. -/
def announced (w : DaemonWorld) (r : WorkflowExecution) : DaemonWorld :=
  { w with broker := (w.broker.broadcast r.id r).2 }

/-- The operation ends with an execution of which `Made` holds, which is in place and was handed to
those who listen, once; or it stops, the table is as before and nothing was handed to anybody. -/
def Announces (op : Op WorkflowExecution WorkflowExecution) (w : DaemonWorld) (t : Table)
    (Made : WorkflowExecution → Prop) : Prop :=
  Ends op w
    (fun r w' => Made r ∧ Leads (announced w r) (stow kind t r) w' ∧
      checkKey ⟨kind.name, r.id⟩ = .ok ())
    fun _ w' => Leads w t w'

/-- Handing the new state to those who listen comes after it is in place. The call was alive when it
was put there, and no time has passed since, so this is not left out. -/
theorem ends_published {steps : List (Step WorkflowExecution WorkflowExecution WorkflowExecution)}
    {s : Session WorkflowExecution WorkflowExecution WorkflowExecution} {t : Table}
    {Made : WorkflowExecution → Prop} (stows : Stows steps kind t s Made) :
    Ends (Pipeline.runSteps (steps ++ [Catalog.publish])) s
      (fun _ s' => ∃ r, Made r ∧ Leads (announced s.world r) (stow kind t r) s'.world ∧
        s'.request.newState = some r ∧ checkKey ⟨kind.name, r.id⟩ = .ok ())
      fun _ s' => Leads s.world t s'.world := by
  rw [ends_runSteps_append]
  refine Ends.imp stows ?_ fun _ _ leads => leads
  rintro _ s' ⟨r, made, leads, call, filled, placed⟩
  rw [ends_runSteps_cons, call, placed.live]
  refine ⟨fun _ => ?_, nofun⟩
  refine ends_publish filled ?_
  exact ⟨r, made, leads.announce fun b => (b.broadcast r.id r).2, filled, placed.accepted⟩

theorem announces_write {p : Pipeline WorkflowExecution WorkflowExecution WorkflowExecution}
    {input : WorkflowExecution} {w : DaemonWorld} {t : Table} {Made : WorkflowExecution → Prop}
    {steps : List (Step WorkflowExecution WorkflowExecution WorkflowExecution)}
    (published : p.steps = steps ++ [Catalog.publish])
    (stows : Stows steps kind t
      ⟨w, if p.seeds then Request.seeded call input else { call := call, input := input }⟩ Made) :
    Announces (p.write call input) w t Made := by
  unfold Announces Pipeline.write
  rw [ends_bind, ends_execute, published]
  refine (ends_published stows).imp ?_ fun _ _ leads => leads
  rintro _ s' ⟨r, made, leads, filled, accepted⟩
  rw [Request.getNewState, filled]
  exact ⟨made, leads, accepted⟩

/-- What a change of status makes of an input and of the stored execution that is meant. -/
structure Moved (t : Table) (input old r : WorkflowExecution) : Prop where
  meant : Meant kind t input old
  allowed : checkPhase old input.status.phase = .ok ()
  made : ∃ now moment, Timestamp.next? old.metadata.updatedAt now = some moment ∧
    r = { old with
      metadata := { old.metadata with updatedAt := some moment }
      status := input.status }

theorem Moved.nextVersion {t : Table} {input old r : WorkflowExecution}
    (moved : Moved t input old r) :
    NextVersion kind t old r := by
  obtain ⟨meant, -, now, moment, next, rfl⟩ := moved
  exact ⟨meant.held, rfl, ⟨rfl, rfl⟩, fun sound => (sound.touch next).restatus input.status⟩

/-- The steps of a change of status up to storing. -/
def statusDraft : List (Step WorkflowExecution WorkflowExecution WorkflowExecution) :=
  [Catalog.loadExisting, mergeStatus]

/-- The steps that change a status make the execution with it. -/
theorem drafts_status {s : Session WorkflowExecution WorkflowExecution WorkflowExecution}
    {t : Table} (stored : s.world.store.backing = .memory t)
    (own : s.request.call.kind = some kind)
    (direct : s.request.newState = none) :
    Drafts statusDraft t s fun r => ∃ old, Moved t s.request.input old r := by
  refine drafts_of_looks stored (looks_loadExisting stored own) ?_
  rintro s₁ leads₁ ⟨newState, old, meant, same₁⟩
  rw [direct] at meant
  refine ⟨by rw [same₁], drafts_of_looks_last leads₁.stored
    (looks_mergeStatus leads₁.stored (by rw [same₁])) ?_⟩
  rintro r ⟨allowed, now, moment, next, same₂⟩
  rw [same₁] at allowed
  refine ⟨by rw [same₂], _, ⟨old, meant, allowed, now, moment, next, rfl⟩, ?_⟩
  rw [same₂, same₁]

theorem announces_create {w : DaemonWorld} {t : Table} (input : WorkflowExecution)
    (stored : w.store.backing = .memory t) (own : call.kind = some kind) :
    Announces (create call input) w t (Created kind t w.ids input) :=
  announces_write rfl (stows_createSteps stored own rfl)

theorem announces_update {w : DaemonWorld} {t : Table} (input : WorkflowExecution)
    (stored : w.store.backing = .memory t) (own : call.kind = some kind) :
    Announces (update call input) w t fun r => ∃ old, Revised kind t input old r :=
  announces_write rfl (stows_updateSteps stored own rfl)

theorem announces_updateStatus {w : DaemonWorld} {t : Table} (input : WorkflowExecution)
    (stored : w.store.backing = .memory t) (own : call.kind = some kind) :
    Announces (updateStatus call input) w t fun r => ∃ old, Moved t input old r :=
  announces_write rfl ((drafts_status stored own rfl).stows own)

theorem ChangesAside.of_announces {op : Op WorkflowExecution WorkflowExecution}
    (change : ∀ w t, w.store.backing = .memory t → ∃ Made : WorkflowExecution → Prop,
      Announces op w t Made ∧
        ∀ r, Made r → Change ExecutionSpec ExecutionStatus kind t (stow kind t r)) :
    ChangesAside ExecutionSpec ExecutionStatus kind op := by
  intro w t stored
  obtain ⟨Made, announces, made⟩ := change w t stored
  exact Ends.imp announces (fun r w' ⟨holds, leads, _⟩ => ⟨_, made r holds, _, leads⟩)
    fun _ w' leads => ⟨t, .same, leads.aside⟩

theorem changes_updateStatus (own : call.kind = some kind) (input : WorkflowExecution) :
    ChangesAside ExecutionSpec ExecutionStatus kind (updateStatus call input) :=
  .of_announces fun _ _ stored => ⟨_, announces_updateStatus input stored own,
    fun r ⟨old, moved⟩ => .renew old r moved.nextVersion⟩

theorem changes_executions (own : call.kind = some kind) (message : Message WorkflowExecution) :
    ChangesAside ExecutionSpec ExecutionStatus kind (controller.handle call message) := by
  cases message with
  | create resource =>
    exact .of_announces fun _ _ stored =>
      ⟨_, announces_create resource stored own, fun _ created => created.change⟩
  | update resource =>
    exact .of_announces fun _ _ stored =>
      ⟨_, announces_update resource stored own, fun _ revised => change_of_revised revised⟩
  | apply resource => exact (Changes.fail _).aside
  | delete id => exact (changes_delete own id).aside
  | get id => exact (changes_get own id).aside
  | getByReference reference => exact (Changes.fail _).aside

end Executions

end Steward
