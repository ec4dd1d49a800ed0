import Steward.Proofs.GoingThrough
import Steward.Proofs.Identifiers
import Steward.Proofs.Runs
import Steward.Proofs.Upserts

/-!
# Default instances that are wanted

What an agent asks of the service of agent instances follows from the agent: with a sound agent
whose id begins as ids of agents do, the request is valid, and a slug can be made for it. So the
creation of an agent goes through if nothing speaks against the agent itself and if no stored
instance has the natural key of its default instance. Main statements: `valid_defaultRequest`,
`ends_furnish` and `ends_createAgent_through`.
-/

namespace Steward

open Store Daemon Agents

/-! ## What an agent asks for -/

section Requests

variable {agent agent' : Agent} {t : Table}

theorem name_defaultRequest (agent : Agent) :
    (defaultRequest agent).metadata.name = agent.metadata.slug ++ "-default" :=
  rfl

theorem description_defaultRequest (agent : Agent) :
    (defaultRequest agent).spec.description = "Default instance of " ++ agent.metadata.name :=
  rfl

/-- The name of a default instance has a letter in it, whatever the slug of the agent. -/
theorem mem_name_defaultRequest : 'd' ∈ (defaultRequest agent).metadata.name.toList := by
  rw [name_defaultRequest, String.toList_append]
  exact List.mem_append_right _ (by decide)

/-- So a slug can be made of it. -/
theorem exists_resolvedSlug_defaultRequest (agent : Agent) :
    ∃ slug, Catalog.resolvedSlug (defaultRequest agent).metadata = .ok slug := by
  have lettered : 'd' ∈ (defaultRequest agent).metadata.name.toList := mem_name_defaultRequest
  have unnamed : Text.isAllBlank (defaultRequest agent).metadata.name ≠ true := by
    intro blank
    exact absurd (List.all_eq_true.1 blank 'd' lettered) (by decide)
  have usable : Slug.ofName (defaultRequest agent).metadata.name ≠ "" :=
    Slug.ofName_ne_empty lettered (by decide) (by decide)
  refine ⟨Slug.ofName (defaultRequest agent).metadata.name, ?_⟩
  rw [Catalog.resolvedSlug, if_neg (fun chosen => chosen rfl), if_neg unnamed, if_neg usable]

/-- The id of the agent begins as ids of agents do. -/
def BeginsAsAgent (id : String) : Prop :=
  AgentInstanceSpec.agentIdStem.toList.isPrefixOf id.toList = true

/-- What a sound agent asks for is valid, if its id begins as ids of agents do. -/
theorem valid_defaultRequest (sound : Sound .agent agent) (begins : BeginsAsAgent agent.id) :
    (defaultRequest agent).violation? = none := by
  have rules := Metadata.valid_iff.1 (violation?_eq_none.1 sound.valid).1
  have short := sound.short
  have name := rules.name
  refine violation?_eq_none.2 ⟨Metadata.valid_iff.2 ?_, ?_⟩
  · constructor
    · rw [Text.isAllBlank, List.all_eq_false]
      exact ⟨'d', mem_name_defaultRequest, by decide⟩
    · have length : "-default".length = 8 := by decide
      rw [name_defaultRequest, String.length_append]
      omega
    · show "".length ≤ 63
      decide
    · exact rules.scope
    · show (Labels.empty.insert InstanceClient.createdByLabel
        InstanceClient.systemActor).names.all (!·.isEmpty) = true
      decide
  · refine (AgentInstanceSpec.valid_iff _).2 ⟨?_, begins, ?_⟩
    · obtain ⟨rest, same⟩ := List.isPrefixOf_iff_prefix.1 begins
      have lettered : 'a' ∈ agent.id.toList := by
        rw [← same]
        exact List.mem_append_left _ (by decide)
      show Text.isAllBlank agent.id = false
      rw [Text.isAllBlank, List.all_eq_false]
      exact ⟨'a', lettered, by decide⟩
    · have length : "Default instance of ".length = 20 := by decide
      rw [description_defaultRequest, String.length_append]
      omega

/-- The default instance of an agent can be created: the agent's id begins as ids of agents do, and
no stored instance has the natural key that the default instance would get. -/
structure Furnishable (t : Table) (agent : Agent) : Prop where
  begins : BeginsAsAgent agent.id
  vacant : Unused .agentInstance t (defaultRequest agent)

/-- A new agent has no default instance. -/
theorem Created.defaultInstanceId {ids : Supply String} {input : Agent}
    (created : Created .agent t ids input agent) : agent.status.defaultInstanceId = "" := by
  obtain ⟨slug, id, now, -, rfl⟩ := created.made
  rfl

/-- Where a default instance was created, it could be. -/
theorem Created.furnishable {ids : Supply String} {made : AgentInstance}
    (created : Created .agentInstance t ids (defaultRequest agent) made) :
    Furnishable t agent := by
  have spec := (AgentInstanceSpec.valid_iff _).1 (violation?_eq_none.1 created.valid).2
  refine ⟨spec.2.1, fun id other held keyed => ?_⟩
  exact created.free id other held (keyed.sameKey created.keyed)

/-- Agents with one natural key ask for instances with one natural key. -/
theorem keyed_defaultRequest_congr (same : SameKey agent agent') {other : AgentInstance} :
    Keyed (defaultRequest agent) other ↔ Keyed (defaultRequest agent') other := by
  have metadata : (defaultRequest agent).metadata = (defaultRequest agent').metadata := by
    simp [defaultRequest, defaultInstance, Resource.withMetadata, same.1, same.2]
  constructor
  · rintro ⟨slug, scope⟩
    exact ⟨metadata ▸ slug, metadata ▸ scope⟩
  · rintro ⟨slug, scope⟩
    exact ⟨metadata ▸ slug, metadata ▸ scope⟩

/-- Agents in the table make no difference to that. -/
theorem furnishable_stow : Furnishable (stow .agent t agent') agent ↔ Furnishable t agent := by
  have other : (Kind.agentInstance).name ≠ (Kind.agent).name := by decide
  constructor
  · rintro ⟨begins, vacant⟩
    exact ⟨begins, fun id other' held => vacant id other' ((holds_stow_of_ne other).2 held)⟩
  · rintro ⟨begins, vacant⟩
    exact ⟨begins, fun id other' held => vacant id other' ((holds_stow_of_ne other).1 held)⟩

end Requests

/-! ## Calls that nothing breaks off -/

/-- Nobody has cancelled anything, or been asked to. -/
structure Timeline.Calm (t : Timeline) : Prop where
  cancelled : t.cancelled = []
  asked : t.asked = []
  scheduled : t.scheduled = []

/-- Nothing is in store for a call without a deadline then. -/
theorem Timeline.Calm.undisturbed {t : Timeline} (calm : t.Calm) {call : Call}
    (endless : call.deadline = none) : t.Undisturbed call where
  endless := endless
  live token _ := by simp [calm.cancelled]
  unasked token _ := by simp [calm.asked]
  spared token _ := by simp [calm.scheduled]

/-- Only then is nothing in store for any call without a deadline. -/
theorem Timeline.Calm.of_undisturbed {t : Timeline}
    (still : ∀ call, call.deadline = none → t.Undisturbed call) : t.Calm := by
  have own (token : Nat) : token ∈ Call.tokens { token := token } := List.mem_cons_self
  constructor
  · refine List.eq_nil_iff_forall_not_mem.2 fun token inside => ?_
    exact (still { token := token } rfl).live token (own token) inside
  · refine List.eq_nil_iff_forall_not_mem.2 fun asked inside => ?_
    exact (still { token := asked.2 } rfl).unasked asked.2 (own _) (List.mem_map_of_mem inside)
  · refine List.eq_nil_iff_forall_not_mem.2 fun planned inside => ?_
    exact (still { token := planned.2 } rfl).spared planned.2 (own _) (List.mem_map_of_mem inside)

/-- Nothing is in store for the call or for a call that is made on its behalf through a client. -/
structure Quiet (config : Config) (call : Call) (w : DaemonWorld) : Prop where
  calm : w.timeline.Calm
  endless : call.deadline = none
  untimed : config.requestTimeout = none

/-- The stop is one with which the call, or one that is made on its behalf, breaks off what is done,
and something was in store for one of them. -/
structure Interrupts (config : Config) (call : Call) (w : DaemonWorld) (stop : Stop) : Prop where
  halt : stop = .failed .cancelled ∨ stop = .failed .deadlineExceeded
  disturbed : ¬ Quiet config call w

section Interruptions

variable {config : Config} {call call' : Call} {w w' : DaemonWorld} {t : Table} {stop : Stop}

theorem Halts.interrupts (halts : Halts call' w stop)
    (endless : Quiet config call w → call'.deadline = none) : Interrupts config call w stop :=
  ⟨halts.halt, fun quiet => halts.disturbed (quiet.calm.undisturbed (endless quiet))⟩

/-- What is quiet stays so. -/
theorem Quiet.of_leads (leads : Leads w t w') (quiet : Quiet config call w) :
    Quiet config call w' :=
  { quiet with
    calm := .of_undisturbed fun call endless =>
      leads.undisturbed call (quiet.calm.undisturbed endless) }

theorem Interrupts.of_leads (leads : Leads w t w') (interrupts : Interrupts config call w' stop) :
    Interrupts config call w stop :=
  ⟨interrupts.halt, fun quiet => interrupts.disturbed (quiet.of_leads leads)⟩

/-- The kind that is put on a call makes no difference. -/
theorem Halts.of_withKind {kind : Kind} (halts : Halts (call.withKind kind) w stop) :
    Halts call w stop :=
  ⟨halts.halt, fun still =>
    halts.disturbed ⟨still.endless, still.live, still.unasked, still.spared⟩⟩

/-- The call that leaves a client on behalf of another has no deadline, if that one has none. -/
theorem Quiet.deadline_outbound (quiet : Quiet config call w) (timeline : Timeline) :
    (timeline.outbound config.requestTimeout (w.timeline.child call).1).deadline = none := by
  rw [quiet.untimed]
  exact quiet.endless

end Interruptions

/-! ## Going through the client -/

section Client

variable {w : DaemonWorld} {t : Table} (config : Config) (call : Call) (resource : AgentInstance)

/-- An instance of which the demands are met is created through the client. -/
theorem goes_send (faultless : w.store.faults = {}) (stored : w.store.backing = .memory t)
    (declared : Declared w.interceptor) (kept : KindKept AgentInstanceSpec Unit .agentInstance t)
    (valid : resource.violation? = none) {slug : String}
    (resolved : Catalog.resolvedSlug resource.metadata = .ok slug)
    (free : KeyFree .agentInstance t (resource.withMetadata fun m => { m with slug := slug }))
    (accepted : ∀ id, IdFor .agentInstance w.ids resource.id id →
      checkKey ⟨(Kind.agentInstance).name, id⟩ = .ok ()) :
    Goes (w.timeline.outbound config.requestTimeout call)
      ((Daemon.instances config).send call (.create resource)) w := by
  unfold Goes Gives Endpoint.send
  rw [ends_bind, ends_get, ends_bind, ends_check]
  refine ⟨fun _ => ?_, fun _ failed => halts_of_check failed⟩
  rw [ends_bind, Op.giveWay, ends_onTimeline, ends_bind]
  refine ends_intercept_create _ resource stored declared fun w₁ leads₁ => ?_
  have leads₁ : Leads w t w₁ :=
    (Leads.pass stored (fun _ still => still.giveWay) w.clock).trans leads₁
  have own : ((w.timeline.outbound config.requestTimeout call).withKind .agentInstance).kind =
      some .agentInstance := rfl
  have goes := goes_create (leads₁.faultless faultless) leads₁.stored own kept valid resolved free
    fun id named => accepted id (named.of_leads leads₁)
  rw [ends_bind, ends_attempt]
  refine (Ends.and goes (saves_create leads₁.stored rfl)).imp ?_ ?_
  · rintro r w₂ ⟨-, -, leads₂, -⟩
    rw [ends_bind, ends_check]
    exact ⟨fun _ => trivial, fun _ failed => (halts_of_check failed).of_leads (leads₁.trans leads₂)⟩
  · rintro stop w₂ ⟨halts, leads₂⟩
    rw [ends_bind, ends_check]
    refine ⟨fun _ => ?_, fun _ failed => (halts_of_check failed).of_leads (leads₁.trans leads₂)⟩
    -- The client hands the failure on as it is.
    have halts : Halts _ w stop := halts.of_withKind.of_leads leads₁
    obtain rfl | rfl := halts.halt
    · exact halts
    · exact halts

end Client

/-! ## Furnishing an agent -/

section Furnishing

variable {s : Session WorkflowExecution Agent Agent} {t : Table} {agent : Agent} (config : Config)

/-- The default instance is created if nothing speaks against it. -/
theorem ends_createDefaultInstance_through (faultless : s.world.store.faults = {})
    (stored : s.world.store.backing = .memory t) (declared : Declared s.world.interceptor)
    (kept : KindKept AgentInstanceSpec Unit .agentInstance t) (wordy : s.world.ids.Wordy)
    (filled : s.request.newState = some agent) (sound : Sound .agent agent)
    (furnishable : Furnishable t agent) :
    Ends (createDefaultInstance (.ofEndpoint (Daemon.instances config))).run s (fun _ _ => True)
      fun stop _ => Interrupts config s.request.call s.world stop := by
  have named : agent.id ≠ "" := by
    intro none
    have begins := furnishable.begins
    rw [none] at begins
    exact absurd begins (by unfold BeginsAsAgent; decide)
  obtain ⟨slug, resolved⟩ := exists_resolvedSlug_defaultRequest agent
  have keyed : Keyed (defaultRequest agent)
      ((defaultRequest agent).withMetadata fun m => { m with slug := slug }) := ⟨resolved, rfl⟩
  have free : KeyFree .agentInstance t
      ((defaultRequest agent).withMetadata fun m => { m with slug := slug }) :=
    fun id other held same => furnishable.vacant id other held (keyed.of_sameKey same.symm)
  simp only [createDefaultInstance, ends_bind, ends_newState, filled, reduceCtorEq, false_implies,
    and_true, Option.some.injEq, forall_eq', ends_work_unless, ends_request, Work.leave,
    ends_modifyRequest]
  refine ⟨fun unnamed => absurd unnamed named, fun _ => ?_⟩
  rw [ends_perform, InstanceClient.createAsSystem, ends_bind, Op.child, ends_onTimeline]
  have goes := goes_send
    (w := { s.world with timeline := (s.world.timeline.child s.request.call).2 }) config
    (s.world.timeline.child s.request.call).1 (defaultRequest agent) faultless stored declared kept
    (valid_defaultRequest sound furnishable.begins) resolved free
    fun id named => named.accepted wordy (.inl rfl)
  have passed : Leads s.world t
      { s.world with timeline := (s.world.timeline.child s.request.call).2 } :=
    .pass stored (fun _ still => still.child _) s.world.clock
  refine Ends.imp goes (fun _ _ _ => trivial) fun stop w' halts => ?_
  exact (halts.of_leads passed).interrupts fun quiet => quiet.deadline_outbound _

/-- What was noted is recorded. -/
theorem passes_recordDefaultInstance {id : String} (faultless : s.world.store.faults = {})
    (stored : s.world.store.backing = .memory t) (own : s.request.call.kind = some .agent)
    (filled : s.request.newState = some agent)
    (noted : s.request.find? defaultInstanceNote Note.text? = some id)
    (accepted : checkKey ⟨(Kind.agent).name, agent.id⟩ = .ok ()) :
    Passes (recordDefaultInstance : Step WorkflowExecution Agent Agent).run s := by
  simp only [Passes, recordDefaultInstance, ends_bind, ends_request, noted, ends_newState, filled,
    reduceCtorEq, false_implies, and_true, Option.some.injEq, forall_eq', Work.setNewState,
    ends_modifyRequest]
  exact passes_persist faultless stored own rfl accepted

theorem ends_furnish (faultless : s.world.store.faults = {})
    (stored : s.world.store.backing = .memory t) (declared : Declared s.world.interceptor)
    (kept : KindKept AgentInstanceSpec Unit .agentInstance t) (wordy : s.world.ids.Wordy)
    (own : s.request.call.kind = some .agent) (filled : s.request.newState = some agent)
    (sound : Sound .agent agent) (accepted : checkKey ⟨(Kind.agent).name, agent.id⟩ = .ok ())
    (furnishable : Furnishable t agent) :
    Ends (Pipeline.runSteps (furnishSteps config)) s (fun _ _ => True)
      fun stop _ => Interrupts config s.request.call s.world stop := by
  rw [furnishSteps, ends_runSteps_cons]
  refine ⟨fun _ => ?_, fun _ failed => (halts_of_check failed).interrupts (·.endless)⟩
  refine (Ends.and (ends_createDefaultInstance_through config faultless stored declared kept wordy
    filled sound furnishable) (ends_createDefaultInstance config stored declared filled)).imp ?_
    fun _ _ ended => ended.1
  rintro _ s₂ ⟨-, made, -, leads₂, call₂, filled₂, noted⟩
  have own₂ : s₂.request.call.kind = some .agent := by rw [call₂]; exact own
  refine Ends.imp (passes_last (passes_recordDefaultInstance (leads₂.faultless faultless)
    leads₂.stored own₂ filled₂ noted accepted)) (fun _ _ _ => trivial) fun stop s₃ halts => ?_
  rw [call₂] at halts
  exact (halts.of_leads leads₂).interrupts (·.endless)

end Furnishing

/-! ## Creating an agent -/

/-- Nothing speaks against the agent itself: it is valid, its natural key is free, and an id that
was chosen for it can stand in a key. -/
structure Admitted (t : Table) (input : Agent) : Prop where
  valid : input.violation? = none
  free : ∃ slug, Catalog.resolvedSlug input.metadata = .ok slug ∧
    KeyFree .agent t (input.withMetadata fun m => { m with slug := slug })
  usable : input.id = "" ∨ checkKey ⟨(Kind.agent).name, input.id⟩ = .ok ()

section Creating

variable {w : DaemonWorld} {t : Table} {call : Call} {input : Agent}

/-- Nothing spoke against an agent that is in place. -/
theorem Created.admitted {ids : Supply String} {agent : Agent}
    (created : Created .agent t ids input agent)
    (accepted : checkKey ⟨(Kind.agent).name, agent.id⟩ = .ok ()) : Admitted t input := by
  obtain ⟨slug, id, now, resolved, rfl⟩ := id created.made
  refine ⟨created.valid, ⟨slug, resolved, created.free⟩, ?_⟩
  rcases created.named with ⟨-, named⟩ | ⟨unchosen, -⟩
  · rw [← named]
    exact .inr accepted
  · exact .inl unchosen

theorem Admitted.passes (admitted : Admitted t input) (faultless : w.store.faults = {})
    (stored : w.store.backing = .memory t) (own : call.kind = some .agent)
    (kept : KindKept AgentSpec AgentStatus .agent t) (wordy : w.ids.Wordy) :
    Passes (Pipeline.runSteps Standard.createSteps) (seededSession w call input) := by
  obtain ⟨slug, resolved, free⟩ := admitted.free
  exact passes_createSteps faultless stored own kept admitted.valid resolved free
    fun id named => named.accepted wordy admitted.usable

variable (config : Config)

/-- An agent is created if nothing speaks against it or against its default instance. -/
theorem ends_createAgent_through (faultless : w.store.faults = {})
    (stored : w.store.backing = .memory t) (declared : Declared w.interceptor)
    (own : call.kind = some .agent) (kept : TableKept t) (wordy : w.ids.Wordy)
    (admitted : Admitted t input)
    (furnishable : ∀ agent, Created .agent t w.ids input agent → Furnishable t agent) :
    Ends (create (.ofEndpoint (Daemon.instances config)) call input) w (fun _ _ => True)
      fun stop _ => Interrupts config call w stop := by
  have steps : (createPipeline (.ofEndpoint (Daemon.instances config))).steps =
    Standard.createSteps ++ furnishSteps config := rfl
  unfold Agents.create Pipeline.write
  rw [ends_bind, ends_execute, steps, ends_runSteps_append]
  refine (Ends.and (admitted.passes faultless stored own kept.agents wordy)
    (stows_createSteps (s := seededSession w call input) stored own rfl)).imp ?_
    fun _ _ ⟨halts, _⟩ => halts.interrupts (·.endless)
  rintro _ s₁ ⟨-, agent, created, leads₁, call₁, filled₁, placed⟩
  have declared₁ : Declared s₁.world.interceptor := Declared.of_leads declared leads₁
  have own₁ : s₁.request.call.kind = some .agent := by rw [call₁]; exact own
  have kept₁ := (kept.of_agents created.change).instances
  refine (Ends.and (ends_furnish config (leads₁.faultless faultless) leads₁.stored declared₁ kept₁
    (wordy.of_leads leads₁) own₁ filled₁ created.sound placed.accepted
    (furnishable_stow.2 (furnishable agent created)))
    (ends_furnishSteps config leads₁.stored declared₁ own₁ filled₁)).imp ?_ ?_
  · rintro _ s₂ ⟨-, made, -, -, filled₂⟩
    rw [Request.getNewState, filled₂]
    trivial
  · rintro stop s₂ ⟨interrupts, -⟩
    rw [call₁] at interrupts
    exact interrupts.of_leads leads₁

/-- So it is if nothing is in store for the call. -/
theorem outcome_createAgent (faultless : w.store.faults = {})
    (stored : w.store.backing = .memory t) (declared : Declared w.interceptor)
    (own : call.kind = some .agent) (kept : TableKept t) (wordy : w.ids.Wordy)
    (admitted : Admitted t input)
    (furnishable : ∀ agent, Created .agent t w.ids input agent → Furnishable t agent)
    (quiet : Quiet config call w) :
    ∃ r w', (create (.ofEndpoint (Daemon.instances config)) call input).outcome w =
      (.ok r, w') := by
  have ends := ends_createAgent_through config faultless stored declared own kept wordy admitted
    furnishable
  obtain ⟨r, w', done, -⟩ | ⟨stop, w', -, interrupts⟩ := ends.outcome_cases
  · exact ⟨r, w', done⟩
  · exact absurd quiet interrupts.disturbed

end Creating

/-- An agent for which no id was chosen. -/
def critic : Agent where
  metadata := { name := "Critic" }
  spec := {}
  status := {}

theorem admitted_critic : Admitted .empty critic := by
  refine ⟨by decide, ⟨"critic", by decide, ?_⟩, .inl rfl⟩
  rintro id other ⟨bytes, found, -⟩
  cases found

/-- It is created over an empty store, with nothing in the way. -/
theorem outcome_critic {w : DaemonWorld} (tended : Tended w)
    (stored : w.store.backing = .memory .empty) (wordy : w.ids.Wordy) :
    ∃ r w', ((Daemon.agents {}).controller.handle (Conditions.free.served .agent)
      (.create critic)).outcome (Conditions.free.meet w) = (.ok r, w') := by
  have furnishable : ∀ agent, Created .agent .empty w.ids critic agent →
      Furnishable .empty agent := by
    intro agent created
    refine ⟨created.named.begins, ?_⟩
    rintro id other ⟨bytes, found, -⟩
    cases found
  exact outcome_createAgent (w := Conditions.free.meet w) {} rfl stored tended.declared
    (Conditions.free.kind_served .agent) .empty wordy admitted_critic furnishable
    ⟨⟨rfl, rfl, rfl⟩, rfl, rfl⟩

end Steward
