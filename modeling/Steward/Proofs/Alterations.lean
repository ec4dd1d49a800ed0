import Steward.Proofs.Identifiers
import Steward.Proofs.Revisions

/-!
# What messages make of the table

A message to the service of agents or of agent instances calls for a creation, for an update, for a
removal or for nothing but a look. What each of these makes of the table is said once, for the
message that is answered and for the one that stops; what a turn of the daemon makes of the table
follows from it. Main statements: `ends_standard`, `ends_handleInstances`, `ends_handleAgents` and
`alters_take`.
-/

namespace Steward

open Store Daemon

/-! ## Messages -/

section Messages

variable {Spec Status : Type} [Managed Spec Status]

/-- The message calls for the creation of a resource: it asks for that, or for applying a resource
with a natural key that is free, of which the slug is resolved then. -/
inductive Message.Creating (kind : Kind) (t : Table) :
    Message (Resource Spec Status) → Resource Spec Status → Prop where
  | create (input : Resource Spec Status) : Creating kind t (.create input) input
  | apply {input state : Resource Spec Status} (resolved : Resolved input state)
      (free : KeyFree kind t state) : Creating kind t (.apply input) state

/-- The message calls for an update by a resource: it asks for that, or for applying a resource with
the natural key of a stored one, whose id it takes over then. -/
inductive Message.Updating (kind : Kind) (t : Table) :
    Message (Resource Spec Status) → Resource Spec Status → Prop where
  | update (input : Resource Spec Status) : Updating kind t (.update input) input
  | apply {input state old : Resource Spec Status} (resolved : Resolved input state)
      (same : SameKey old state) (held : ∃ id, Holds kind t id old) :
      Updating kind t (.apply input) (state.withId old.id)

/-- What a message that is answered makes of the table, where `Makes` says so of creations. -/
inductive Message.Writes (kind : Kind) (t : Table)
    (Makes : Resource Spec Status → Resource Spec Status → Table → Prop) :
    Message (Resource Spec Status) → Resource Spec Status → Table → Prop where
  | create {message : Message (Resource Spec Status)} {input r : Resource Spec Status} {t' : Table}
      (creating : message.Creating kind t input) (makes : Makes input r t') :
      Writes kind t Makes message r t'
  | update {message : Message (Resource Spec Status)} {input old r : Resource Spec Status}
      (updating : message.Updating kind t input) (revised : Revised kind t input old r) :
      Writes kind t Makes message r (stow kind t r)
  | delete {id : String} {r : Resource Spec Status} (held : Holds kind t (Text.trim id) r) :
      Writes kind t Makes (.delete id) r (t.erase ⟨kind.name, Text.trim id⟩)
  | read {message : Message (Resource Spec Status)} {r : Resource Spec Status}
      (reads : message.Reads) : Writes kind t Makes message r t

section Creating

variable {kind : Kind} {t t' : Table} {message : Message (Resource Spec Status)}
  {input input' r : Resource Spec Status}

/-- A message calls for the creation of one resource at most. -/
theorem Message.Creating.unique (creating : message.Creating kind t input)
    (creating' : message.Creating kind t input') : input = input' := by
  cases creating with
  | create =>
    cases creating'
    rfl
  | apply resolved =>
    cases creating' with
    | apply resolved' => exact resolved.unique resolved'

theorem Message.Creating.not_reads (creating : message.Creating kind t input) :
    ¬ message.Reads := by
  intro reads
  cases creating <;> cases reads

theorem Message.Updating.not_reads (updating : message.Updating kind t input) :
    ¬ message.Reads := by
  intro reads
  cases updating <;> cases reads

/-- A message that calls for a creation does not call for an update: the natural key is free, and
not that of a stored resource. -/
theorem Message.Creating.not_updating (creating : message.Creating kind t input) :
    ¬ message.Updating kind t input' := by
  intro updating
  cases creating with
  | create => cases updating
  | apply resolved free =>
    cases updating with
    | apply resolved' same held =>
      obtain ⟨id, held⟩ := held
      obtain rfl := resolved.unique resolved'
      exact free id _ held same

/-- The answer to a message that calls for a creation is what the creation makes. -/
theorem Message.Writes.makes {Makes : Resource Spec Status → Resource Spec Status → Table → Prop}
    (writes : message.Writes kind t Makes r t') (creating : message.Creating kind t input) :
    Makes input r t' := by
  cases writes with
  | create creating' makes =>
    obtain rfl := creating.unique creating'
    exact makes
  | update updating => exact absurd updating creating.not_updating
  | delete => cases creating
  | read reads => exact absurd reads creating.not_reads

end Creating

end Messages

/-! ## Services with the standard pipelines -/

section Standard

variable {Item Spec Status : Type} [Managed Spec Status] {t : Table} {w : World Item} {call : Call}
  (kind : Kind) (create : Call → Resource Spec Status → Op Item (Resource Spec Status))

/-- The operations of a service that has the standard pipelines for all but creations. -/
def standardController : Controller Item (Resource Spec Status) where
  create := create
  update call := (Standard.update kind).write call
  apply := Standard.apply kind create fun call => (Standard.update kind).write call
  delete := (Standard.delete kind).remove
  get := (Standard.get kind).query
  getByReference := (Standard.getByReference kind).query

/-- A message to such a service is answered once what it calls for is done. It stops as the creation
does that it calls for, or it has changed nothing. -/
theorem ends_standard {Makes : Resource Spec Status → Resource Spec Status → Table → Prop}
    {E : Stop → World Item → Prop} (stored : w.store.backing = .memory t)
    (own : call.kind = some kind) (message : Message (Resource Spec Status))
    (creates : ∀ w' input, message.Creating kind t input → Leads w t w' →
      Ends (create call input) w' (fun r w'' => ∃ t', Makes input r t' ∧ Leads w t' w'') E)
    (halted : ∀ stop w', Leads w t w' → E stop w') :
    Ends ((standardController kind create).handle call message) w
      (fun r w' => ∃ t', message.Writes kind t Makes r t' ∧ Leads w t' w') E := by
  cases message with
  | create input =>
    refine (creates w input (.create input) (.refl stored)).imp ?_ fun _ _ stopped => stopped
    rintro r w' ⟨t', makes, leads⟩
    exact ⟨t', .create (.create input) makes, leads⟩
  | update input =>
    refine Ends.imp (saves_update stored own) ?_ halted
    rintro r w' ⟨⟨old, revised⟩, leads, -⟩
    exact ⟨_, .update (.update input) revised, leads⟩
  | apply input =>
    refine ends_apply stored own (fun w' state leads resolved free => ?_)
      (fun w' state old leads resolved same held => ?_) halted
    · have creating : Message.Creating kind t (.apply input) state := .apply resolved free
      refine (creates w' state creating leads).imp ?_ fun _ _ stopped => stopped
      rintro r w'' ⟨t', makes, leads'⟩
      exact ⟨t', .create creating makes, leads'⟩
    · refine Ends.imp (saves_update leads.stored own) ?_
        fun stop w'' leads' => halted stop w'' (leads.trans leads')
      rintro r w'' ⟨⟨old', revised⟩, leads', -⟩
      exact ⟨_, .update (.apply resolved same held) revised, leads.trans leads'⟩
  | delete id =>
    refine (ends_remove stored own id).imp ?_ halted
    rintro r w' ⟨held, leads⟩
    exact ⟨_, .delete held, leads⟩
  | get id =>
    refine (reads_get stored own).ends ?_ halted
    intro r w' leads _
    exact ⟨t, .read (.get id), leads⟩
  | getByReference reference =>
    refine (reads_getByReference stored own).ends ?_ halted
    intro r w' leads _
    exact ⟨t, .read (.getByReference reference), leads⟩

end Standard

/-! ## The services of the daemon -/

section Services

variable {w : DaemonWorld} {t : Table} {call : Call} (config : Config)

/-- What the creation of an agent instance makes of the table. -/
def InstanceMade (t : Table) (ids : Supply String) (input r : AgentInstance) (t' : Table) : Prop :=
  Created .agentInstance t ids input r ∧ t' = stow .agentInstance t r

/-- What a message to the service of agent instances makes of the table when it is answered. -/
abbrev InstanceWritten (t : Table) (ids : Supply String) (message : Message AgentInstance) :
    AgentInstance → Table → Prop :=
  message.Writes .agentInstance t (InstanceMade t ids)

theorem ends_handleInstances (stored : w.store.backing = .memory t)
    (own : call.kind = some .agentInstance) (message : Message AgentInstance) :
    Ends ((Daemon.instances config).controller.handle call message) w
      (fun r w' => ∃ t', InstanceWritten t w.ids message r t' ∧ Leads w t' w')
      fun _ w' => Leads w t w' := by
  refine ends_standard .agentInstance AgentInstances.create stored own message
    (fun w' input _ leads => ?_) fun _ _ leads => leads
  refine Ends.imp (saves_create leads.stored own) ?_ fun _ _ leads' => leads.trans leads'
  rintro r w'' ⟨created, leads', -⟩
  exact ⟨_, ⟨created.of_leads leads, rfl⟩, leads.trans leads'⟩

/-- What the creation of an agent makes of the table. -/
inductive AgentMade (t : Table) (ids : Supply String) (input : Agent) : Agent → Table → Prop where
  | mk {agent : Agent} {made : AgentInstance} (both : BothCreated t ids input agent made) :
      AgentMade t ids input (recorded agent made.id)
        (stow .agent (stowBoth t agent made) (recorded agent made.id))

theorem BothCreated.of_leads {w' : DaemonWorld} {t' : Table} {input agent : Agent}
    {made : AgentInstance} (leads : Leads w t' w') (both : BothCreated t w'.ids input agent made) :
    BothCreated t w.ids input agent made :=
  ⟨both.template.of_leads leads, both.configured.of_leads leads⟩

theorem HalfCreated.of_leads {w' : DaemonWorld} {t₁ t' : Table} {input : Agent}
    (leads : Leads w t₁ w') (half : HalfCreated t w'.ids input t') :
    HalfCreated t w.ids input t' := by
  cases half with
  | nothing => exact .nothing
  | agent agent created => exact .agent agent (created.of_leads leads)
  | both agent made both => exact .both agent made (both.of_leads leads)

/-- What a message to the service of agents makes of the table when it is answered. -/
abbrev AgentWritten (t : Table) (ids : Supply String) (message : Message Agent) :
    Agent → Table → Prop :=
  message.Writes .agent t (AgentMade t ids)

/-- What a message to the service of agents makes of the table when it stops. -/
inductive AgentHalted (t : Table) (ids : Supply String) (message : Message Agent) : Table → Prop
    where
  | nothing : AgentHalted t ids message t
  | creating {input : Agent} {t' : Table} (creating : message.Creating .agent t input)
      (half : HalfCreated t ids input t') : AgentHalted t ids message t'

theorem ends_handleAgents (stored : w.store.backing = .memory t)
    (declared : Declared w.interceptor) (own : call.kind = some .agent)
    (message : Message Agent) :
    Ends ((Daemon.agents config).controller.handle call message) w
      (fun r w' => ∃ t', AgentWritten t w.ids message r t' ∧ Leads w t' w')
      fun _ w' => ∃ t', AgentHalted t w.ids message t' ∧ Leads w t' w' := by
  refine ends_standard .agent (Agents.create (.ofEndpoint (Daemon.instances config))) stored own
    message (fun w' input creating leads => ?_) fun _ _ leads => ⟨t, .nothing, leads⟩
  refine (ends_createAgent config leads.stored (declared.of_leads leads) own input).imp ?_ ?_
  · rintro r w'' ⟨agent, made, both, rfl, leads', -⟩
    exact ⟨_, .mk (both.of_leads leads), leads.trans leads'⟩
  · rintro stop w'' ⟨t', half, leads'⟩
    exact ⟨t', .creating creating (half.of_leads leads), leads.trans leads'⟩

end Services

/-! ## Turns of the daemon -/

namespace Daemon

/-- What an operation may make of the table, however it ends. -/
inductive Operation.Alters (t : Table) (ids : Supply String) : Operation → Table → Prop where
  | agents {message : Message Agent} {r : Agent} {t' : Table}
      (written : AgentWritten t ids message r t') : Alters t ids (.agents message) t'
  | agentsHalted {message : Message Agent} {t' : Table} (halted : AgentHalted t ids message t') :
      Alters t ids (.agents message) t'
  | instances {message : Message AgentInstance} {r : AgentInstance} {t' : Table}
      (written : InstanceWritten t ids message r t') : Alters t ids (.instances message) t'
  | instancesHalted (message : Message AgentInstance) : Alters t ids (.instances message) t
  | executions {operation : Operation} {t' : Table} (about : operation.kind = .workflowExecution)
      (change : Change ExecutionSpec ExecutionStatus .workflowExecution t t') :
      Alters t ids operation t'

end Daemon

section Turns

variable {w : DaemonWorld} {t : Table} (config : Config)

theorem alters_work (stored : w.store.backing = .memory t) (declared : Declared w.interceptor)
    (operation : Operation) (call : Call) (own : call.kind = some operation.kind) :
    Ends (operation.work config call) w
      (fun _ w' => ∃ t', operation.Alters t w.ids t' ∧ LeadsAside w t' w')
      fun _ w' => ∃ t', operation.Alters t w.ids t' ∧ LeadsAside w t' w' := by
  cases operation with
  | agents message =>
    refine ends_bind.2 ((ends_handleAgents config stored declared own message).imp ?_ ?_)
    · rintro r w' ⟨t', written, leads⟩
      exact ⟨t', .agents written, leads.aside⟩
    · rintro stop w' ⟨t', halted, leads⟩
      exact ⟨t', .agentsHalted halted, leads.aside⟩
  | instances message =>
    refine ends_bind.2 ((ends_handleInstances config stored own message).imp ?_ ?_)
    · rintro r w' ⟨t', written, leads⟩
      exact ⟨t', .instances written, leads.aside⟩
    · intro stop w' leads
      exact ⟨t, .instancesHalted message, leads.aside⟩
  | executions message =>
    refine ends_bind.2 ((changes_executions own message w t stored).imp ?_ ?_)
    all_goals
      rintro _ w' ⟨t', change, leads⟩
      exact ⟨t', .executions rfl change, leads⟩
  | status execution =>
    refine ends_bind.2 ((changes_updateStatus own execution w t stored).imp ?_ ?_)
    all_goals
      rintro _ w' ⟨t', change, leads⟩
      exact ⟨t', .executions rfl change, leads⟩

/-- What a turn makes of the table and of the rest of the world. -/
theorem alters_take (tended : Tended w) (stored : w.store.backing = .memory t) (turn : Turn) :
    ∃ t', turn.operation.Alters t w.ids t' ∧ LeadsAside (turn.meet w) t' (turn.take config w) := by
  have ends := alters_work (w := turn.meet w) config stored tended.declared turn.operation
    (turn.call.withKind turn.operation.kind) rfl
  obtain ⟨_, w', outcome, alters⟩ | ⟨_, w', outcome, alters⟩ := ends.outcome_cases
  all_goals
    rw [Turn.take, Turn.outcome, outcome]
    exact alters

/-- The texts for ids are the same ones all along. -/
theorem wordy_run (tended : Tended w) (wordy : w.ids.Wordy) (turns : List Turn) :
    (run config w turns).ids.Wordy := by
  induction turns generalizing w with
  | nil => exact wordy
  | cons turn turns ih =>
    obtain ⟨t, stored, -⟩ := tended.kept
    obtain ⟨t', -, broker, leads⟩ := alters_take config tended stored turn
    have met : ({ turn.meet w with broker := broker } : DaemonWorld).ids.Wordy := wordy
    exact ih (tended_take config tended turn) (met.of_leads leads)

theorem wordy_reached (timeline : Timeline) (clock : Supply Timestamp) {ids : Supply String}
    (wordy : ids.Wordy) (turns : List Turn) :
    (reached config timeline clock ids turns).ids.Wordy :=
  wordy_run config (tended_world config timeline clock ids) wordy turns

end Turns

end Steward
