import Steward.Proofs.Agents

/-!
# Runs of the daemon

The daemon's operations one after another, over a store in memory that starts empty. Before each of
them the clock, the time, the calls and what the front of the store was told may be anything. Every
store that is reached is well kept: its values are sound resources, each under its own id, and
natural keys are unique. Main statements: `keeps_work`, `tended_run`,
`naturalKeys_reached` and `allSound_reached`.
-/

namespace Steward

open Store

/-! ## Tables of the daemon -/

/-- The kinds that the daemon's services are about. -/
def servedKinds : List Kind :=
  [.agent, .agentInstance, .workflowExecution]

/-- The table is well kept for each of the daemon's kinds, and holds nothing else. -/
structure TableKept (t : Table) : Prop where
  agents : KindKept AgentSpec AgentStatus .agent t
  instances : KindKept AgentInstanceSpec Unit .agentInstance t
  executions : KindKept ExecutionSpec ExecutionStatus .workflowExecution t
  known : ∀ key bytes, t.get? key = some bytes → ∃ kind ∈ servedKinds, key.kind = kind.name

namespace TableKept

variable {t t' : Table}

theorem empty : TableKept .empty :=
  ⟨.empty, .empty, .empty, fun _ _ found => by cases found⟩

/-- A change of a kind that is served adds nothing of another kind. -/
theorem known_of_change {Spec Status : Type} [Managed Spec Status] {kind : Kind}
    (kept : TableKept t) (served : kind ∈ servedKinds) (change : Change Spec Status kind t t') :
    ∀ key bytes, t'.get? key = some bytes → ∃ kind ∈ servedKinds, key.kind = kind.name := by
  intro key bytes found
  rcases change.kind_of_new found with same | before
  · exact ⟨kind, served, same⟩
  · exact kept.known key bytes before

theorem of_agents (kept : TableKept t) (change : Change AgentSpec AgentStatus .agent t t') :
    TableKept t' where
  agents := change.kept kept.agents
  instances := change.kept_other (by decide) kept.instances
  executions := change.kept_other (by decide) kept.executions
  known := kept.known_of_change (by decide) change

theorem of_instances (kept : TableKept t)
    (change : Change AgentInstanceSpec Unit .agentInstance t t') :
    TableKept t' where
  agents := change.kept_other (by decide) kept.agents
  instances := change.kept kept.instances
  executions := change.kept_other (by decide) kept.executions
  known := kept.known_of_change (by decide) change

theorem of_executions (kept : TableKept t)
    (change : Change ExecutionSpec ExecutionStatus .workflowExecution t t') : TableKept t' where
  agents := change.kept_other (by decide) kept.agents
  instances := change.kept_other (by decide) kept.instances
  executions := change.kept kept.executions
  known := kept.known_of_change (by decide) change

variable {ids : Supply String} {input agent : Agent} {made : AgentInstance}

theorem of_both (kept : TableKept t) (created : BothCreated t ids input agent made) :
    TableKept (stowBoth t agent made) :=
  (kept.of_agents created.template.change).of_instances created.configured.change

/-- Wherever the creation of an agent stops, the table is well kept. -/
theorem of_half (kept : TableKept t) (half : HalfCreated t ids input t') : TableKept t' := by
  cases half with
  | nothing => exact kept
  | agent agent created => exact kept.of_agents created.change
  | both agent made created => exact kept.of_both created

/-- The agent is still in place when its default instance is. -/
theorem holds_stowBoth (created : BothCreated t ids input agent made) :
    Holds .agent (stowBoth t agent made) agent.id agent := by
  have other : (Kind.agent).name ≠ (Kind.agentInstance).name := by decide
  exact (holds_stow_of_ne other).2 ((holds_put created.template.sound).2 (.inl ⟨rfl, rfl⟩))

theorem of_recorded (kept : TableKept t) (created : BothCreated t ids input agent made) :
    TableKept (stow .agent (stowBoth t agent made) (recorded agent made.id)) :=
  (kept.of_both created).of_agents
    (.renew agent _ (nextVersion_recorded (holds_stowBoth created) made.id))

end TableKept

/-! ## Operations -/

/-- The table in memory is well kept, and the interceptor knows the daemon's services. -/
structure Tended (w : DaemonWorld) : Prop where
  kept : ∃ t, w.store.backing = .memory t ∧ TableKept t
  declared : Declared w.interceptor

theorem Tended.of_leads {w w' : DaemonWorld} {t : Table} (tended : Tended w) (leads : Leads w t w')
    (kept : TableKept t) : Tended w' :=
  ⟨⟨t, leads.stored, kept⟩, tended.declared.of_leads leads⟩

/-- The table in memory is well kept. -/
theorem Tended.kept_of {w : DaemonWorld} {t : Table} (tended : Tended w)
    (stored : w.store.backing = .memory t) : TableKept t := by
  obtain ⟨t₀, stored₀, kept⟩ := tended.kept
  obtain rfl : t = t₀ := Backing.memory.inj (stored.symm.trans stored₀)
  exact kept

theorem Tended.of_aside {w w' : DaemonWorld} {t : Table} (tended : Tended w)
    (leads : LeadsAside w t w') (kept : TableKept t) : Tended w' := by
  obtain ⟨broker, leads⟩ := leads
  have tended' : Tended { w with broker := broker } := ⟨tended.kept, tended.declared⟩
  exact tended'.of_leads leads kept

/-- The operation leaves a world tended that was so before, however it ends. -/
def Keeps {α : Type} (op : Op WorkflowExecution α) : Prop :=
  ∀ w, Tended w → Ends op w (fun _ w' => Tended w') fun _ w' => Tended w'

/-- What changes one value of a kind keeps the world, if such changes keep the table. -/
theorem keeps_of_changes {α : Type} {Spec Status : Type} [Managed Spec Status] {kind : Kind}
    {op : Op WorkflowExecution α} (changes : ChangesAside Spec Status kind op)
    (keeps : ∀ {t t'}, TableKept t → Change Spec Status kind t t' → TableKept t') : Keeps op := by
  intro w tended
  obtain ⟨t, stored, kept⟩ := tended.kept
  exact (changes w t stored).imp
    (fun _ w' ⟨t', change, leads⟩ => tended.of_aside leads (keeps kept change))
    fun _ w' ⟨t', change, leads⟩ => tended.of_aside leads (keeps kept change)

variable (config : Config) {call : Call}

theorem keeps_createAgent (own : call.kind = some .agent) (input : Agent) :
    Keeps (Agents.create (.ofEndpoint (Daemon.instances config)) call input) := by
  intro w tended
  obtain ⟨t, stored, kept⟩ := tended.kept
  refine (ends_createAgent config stored tended.declared own input).imp ?_ ?_
  · rintro r w' ⟨agent, made, created, rfl, leads, -⟩
    exact tended.of_leads leads (kept.of_recorded created)
  · rintro stop w' ⟨t', half, leads⟩
    exact tended.of_leads leads (kept.of_half half)

theorem keeps_agents (own : call.kind = some .agent) (message : Message Agent) :
    Keeps ((Daemon.agents config).controller.handle call message) := by
  cases message with
  | create resource => exact keeps_createAgent config own resource
  | update resource =>
    exact keeps_of_changes (changes_update own resource).aside TableKept.of_agents
  | apply resource =>
    -- The creation that applying may call for starts in the world that looking up has left.
    intro w tended
    obtain ⟨t, stored, kept⟩ := tended.kept
    refine ends_apply stored own (fun w' resolved leads _ _ => ?_)
      (fun w' resolved old leads _ _ _ => ?_) fun _ w' leads => tended.of_leads leads kept
    · exact keeps_createAgent config own resolved w' (tended.of_leads leads kept)
    · exact keeps_of_changes (changes_update own _).aside TableKept.of_agents w'
        (tended.of_leads leads kept)
  | delete id => exact keeps_of_changes (changes_delete own id).aside TableKept.of_agents
  | get id => exact keeps_of_changes (changes_get own id).aside TableKept.of_agents
  | getByReference reference =>
    exact keeps_of_changes (changes_getByReference own reference).aside TableKept.of_agents

theorem keeps_instances (own : call.kind = some .agentInstance) (message : Message AgentInstance) :
    Keeps ((Daemon.instances config).controller.handle call message) :=
  keeps_of_changes (changes_instances own message).aside TableKept.of_instances

theorem keeps_executions (own : call.kind = some .workflowExecution)
    (message : Message WorkflowExecution) :
    Keeps ((Daemon.executions config).controller.handle call message) :=
  keeps_of_changes (changes_executions own message) TableKept.of_executions

/-! ## Runs -/

/-- A clock that stands still. -/
def stillClock : Supply Timestamp := ⟨fun _ => .epoch, 0⟩

namespace Daemon

/-- What can be asked of the daemon. -/
inductive Operation where
  | agents (message : Message Agent)
  | instances (message : Message AgentInstance)
  | executions (message : Message WorkflowExecution)
  | status (execution : WorkflowExecution)

/-- The kind that an operation is about, which the interceptor puts on its call. -/
def Operation.kind : Operation → Kind
  | agents _ => .agent
  | instances _ => .agentInstance
  | executions _ => .workflowExecution
  | status _ => .workflowExecution

/-- The work on an operation. What it answers is of no account here. -/
def Operation.work (config : Config) (call : Call) : Operation → Op WorkflowExecution Unit
  | agents message => do let _ ← (Daemon.agents config).controller.handle call message
  | instances message => do let _ ← (Daemon.instances config).controller.handle call message
  | executions message => do let _ ← (Daemon.executions config).controller.handle call message
  | status execution => do let _ ← Daemon.updateStatus call execution

/-- What an operation meets, whichever it is: the call, the time with its cancellations, the
readings of the clock, and what the front of the store was told. -/
structure Conditions where
  call : Call
  timeline : Timeline
  clock : Supply Timestamp
  faults : Store.Faults
  delay : Option Nat

/-- The world under these conditions. -/
def Conditions.meet (c : Conditions) (w : DaemonWorld) : DaemonWorld :=
  { w with
    timeline := c.timeline
    clock := c.clock
    store := { w.store with faults := c.faults, delay := c.delay } }

/-- The call under these conditions, with the kind that the interceptor puts on it. -/
def Conditions.served (c : Conditions) (kind : Kind) : Call :=
  c.call.withKind kind

theorem Conditions.tended_meet {w : DaemonWorld} (c : Conditions) (tended : Tended w) :
    Tended (c.meet w) :=
  ⟨tended.kept, tended.declared⟩

theorem Conditions.kind_served (c : Conditions) (kind : Kind) :
    (c.served kind).kind = some kind :=
  rfl

/-- Nothing is in store for the call, the store neither fails nor delays, and the clock stands
still. -/
def Conditions.free : Conditions where
  call := { token := 0 }
  timeline := {}
  clock := stillClock
  faults := {}
  delay := none

theorem undisturbed_served (kind : Kind) :
    Conditions.free.timeline.Undisturbed (Conditions.free.served kind) :=
  ⟨rfl, nofun, nofun, nofun⟩

/-- One operation and what it meets. -/
structure Turn extends Conditions where
  operation : Operation

/-- The turn of an operation under these conditions. -/
def Conditions.turn (c : Conditions) (operation : Operation) : Turn :=
  { c with operation := operation }

/-- The outcome of a turn, with the world after it. The call is about the kind of the operation. -/
def Turn.outcome (config : Config) (w : DaemonWorld) (turn : Turn) :
    Except Stop Unit × DaemonWorld :=
  Op.outcome (turn.operation.work config (turn.call.withKind turn.operation.kind)) (turn.meet w)

/-- The world after a turn, whatever its outcome. -/
def Turn.take (config : Config) (w : DaemonWorld) (turn : Turn) : DaemonWorld :=
  (turn.outcome config w).2

theorem Conditions.take_agents (config : Config) (c : Conditions) (message : Message Agent)
    (w : DaemonWorld) : (c.turn (.agents message)).take config w =
      (((Daemon.agents config).controller.handle (c.served .agent) message).outcome
        (c.meet w)).2 :=
  congrArg Prod.snd (outcome_answer fun _ => ())

theorem Conditions.take_instances (config : Config) (c : Conditions)
    (message : Message AgentInstance) (w : DaemonWorld) :
    (c.turn (.instances message)).take config w =
      (((Daemon.instances config).controller.handle (c.served .agentInstance) message).outcome
        (c.meet w)).2 :=
  congrArg Prod.snd (outcome_answer fun _ => ())

/-- The world after turns one after another. -/
def run (config : Config) (w : DaemonWorld) (turns : List Turn) : DaemonWorld :=
  turns.foldl (Turn.take config) w

theorem run_singleton (config : Config) (w : DaemonWorld) (turn : Turn) :
    run config w [turn] = turn.take config w :=
  rfl

end Daemon

open Daemon

theorem Keeps.outcome {α : Type} {op : Op WorkflowExecution α} (keeps : Keeps op) {w : DaemonWorld}
    (tended : Tended w) : Tended (Op.outcome op w).2 := by
  have ends := keeps w tended
  unfold Ends at ends
  unfold Op.outcome
  cases ran : op.run w with
  | ok a w' => rw [ran] at ends; exact ends
  | error stop w' => rw [ran] at ends; exact ends

theorem Keeps.discard {α : Type} {op : Op WorkflowExecution α} (keeps : Keeps op) :
    Keeps (do let _ ← op) := by
  intro w tended
  rw [ends_bind]
  exact keeps w tended

theorem keeps_work (operation : Operation) (own : call.kind = some operation.kind) :
    Keeps (operation.work config call) := by
  cases operation with
  | agents message => exact (keeps_agents config own message).discard
  | instances message => exact (keeps_instances config own message).discard
  | executions message => exact (keeps_executions config own message).discard
  | status execution =>
    exact (keeps_of_changes (changes_updateStatus own execution) TableKept.of_executions).discard

/-- A turn leaves a world tended that was so before. -/
theorem tended_take {w : DaemonWorld} (tended : Tended w) (turn : Turn) :
    Tended (turn.take config w) :=
  (keeps_work config turn.operation rfl).outcome (turn.tended_meet tended)

/-- Every world that is reached from a tended one is tended. -/
theorem tended_run {w : DaemonWorld} (tended : Tended w) (turns : List Turn) :
    Tended (run config w turns) :=
  List.foldlRecOn turns _ tended fun _ tended turn _ => tended_take config tended turn

variable (timeline : Timeline) (clock : Supply Timestamp) (ids : Supply String)

/-- The daemon starts out tended over an empty store. -/
theorem tended_world : Tended (Daemon.world config (.memory .empty) timeline clock ids) :=
  ⟨⟨.empty, rfl, .empty⟩, rfl, fun _ _ remembered => by cases remembered⟩

/-- The world that is reached from the start over an empty store in memory. -/
def reached (turns : List Turn) : DaemonWorld :=
  run config (Daemon.world config (.memory .empty) timeline clock ids) turns

theorem reached_singleton (turn : Turn) :
    reached config timeline clock ids [turn] =
      turn.take config (reached config timeline clock ids []) :=
  run_singleton config _ turn

theorem tended_reached (turns : List Turn) :
    Tended (reached config timeline clock ids turns) :=
  tended_run config (tended_world config timeline clock ids) turns

/-! ## What holds of every store that is reached -/

/-- Every value of the kind decodes to a resource of the kind with the id that it is stored under,
and no two of these resources have the same natural key. -/
def NaturallyKeyed (Spec Status : Type) [Managed Spec Status] (kind : Kind) (t : Table) : Prop :=
  (∀ id bytes, t.get? ⟨kind.name, id⟩ = some bytes → ∃ r : Resource Spec Status,
    Resource.decode bytes = .ok r ∧ r.kindName = kind.name ∧ r.metadata.id = id) ∧
  ∀ id id' bytes bytes' (r r' : Resource Spec Status),
    t.get? ⟨kind.name, id⟩ = some bytes → t.get? ⟨kind.name, id'⟩ = some bytes' →
    Resource.decode bytes = .ok r → Resource.decode bytes' = .ok r' →
    r.metadata.scope = r'.metadata.scope → r.metadata.slug = r'.metadata.slug → id = id'

theorem KindKept.naturallyKeyed {Spec Status : Type} [Managed Spec Status] {kind : Kind} {t : Table}
    (kept : KindKept Spec Status kind t) : NaturallyKeyed Spec Status kind t := by
  constructor
  · intro id bytes found
    obtain ⟨r, read, named, sound⟩ := kept.readable id bytes found
    exact ⟨r, read, sound.kindName, named⟩
  · intro id id' bytes bytes' r r' found found' read read' scope slug
    exact kept.unique id id' r r' ⟨bytes, found, read⟩ ⟨bytes', found', read'⟩ ⟨scope, slug⟩

/-- Every value of the kind decodes to a sound resource of the kind. -/
def AllSound (Spec Status : Type) [Managed Spec Status] (kind : Kind) (t : Table) : Prop :=
  ∀ id bytes, t.get? ⟨kind.name, id⟩ = some bytes → ∃ r : Resource Spec Status,
    Resource.decode bytes = .ok r ∧ Sound kind r

theorem KindKept.allSound {Spec Status : Type} [Managed Spec Status] {kind : Kind} {t : Table}
    (kept : KindKept Spec Status kind t) : AllSound Spec Status kind t := by
  intro id bytes found
  obtain ⟨r, read, -, sound⟩ := kept.readable id bytes found
  exact ⟨r, read, sound⟩

/-- In every store that is reached, natural keys are unique and values stand under their own ids. -/
theorem naturalKeys_reached (turns : List Turn) :
    ∃ t, (reached config timeline clock ids turns).store.backing = .memory t ∧
      (∀ key bytes, t.get? key = some bytes → ∃ kind ∈ servedKinds, key.kind = kind.name) ∧
      NaturallyKeyed AgentSpec AgentStatus .agent t ∧
      NaturallyKeyed AgentInstanceSpec Unit .agentInstance t ∧
      NaturallyKeyed ExecutionSpec ExecutionStatus .workflowExecution t := by
  obtain ⟨t, stored, kept⟩ := (tended_reached config timeline clock ids turns).kept
  exact ⟨t, stored, kept.known, kept.agents.naturallyKeyed, kept.instances.naturallyKeyed,
    kept.executions.naturallyKeyed⟩

/-- In every store that is reached, all resources are sound. -/
theorem allSound_reached (turns : List Turn) :
    ∃ t, (reached config timeline clock ids turns).store.backing = .memory t ∧
      (∀ key bytes, t.get? key = some bytes → ∃ kind ∈ servedKinds, key.kind = kind.name) ∧
      AllSound AgentSpec AgentStatus .agent t ∧
      AllSound AgentInstanceSpec Unit .agentInstance t ∧
      AllSound ExecutionSpec ExecutionStatus .workflowExecution t := by
  obtain ⟨t, stored, kept⟩ := (tended_reached config timeline clock ids turns).kept
  exact ⟨t, stored, kept.known, kept.agents.allSound, kept.instances.allSound,
    kept.executions.allSound⟩

end Steward
