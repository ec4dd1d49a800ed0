import Steward.Proofs.Alterations
import Steward.Proofs.Guarantees

/-!
# The keys of what is stored

A store in memory refuses a key that cannot be a path, whatever asks for it. So under every key that
it holds, a value can be put again. Main statement: `filed_reached`.
-/

namespace Steward

open Store Daemon

/-- What is in memory stands under keys that are accepted. -/
def Filed (s : Store) : Prop :=
  ∀ t, s.backing = .memory t → ∀ key bytes, t.get? key = some bytes → checkKey key = .ok ()

theorem filed_empty {s : Store} (stored : s.backing = .memory .empty) : Filed s := by
  intro t same key bytes found
  obtain rfl : t = .empty := Backing.memory.inj (same.symm.trans stored)
  cases found

/-- Only what the store was told, or how many values it has stored, is different. -/
theorem Filed.of_backing {s s' : Store} (filed : Filed s) (same : s'.backing = s.backing) :
    Filed s' :=
  fun t stored => filed t (same.symm.trans stored)

/-- Storing checks the key, and removing leaves fewer keys. -/
theorem Filed.touches {s s' : Store} (touches : Touches s s') (filed : Filed s) : Filed s' := by
  cases touches with
  | put key value unique =>
    unfold Store.put
    split
    · exact filed.of_backing rfl
    split
    · next table stored =>
      unfold Table.store
      cases accepted : checkKey key with
      | error failure => exact filed
      | ok =>
        rintro _ ⟨⟩ other bytes found
        rw [Table.get?_put] at found
        by_cases same : other = key
        · rw [same, accepted]
        · rw [if_neg same] at found
          exact filed table stored other bytes found
    · split
      all_goals rintro _ ⟨⟩
  | get key =>
    unfold Store.get
    split
    · exact filed.of_backing rfl
    · split <;> exact filed
  | delete key =>
    unfold Store.delete
    split
    · exact filed.of_backing rfl
    split
    · next table stored =>
      unfold Table.remove
      cases table.get? key with
      | none => exact filed
      | some value =>
        rintro _ ⟨⟩ other bytes found
        rw [Table.get?_erase] at found
        by_cases same : other = key
        · rw [if_pos same] at found
          cases found
        · rw [if_neg same] at found
          exact filed table stored other bytes found
    · rintro _ ⟨⟩
  | list kind =>
    unfold Store.list
    split
    · exact filed.of_backing rfl
    · exact filed

/-- The store stays filed if it was. -/
def StaysFiled {Item : Type} (w w' : World Item) : Prop :=
  Filed w.store → Filed w'.store

theorem filed_guarantee {Item : Type} :
    Guarantee (StaysFiled : World Item → World Item → Prop) where
  refl _ := id
  trans first second := second ∘ first
  aside same _ filed := same ▸ filed
  touches _ _ touches := Filed.touches touches

/-! ## Services -/

section Services

variable {Item Spec Status : Type} [Managed Spec Status]

/-- A service with the standard pipelines for all but creations keeps the store filed if these
do. -/
theorem filed_standard (kind : Kind) (call : Call)
    {create : Call → Resource Spec Status → Op Item (Resource Spec Status)}
    (creates : ∀ input, Stays StaysFiled (create call input))
    (message : Message (Resource Spec Status)) :
    Stays StaysFiled ((standardController kind create).handle call message) := by
  have g : Guarantee (StaysFiled : World Item → World Item → Prop) := filed_guarantee
  have updates (input : Resource Spec Status) :
      Stays StaysFiled ((Standard.update kind : Pipeline Item _ _).write call input) :=
    g.write call input g.updateSteps
  cases message with
  | create input => exact creates input
  | update input => exact updates input
  | apply input => exact g.apply kind call creates updates input
  | delete id => exact g.remove kind call id
  | get id => exact g.query kind call id
  | getByReference reference => exact g.queryByReference kind call reference

theorem filed_instances (config : Config) (call : Call) (message : Message AgentInstance) :
    Stays StaysFiled ((Daemon.instances config).controller.handle call message) :=
  filed_standard .agentInstance call
    (fun input => filed_guarantee.write call input filed_guarantee.createSteps) message

omit [Managed Spec Status] in
/-- Handing the new state on has nothing to do with the store. -/
theorem filed_publish : StaysWork StaysFiled (Catalog.publish : Step (Resource Spec Status)
    (Resource Spec Status) (Resource Spec Status)).run :=
  filed_guarantee.onSessions.bind filed_guarantee.newState fun _ =>
    filed_guarantee.onSessions.bind (fun _ => id) fun _ => filed_guarantee.onSessions.pure _

end Services

/-- A request through the client of a service ends as the work on it does. -/
theorem filed_send {Item R : Type} {e : Endpoint Item R} {message : Message R}
    (handles : ∀ call, Stays StaysFiled (e.controller.handle call message)) (call : Call) :
    Stays StaysFiled (e.send call message) := by
  have g : Guarantee (StaysFiled : World Item → World Item → Prop) := filed_guarantee
  refine g.bind g.get fun w => g.bind (g.check _) fun _ => g.bind (g.onTimeline _) fun _ =>
    g.bind (g.intercept _ _) fun served =>
      g.bind (Guarantee.attempt (handles served)) fun outcome => g.bind (g.check _) fun _ => ?_
  match outcome with
  | .ok resource => exact g.pure _
  | .error (.failed failure) => exact g.fail _
  | .error (.broken detail) => exact g.fail _

theorem filed_createAgent (config : Config) (call : Call) (input : Agent) :
    Stays StaysFiled (Agents.create (.ofEndpoint (Daemon.instances config)) call input) := by
  have g : Guarantee (StaysFiled : DaemonWorld → DaemonWorld → Prop) := filed_guarantee
  refine g.write call input ?_
  simp only [Agents.createPipeline, List.forall_mem_append, List.forall_mem_cons]
  refine ⟨g.createSteps, ?_, ?_, List.forall_mem_nil _⟩
  · refine g.onSessions.bind g.newState fun agent => g.onSessions.ifNot (g.failWork _)
      (g.onSessions.bind g.request fun r => ?_)
    refine g.onSessions.bind (Guarantee.perform ?_) fun _ => g.modifyRequest _
    exact g.bind (g.onTimeline _) fun child => filed_send
      (fun served => filed_instances config served _) child
  · refine g.onSessions.bind g.request fun r => ?_
    split
    · exact g.failWork _
    · exact g.onSessions.bind g.newState fun _ => g.onSessions.bind (g.modifyRequest _) fun _ =>
        g.persistNewState

theorem filed_agents (config : Config) (call : Call) (message : Message Agent) :
    Stays StaysFiled ((Daemon.agents config).controller.handle call message) :=
  filed_standard .agent call (filed_createAgent config call) message

theorem filed_executions (config : Config) (call : Call) (message : Message WorkflowExecution) :
    Stays StaysFiled ((Daemon.executions config).controller.handle call message) := by
  have g : Guarantee (StaysFiled : DaemonWorld → DaemonWorld → Prop) := filed_guarantee
  cases message with
  | create input =>
    refine g.write call input ?_
    simp only [Executions.createPipeline, List.forall_mem_append, List.forall_mem_cons]
    exact ⟨g.createSteps, filed_publish, List.forall_mem_nil _⟩
  | update input =>
    refine g.write call input ?_
    simp only [Executions.updatePipeline, List.forall_mem_append, List.forall_mem_cons]
    exact ⟨g.updateSteps, filed_publish, List.forall_mem_nil _⟩
  | apply input => exact g.fail _
  | delete id => exact g.remove Executions.kind call id
  | get id => exact g.query Executions.kind call id
  | getByReference reference => exact g.fail _

theorem filed_updateStatus (call : Call) (input : WorkflowExecution) :
    Stays StaysFiled (Daemon.updateStatus call input) := by
  have g : Guarantee (StaysFiled : DaemonWorld → DaemonWorld → Prop) := filed_guarantee
  refine g.write call input ?_
  simp only [Executions.statusPipeline, List.forall_mem_cons]
  exact ⟨g.loadExisting, g.mergeStatus, g.persist, filed_publish, List.forall_mem_nil _⟩

/-! ## Turns of the daemon -/

variable (config : Config)

theorem filed_work (operation : Operation) (call : Call) :
    Stays StaysFiled (operation.work config call) := by
  have g : Guarantee (StaysFiled : DaemonWorld → DaemonWorld → Prop) := filed_guarantee
  cases operation with
  | agents message => exact g.bind (filed_agents config call message) fun _ => g.pure _
  | instances message => exact g.bind (filed_instances config call message) fun _ => g.pure _
  | executions message => exact g.bind (filed_executions config call message) fun _ => g.pure _
  | status execution => exact g.bind (filed_updateStatus call execution) fun _ => g.pure _

theorem filed_take {w : DaemonWorld} (filed : Filed w.store) (turn : Turn) :
    Filed (turn.take config w).store := by
  have met : Filed (turn.meet w).store := filed.of_backing rfl
  have stays := filed_work config turn.operation (turn.call.withKind turn.operation.kind)
    (turn.meet w)
  obtain ⟨_, w', outcome, kept⟩ | ⟨_, w', outcome, kept⟩ := stays.outcome_cases
  all_goals
    rw [Turn.take, Turn.outcome, outcome]
    exact kept met

/-- In every store that is reached, all keys are accepted. -/
theorem filed_reached (timeline : Timeline) (clock : Supply Timestamp) (ids : Supply String)
    (turns : List Turn) : Filed (reached config timeline clock ids turns).store :=
  List.foldlRecOn (motive := fun w : DaemonWorld => Filed w.store) turns _ (filed_empty rfl)
    fun _ filed turn _ => filed_take config filed turn

end Steward
