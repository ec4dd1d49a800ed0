import Steward.Proofs.Alterations
import Steward.Proofs.DefaultInstances

/-!
# Agents and their default instances

The agent that is created refers to its default instance once both are in place. Updates keep the
reference, and on the other side they keep the owner and the scope of the instance. So as long as no
instance is deleted, and none is stored in the place of another, no reference dangles. Main
statements: `Operation.Alters.allLinked`, `BothCreated.furnished` and `linked_reached`.
-/

namespace Steward

open Store Daemon

/-! ## References -/

/-- The default instance that the agent refers to is stored, belongs to the agent and has the scope
of the agent. -/
def Linked (t : Table) (agent : Agent) : Prop :=
  ∃ made : AgentInstance, Holds .agentInstance t agent.status.defaultInstanceId made ∧
    made.spec.agentId = agent.id ∧ made.metadata.scope = agent.metadata.scope

/-- The agent refers to no default instance, or to one of its own that is stored. -/
def MayLink (t : Table) (agent : Agent) : Prop :=
  agent.status.defaultInstanceId = "" ∨ Linked t agent

/-- No stored agent has a reference that dangles. -/
def AllLinked (t : Table) : Prop :=
  ∀ id (agent : Agent), Holds .agent t id agent → MayLink t agent

section References

variable {t t' : Table} {agent old : Agent}

/-- A later version of the instance belongs to the same agent and has the same scope. -/
theorem MayLink.of_continued (links : MayLink t agent)
    (continued : Continued AgentInstanceSpec Unit .agentInstance t t') : MayLink t' agent := by
  rcases links with none | ⟨made, held, owner, scope⟩
  · exact .inl none
  · obtain ⟨later, held', continues, -⟩ := continued _ made held
    have owner' : later.spec.agentId = made.spec.agentId := continues.part
    exact .inr ⟨later, held', owner'.trans owner, continues.scope.trans scope⟩

/-- A later version of the agent has the same id, scope and reference. -/
theorem MayLink.of_continues (links : MayLink t old) (continues : Continues old agent) :
    MayLink t agent := by
  have status : agent.status = old.status := continues.part
  unfold MayLink Linked
  rw [status, continues.id, continues.scope]
  exact links

/-- Where agents are as they were and instances go on, no reference comes to dangle. -/
theorem AllLinked.of_continued (all : AllLinked t)
    (agents : ∀ id, t'.get? ⟨(Kind.agent).name, id⟩ = t.get? ⟨(Kind.agent).name, id⟩)
    (continued : Continued AgentInstanceSpec Unit .agentInstance t t') : AllLinked t' := by
  rintro id agent ⟨bytes, found, read⟩
  rw [agents] at found
  exact (all id agent ⟨bytes, found, read⟩).of_continued continued

/-- An agent that refers to nothing or to an instance of its own may be stored. -/
theorem AllLinked.stowed (all : AllLinked t) (sound : Sound .agent agent)
    (links : MayLink t agent) : AllLinked (stow .agent t agent) := by
  have instances : Continued AgentInstanceSpec Unit .agentInstance t (stow .agent t agent) :=
    .of_eq fun _ => Table.get?_put_of_ne (by simp [Kind.name])
  intro id other held
  rcases (holds_put sound).1 held with ⟨-, rfl⟩ | ⟨-, before⟩
  · exact links.of_continued instances
  · exact (all id other before).of_continued instances

theorem AllLinked.erase (all : AllLinked t) (id : String) :
    AllLinked (t.erase ⟨(Kind.agent).name, id⟩) := by
  have instances : Continued AgentInstanceSpec Unit .agentInstance t
      (t.erase ⟨(Kind.agent).name, id⟩) :=
    .of_eq fun _ => by rw [Table.get?_erase, if_neg (by simp [Kind.name])]
  intro id' agent held
  exact (all id' agent (holds_erase.1 held).2).of_continued instances

end References

/-! ## Creations -/

section Creations

variable {Spec Status : Type} [Managed Spec Status] [LawfulManaged Spec Status] {kind : Kind}
  {t : Table} {ids : Supply String}

/-- All that is stored goes on when a resource is stored under an id that was vacant. -/
theorem Created.continued [Permanent Spec Status] {input r : Resource Spec Status}
    (created : Created kind t ids input r) (vacant : t.get? ⟨kind.name, r.id⟩ = none) :
    Continued Spec Status kind t (stow kind t r) := by
  intro id old held
  by_cases same : id = r.id
  · subst same
    obtain ⟨bytes, found, -⟩ := held
    rw [vacant] at found
    cases found
  · have held' : Holds kind (stow kind t r) id old :=
      (holds_put created.sound).2 (.inr ⟨same, held⟩)
    exact ⟨old, held', .refl old, .inl rfl⟩

end Creations

section Agents

variable {t t' : Table} {ids : Supply String} {input agent : Agent} {made : AgentInstance}

/-- What an agent leads to when it is created: it is stored as it was answered, it refers to an
instance of its own, and nothing but these two is different. -/
structure Furnished (t t' : Table) (agent : Agent) : Prop where
  named : agent.status.defaultInstanceId ≠ ""
  held : Holds .agent t' agent.id agent
  linked : Linked t' agent
  apart : ∀ key, key ≠ ⟨(Kind.agent).name, agent.id⟩ →
    key ≠ ⟨(Kind.agentInstance).name, agent.status.defaultInstanceId⟩ → t'.get? key = t.get? key

theorem BothCreated.linked (both : BothCreated t ids input agent made) :
    Linked (stowBoth t agent made) (recorded agent made.id) := by
  obtain ⟨slug, id, now, -, stamped⟩ := both.configured.made
  refine ⟨made, both.holds_made, ?_, ?_⟩
  · rw [stamped]
    rfl
  · rw [stamped]
    rfl

theorem BothCreated.furnished (both : BothCreated t ids input agent made) :
    Furnished t (stow .agent (stowBoth t agent made) (recorded agent made.id))
      (recorded agent made.id) := by
  have other : (Kind.agentInstance).name ≠ (Kind.agent).name := by decide
  refine ⟨both.configured.named.ne_empty, both.holds_recorded, ?_, ?_⟩
  · obtain ⟨made', held, owner, scope⟩ := both.linked
    exact ⟨made', (holds_stow_of_ne other).2 held, owner, scope⟩
  · intro key apart apart'
    have apartMade : key ≠ ⟨(Kind.agentInstance).name, made.id⟩ := apart'
    rw [stow, Table.get?_put_of_ne apart, stowBoth, stow, Table.get?_put_of_ne apartMade, stow]
    exact Table.get?_put_of_ne apart

/-- The default instance of a new agent is stored under an id that was vacant. -/
theorem AllLinked.of_both (all : AllLinked t) (both : BothCreated t ids input agent made)
    (fresh : FreshIds t ids) : AllLinked (stowBoth t agent made) := by
  have other : (Kind.agent).name ≠ (Kind.agentInstance).name := by decide
  have vacant : (stow .agent t agent).get? ⟨(Kind.agentInstance).name, made.id⟩ = none := by
    rw [stow, Table.get?_put_of_ne (by simp [Kind.name])]
    exact both.vacant fresh
  have first : AllLinked (stow .agent t agent) :=
    all.stowed both.template.sound (.inl both.template.defaultInstanceId)
  refine first.of_continued (fun id => ?_) (both.configured.continued vacant)
  exact both.configured.change.get? other

end Agents

/-! ## Operations -/

section Operations

variable {t t' : Table} {ids : Supply String}

theorem Resolved.delegates {Spec Status : Type} [Managed Spec Status] {kind : Kind}
    {input state : Resource Spec Status} (resolved : Resolved input state)
    (free : KeyFree kind t state) : Delegates kind t input := by
  intro other resolved'
  rw [← resolved.unique resolved']
  exact free

theorem Message.Creating.creates_agent {message : Message Agent} {input : Agent}
    (creating : message.Creating .agent t input) :
    (Operation.agents message).Creates t input.id := by
  cases creating with
  | create => exact .agent input
  | @apply asked _ resolved free =>
    have delegates := resolved.delegates free
    obtain ⟨slug, -, rfl⟩ := resolved
    exact .applyAgent asked delegates

theorem Message.Creating.creates_instance {message : Message AgentInstance} {input : AgentInstance}
    (creating : message.Creating .agentInstance t input) :
    (Operation.instances message).Creates t input.id := by
  cases creating with
  | create => exact .instance_ input
  | @apply asked _ resolved free =>
    have delegates := resolved.delegates free
    obtain ⟨slug, -, rfl⟩ := resolved
    exact .applyInstance asked delegates

/-- The operation takes no agent instance away: it deletes none, and what it creates gets an id that
was not chosen and that nothing is stored under. -/
structure Daemon.Operation.Careful (t : Table) (ids : Supply String) (operation : Operation) :
    Prop where
  unchosen : ∀ chosen, operation.Creates t chosen → chosen = ""
  fresh : ∀ chosen, operation.Creates t chosen → FreshIds t ids
  keeps : ∀ id, operation ≠ .instances (.delete id)

/-- After a careful operation no reference dangles, if none did before. -/
theorem Daemon.Operation.Alters.allLinked {operation : Operation}
    (alters : operation.Alters t ids t') (careful : operation.Careful t ids) (kept : TableKept t)
    (all : AllLinked t) : AllLinked t' := by
  have other : (Kind.agent).name ≠ (Kind.agentInstance).name := by decide
  cases alters with
  | agents written =>
    cases written with
    | create creating makes =>
      obtain ⟨both⟩ := makes
      have fresh := careful.fresh _ creating.creates_agent
      exact (all.of_both both fresh).stowed (both.template.sound.restatus _) (.inr both.linked)
    | update updating revised =>
      have advances := revised.advances kept.agents
      have sound := revised.nextVersion.sound (kept.agents.of_holds advances.before).2
      exact all.stowed sound ((all _ _ advances.before).of_continues advances.continues)
    | delete => exact all.erase _
    | read => exact all
  | agentsHalted halted =>
    cases halted with
    | nothing => exact all
    | creating creating half =>
      cases half with
      | nothing => exact all
      | agent agent created => exact all.stowed created.sound (.inl created.defaultInstanceId)
      | both agent made both =>
        exact all.of_both both (careful.fresh _ creating.creates_agent)
  | instances written =>
    cases written with
    | create creating makes =>
      obtain ⟨created, rfl⟩ := makes
      -- Its id was vacant, so it takes the place of no instance that an agent refers to.
      have creates := creating.creates_instance
      have vacant := (created.named.vacant_iff (careful.fresh _ creates)).2
        (.inl (careful.unchosen _ creates))
      exact all.of_continued (fun _ => created.change.get? other) (created.continued vacant)
    | update updating revised =>
      have advances := revised.advances kept.instances
      exact all.of_continued (fun _ => (change_of_revised ⟨_, revised⟩).get? other)
        advances.continued
    | delete => exact absurd rfl (careful.keeps _)
    | read => exact all
  | instancesHalted => exact all
  | executions about change =>
    have agents : (Kind.agent).name ≠ (Kind.workflowExecution).name := by decide
    have instances : (Kind.agentInstance).name ≠ (Kind.workflowExecution).name := by decide
    exact all.of_continued (fun _ => change.get? agents) (.of_eq fun _ => change.get? instances)

end Operations

/-! ## Runs -/

section Runs

variable (config : Config)

/-- No reference dangles after careful operations one after another, if none did before. -/
theorem allLinked_run {w : DaemonWorld} {t : Table} {turns : List Turn} (tended : Tended w)
    (stored : w.store.backing = .memory t) (all : AllLinked t)
    (careful : ∀ earlier turn rest t, turns = earlier ++ turn :: rest →
      (run config w earlier).store.backing = .memory t →
      turn.operation.Careful t (run config w earlier).ids) :
    ∃ t', (run config w turns).store.backing = .memory t' ∧ AllLinked t' := by
  induction turns generalizing w t with
  | nil => exact ⟨t, stored, all⟩
  | cons turn turns ih =>
    have kept := tended.kept_of stored
    obtain ⟨t₁, alters, broker, leads⟩ := alters_take config tended stored turn
    have linked := alters.allLinked (careful [] turn turns t rfl stored) kept all
    refine ih (tended_take config tended turn) leads.stored linked ?_
    intro earlier turn' rest t' split
    exact careful (turn :: earlier) turn' rest t' (by rw [split]; rfl)

variable (timeline : Timeline) (clock : Supply Timestamp) (ids : Supply String)

/-- In every store that is reached by careful operations no reference dangles. The creation of an
agent that succeeds there answers the agent as it is stored, which refers to an instance of its own,
and nothing but these two is different afterwards. -/
theorem linked_reached (turns : List Turn)
    (careful : ∀ earlier turn rest t, turns = earlier ++ turn :: rest →
      (reached config timeline clock ids earlier).store.backing = .memory t →
      turn.operation.Careful t (reached config timeline clock ids earlier).ids) :
    ∃ t, (reached config timeline clock ids turns).store.backing = .memory t ∧ AllLinked t ∧
      ∀ (c : Conditions) (message : Message Agent) (input r : Agent) (w' : DaemonWorld),
        message.Creating .agent t input →
        ((Daemon.agents config).controller.handle (c.served .agent) message).outcome
          (c.meet (reached config timeline clock ids turns)) = (.ok r, w') →
        ∃ t', w'.store.backing = .memory t' ∧ Furnished t t' r := by
  have tended := tended_reached config timeline clock ids turns
  have none : AllLinked .empty := by
    rintro id agent ⟨bytes, found, -⟩
    cases found
  obtain ⟨t, stored, all⟩ :=
    allLinked_run config (tended_world config timeline clock ids) rfl none careful
  refine ⟨t, stored, all, ?_⟩
  intro c message input r w' creating done
  have ends := ends_handleAgents (w := c.meet (reached config timeline clock ids turns)) config
    stored tended.declared (c.kind_served .agent) message
  obtain ⟨t', written, leads⟩ := ends.of_eq_ok done
  obtain ⟨both⟩ := written.makes creating
  exact ⟨_, leads.stored, both.furnished⟩

end Runs

/-- A daemon that is asked for the creation of an agent alone has been careful. -/
theorem careful_critic : ∀ earlier turn rest t,
    [Conditions.free.turn (.agents (.create critic))] = earlier ++ turn :: rest →
    (reached {} {} stillClock sameTexts earlier).store.backing = .memory t →
    turn.operation.Careful t (reached {} {} stillClock sameTexts earlier).ids := by
  intro earlier turn rest t split stored
  cases earlier with
  | nil =>
    obtain ⟨rfl, rfl⟩ := List.cons.inj split
    cases stored
    refine ⟨fun chosen creates => ?_, fun chosen creates kind n later => rfl, fun id same => ?_⟩
    · cases creates
      rfl
    · cases same
  | cons first earlier =>
    obtain ⟨-, none⟩ := List.cons.inj split
    simp at none

/-- Afterwards the agent is stored with a reference to a default instance of its own. -/
theorem linked_reached_critic : ∃ (turns : List Turn) (t : Table) (r : Agent),
    (∀ earlier turn rest t, turns = earlier ++ turn :: rest →
      (reached {} {} stillClock sameTexts earlier).store.backing = .memory t →
      turn.operation.Careful t (reached {} {} stillClock sameTexts earlier).ids) ∧
    (reached {} {} stillClock sameTexts turns).store.backing = .memory t ∧ AllLinked t ∧
    Holds .agent t r.id r ∧ r.status.defaultInstanceId ≠ "" := by
  obtain ⟨r, w', done⟩ := outcome_critic (tended_reached {} {} stillClock sameTexts []) rfl
    (Supply.wordy_const rfl 0)
  obtain ⟨t, stored, all, -⟩ := linked_reached {} {} stillClock sameTexts _ careful_critic
  obtain ⟨t₀, stored₀, -, furnishes⟩ := linked_reached {} {} stillClock sameTexts [] (by simp)
  obtain ⟨t', stored', furnished⟩ := furnishes Conditions.free _ critic r w' (.create critic) done
  have after : (reached {} {} stillClock sameTexts
      [Conditions.free.turn (.agents (.create critic))]).store.backing = .memory t' := by
    rw [reached_singleton, Conditions.take_agents, done]
    exact stored'
  obtain rfl : t = t' := Backing.memory.inj (stored.symm.trans after)
  exact ⟨_, t, r, careful_critic, stored, all, furnished.held, furnished.named⟩

end Steward
