import Steward.Proofs.Alterations
import Steward.Proofs.DefaultInstances

/-!
# Agents that are refused

The creation of an agent is refused for what the agent is, or for what its default instance would
be. The first is found out before anything is written. The second is found out by another service,
once the agent is in place, and nothing is undone then: the agent stays, without a default instance.
Main statement: `rejected_reached`.
-/

namespace Steward

open Store Daemon Agents

/-! ## What a refusal leaves -/

section Refusals

variable {w : DaemonWorld} {t : Table} {call : Call} {input agent : Agent}

/-- The default instance of the agent is refused: the agent's id does not begin as ids of agents do,
or a stored instance has the natural key that the default instance would get. -/
def DefaultRefused (t : Table) (agent : Agent) : Prop :=
  ¬ BeginsAsAgent agent.id ∨
    ∃ id, ∃ other : AgentInstance, Holds .agentInstance t id other ∧
      Keyed (defaultRequest agent) other

theorem not_furnishable_iff : ¬ Furnishable t agent ↔ DefaultRefused t agent := by
  constructor
  · intro refused
    by_cases begins : BeginsAsAgent agent.id
    · refine .inr (Classical.byContradiction fun vacant => refused ⟨begins, ?_⟩)
      intro id other held keyed
      exact vacant ⟨id, other, held, keyed⟩
    · exact .inl begins
  · rintro (begins | ⟨id, other, held, keyed⟩) furnishable
    · exact begins furnishable.begins
    · exact furnishable.vacant id other held keyed

/-- What the creation of an agent leaves when it is refused: the table as it was if something speaks
against the agent, and the agent if something speaks against its default instance. -/
inductive RefusedLeaving (t : Table) (ids : Supply String) (input : Agent) : Table → Prop where
  | nothing (unfit : ¬ Admitted t input) : RefusedLeaving t ids input t
  | agent {agent : Agent} (admitted : Admitted t input)
      (created : Created .agent t ids input agent) (refused : DefaultRefused t agent) :
      RefusedLeaving t ids input (stow .agent t agent)

variable (config : Config)

/-- Where the store was not told to fail, a creation that is not interrupted is refused for the
agent or for its default instance. -/
theorem ends_createAgent_refused (faultless : w.store.faults = {})
    (stored : w.store.backing = .memory t) (declared : Declared w.interceptor)
    (own : call.kind = some .agent) (kept : TableKept t) (wordy : w.ids.Wordy) (input : Agent) :
    Ends (create (.ofEndpoint (Daemon.instances config)) call input) w (fun _ _ => True)
      fun stop w' => Interrupts config call w stop ∨
        ∃ t', RefusedLeaving t w.ids input t' ∧ Leads w t' w' := by
  have steps : (createPipeline (.ofEndpoint (Daemon.instances config))).steps =
    Standard.createSteps ++ furnishSteps config := rfl
  unfold Agents.create Pipeline.write
  rw [ends_bind, ends_execute, steps, ends_runSteps_append]
  have stows := stows_createSteps (s := seededSession w call input) (t := t) stored own rfl
  have first : Ends (Pipeline.runSteps Standard.createSteps) (seededSession w call input)
      (fun _ s' => ∃ agent, Created .agent t w.ids input agent ∧
        Leads w (stow .agent t agent) s'.world ∧ s'.request.call = call ∧
        s'.request.newState = some agent ∧ Placed .agent agent call s'.world)
      fun stop s' => Interrupts config call w stop ∨
        ∃ t', RefusedLeaving t w.ids input t' ∧ Leads w t' s'.world := by
    by_cases admitted : Admitted t input
    · refine (Ends.and (admitted.passes faultless stored own kept.agents wordy) stows).imp ?_ ?_
      · rintro _ s' ⟨-, done⟩
        exact done
      · rintro stop s' ⟨halts, -⟩
        exact .inl (halts.interrupts (·.endless))
    · refine Ends.imp stows (fun _ _ done => done) fun stop s' leads => ?_
      exact .inr ⟨t, .nothing admitted, leads⟩
  refine first.imp ?_ fun _ _ ended => ended
  rintro _ s₁ ⟨agent, created, leads₁, call₁, filled₁, placed⟩
  have declared₁ : Declared s₁.world.interceptor := declared.of_leads leads₁
  have own₁ : s₁.request.call.kind = some .agent := by rw [call₁]; exact own
  have furnishes := ends_furnishSteps config leads₁.stored declared₁ own₁ filled₁
  by_cases furnishable : Furnishable t agent
  · have kept₁ := (kept.of_agents created.change).instances
    refine (Ends.and (ends_furnish config (leads₁.faultless faultless) leads₁.stored declared₁ kept₁
      (wordy.of_leads leads₁) own₁ filled₁ created.sound placed.accepted
      (furnishable_stow.2 furnishable)) furnishes).imp ?_ ?_
    · rintro _ s₂ ⟨-, made, -, -, filled₂⟩
      rw [Request.getNewState, filled₂]
      trivial
    · rintro stop s₂ ⟨interrupts, -⟩
      rw [call₁] at interrupts
      exact .inl (interrupts.of_leads leads₁)
  · -- Its default instance cannot have been created, so the agent is all that was stored.
    have never : ∀ made,
        ¬ Created .agentInstance (stow .agent t agent) s₁.world.ids (defaultRequest agent) made :=
      fun made created' => furnishable (furnishable_stow.1 created'.furnishable)
    refine furnishes.imp ?_ ?_
    · rintro _ s₂ ⟨made, created', -⟩
      exact absurd created' (never made)
    · rintro stop s₂ (leads₂ | ⟨made, created', -⟩)
      · exact .inr ⟨_, .agent (created.admitted placed.accepted) created
          (not_furnishable_iff.1 furnishable), leads₁.trans leads₂⟩
      · exact absurd created' (never made)

/-- What speaks against the input of a request, or against what is stored along with it. -/
def Rejects (failure : Failure) : Prop :=
  failure.code = .invalidArgument ∨ failure.code = .alreadyExists

theorem Interrupts.not_rejects {config : Config} {call : Call} {w : DaemonWorld}
    {failure : Failure} (interrupts : Interrupts config call w (.failed failure)) :
    ¬ Rejects failure := by
  rcases interrupts.halt with same | same
  all_goals
    obtain rfl := Stop.failed.inj same
    rintro (code | code)
    all_goals cases code

/-- What interrupts a call rejects nothing, so a rejection is a refusal. -/
theorem leads_of_rejected (faultless : w.store.faults = {})
    (stored : w.store.backing = .memory t) (declared : Declared w.interceptor)
    (own : call.kind = some .agent) (kept : TableKept t) (wordy : w.ids.Wordy) {failure : Failure}
    {w' : DaemonWorld}
    (rejected : (create (.ofEndpoint (Daemon.instances config)) call input).outcome w =
      (.error (.failed failure), w'))
    (rejects : Rejects failure) :
    ∃ t', RefusedLeaving t w.ids input t' ∧ Leads w t' w' := by
  have ends := ends_createAgent_refused config faultless stored declared own kept wordy input
  obtain interrupts | left := ends.of_eq_error rejected
  · exact absurd rejects interrupts.not_rejects
  · exact left

end Refusals

/-! ## Every store that is reached -/

section Reached

variable (config : Config) (timeline : Timeline) (clock : Supply Timestamp) (ids : Supply String)

/-- In every store that is reached, if the store does not fail: the creation of an agent that is
rejected leaves the store as it was, unless it is the default instance of the agent that is refused.
Then it leaves the agent, without a default instance, and changes nothing else. -/
theorem rejected_reached (wordy : ids.Wordy) (turns : List Turn) (c : Conditions)
    (faultless : c.faults = {}) (input : Agent) (failure : Failure) (w' : DaemonWorld)
    (rejected : ((Daemon.agents config).controller.handle (c.served .agent)
      (.create input)).outcome (c.meet (reached config timeline clock ids turns)) =
        (.error (.failed failure), w'))
    (rejects : Rejects failure) :
    ∃ t t', (reached config timeline clock ids turns).store.backing = .memory t ∧
      w'.store.backing = .memory t' ∧
      ((¬ Admitted t input ∧ t' = t) ∨
        ∃ agent, Admitted t input ∧ agent.status.defaultInstanceId = "" ∧
          Created .agent t (reached config timeline clock ids turns).ids input agent ∧
          DefaultRefused t agent ∧ t' = stow .agent t agent) := by
  have tended := tended_reached config timeline clock ids turns
  obtain ⟨t, stored, kept⟩ := tended.kept
  have wordy' := wordy_reached config timeline clock wordy turns
  obtain ⟨t', leaving, leads⟩ := leads_of_rejected
    (w := c.meet (reached config timeline clock ids turns)) config faultless stored tended.declared
    (c.kind_served .agent) kept wordy' rejected rejects
  refine ⟨t, t', stored, leads.stored, ?_⟩
  cases leaving with
  | nothing unfit => exact .inl ⟨unfit, rfl⟩
  | agent admitted created refused =>
    exact .inr ⟨_, admitted, created.defaultInstanceId, created, refused, rfl⟩

end Reached

/-! ## An agent under an id of another form -/

/-- An agent with a chosen id that does not begin as ids of agents do. -/
def scout : Agent where
  metadata := { id := "scout", name := "Scout" }
  spec := {}
  status := {}

/-- What comes of its creation by a daemon that nobody has asked anything, with nothing in the
way. -/
def scoutCreated : Except Stop Agent × DaemonWorld :=
  ((Daemon.agents {}).controller.handle (Conditions.free.served .agent) (.create scout)).outcome
    (Conditions.free.meet freshDaemon)

theorem wordy_zeros : sameTexts.Wordy :=
  Supply.wordy_const rfl 0

theorem admitted_scout : Admitted .empty scout := by
  refine ⟨by decide, ⟨"scout", by decide, ?_⟩, .inr (by decide)⟩
  rintro id other ⟨bytes, found, -⟩
  cases found

/-- It is rejected on account of its default instance. -/
theorem scoutCreated_eq : scoutCreated = (.error (.failed (.invalidArgument
    "spec.agent_id: value must start with 'agt-'")), scoutCreated.2) := by
  have rejected : scoutCreated.1 = .error (.failed (.invalidArgument
      "spec.agent_id: value must start with 'agt-'")) := by decide +kernel
  rw [← rejected]

/-- The agent stays in place although its creation was rejected. -/
theorem rejected_scout_stays : ∃ (failure : Failure) (w' : DaemonWorld) (t' : Table),
    scoutCreated = (.error (.failed failure), w') ∧ Rejects failure ∧
      freshDaemon.store.backing = .memory .empty ∧ w'.store.backing = .memory t' ∧
      t' ≠ .empty := by
  have tended := tended_reached {} {} Conditions.free.clock ⟨fun _ => "0", 0⟩ []
  have rejects : Rejects (.invalidArgument "spec.agent_id: value must start with 'agt-'") :=
    .inl rfl
  obtain ⟨t', leaving, leads⟩ := leads_of_rejected (t := .empty)
    (w := Conditions.free.meet freshDaemon) {} rfl rfl tended.declared
    (Conditions.free.kind_served .agent) .empty wordy_zeros scoutCreated_eq rejects
  refine ⟨_, _, t', scoutCreated_eq, rejects, rfl, leads.stored, ?_⟩
  cases leaving with
  | nothing unfit => exact absurd admitted_scout unfit
  | @agent agent admitted created refused =>
    intro none
    have found : (stow .agent .empty agent).get? ⟨(Kind.agent).name, agent.id⟩ =
        some agent.encode := Table.get?_put_self
    rw [none] at found
    cases found

theorem rejected_reached_scout : ∃ (failure : Failure) (w' : DaemonWorld),
    sameTexts.Wordy ∧ Conditions.free.faults = {} ∧
    scoutCreated = (.error (.failed failure), w') ∧ Rejects failure ∧
    ∃ t t', freshDaemon.store.backing = .memory t ∧ w'.store.backing = .memory t' ∧
      ((¬ Admitted t scout ∧ t' = t) ∨
        ∃ agent, Admitted t scout ∧ agent.status.defaultInstanceId = "" ∧
          Created .agent t freshDaemon.ids scout agent ∧ DefaultRefused t agent ∧
          t' = stow .agent t agent) :=
  ⟨_, _, wordy_zeros, rfl, scoutCreated_eq, .inl rfl, rejected_reached {} {} _ _ wordy_zeros []
    Conditions.free rfl scout _ _ scoutCreated_eq (.inl rfl)⟩

end Steward
