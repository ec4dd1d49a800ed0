import Steward.Proofs.Alterations
import Steward.Proofs.DefaultInstances

/-!
# Agents that are created again

An agent that is deleted leaves its natural key to others, but its default instance stays, with a
natural key that follows from that of the agent. So when nobody else has taken the agent's natural
key, creating the agent again succeeds exactly if no stored instance has the natural key that its
default instance gets. Main statements: `Operation.Alters.inherits`, `onlyUnder_run` and
`recreated_reached`.
-/

namespace Steward

open Store Daemon

/-! ## Natural keys from table to table -/

section Tables

variable {t t' t'' : Table} {input r : Agent} {id : String}

/-- Nobody has the natural key of the input, unless it is the agent with the id. -/
def OnlyUnder (t : Table) (input : Agent) (id : String) : Prop :=
  ∀ id' other, Holds .agent t id' other → Keyed input other → id' = id

/-- The agents of the second table had their natural keys before, or took free ones. -/
def Inherits (t t' : Table) : Prop :=
  ∀ id (r : Agent), Holds .agent t' id r →
    (∃ old, Holds .agent t id old ∧ SameKey old r) ∨ KeyFree .agent t r

theorem Inherits.refl (t : Table) : Inherits t t :=
  fun _ r held => .inl ⟨r, held, rfl, rfl⟩

/-- Only agents matter. -/
theorem Inherits.congr (inherits : Inherits t t')
    (same : ∀ id, t''.get? ⟨(Kind.agent).name, id⟩ = t'.get? ⟨(Kind.agent).name, id⟩) :
    Inherits t t'' := by
  rintro id r ⟨bytes, found, read⟩
  rw [same] at found
  exact inherits id r ⟨bytes, found, read⟩

theorem Inherits.stowed (inherits : Inherits t t') (sound : Sound .agent r)
    (keyed : (∃ old, Holds .agent t r.id old ∧ SameKey old r) ∨ KeyFree .agent t r) :
    Inherits t (stow .agent t' r) := by
  intro id other held
  rcases (holds_put sound).1 held with ⟨rfl, rfl⟩ | ⟨-, before⟩
  · exact keyed
  · exact inherits id other before

theorem BothCreated.inherits {ids : Supply String} {agent : Agent} {made : AgentInstance}
    (both : BothCreated t ids input agent made) : Inherits t (stowBoth t agent made) := by
  have other : (Kind.agent).name ≠ (Kind.agentInstance).name := by decide
  have first : Inherits t (stow .agent t agent) :=
    (Inherits.refl t).stowed both.template.sound (.inr both.template.free)
  exact first.congr fun _ => both.configured.change.get? other

/-- Whatever an operation does, no natural key goes from one agent to another. -/
theorem Daemon.Operation.Alters.inherits {ids : Supply String} {operation : Operation}
    (alters : operation.Alters t ids t') (kept : TableKept t) : Inherits t t' := by
  have instances : (Kind.agent).name ≠ (Kind.agentInstance).name := by decide
  have executions : (Kind.agent).name ≠ (Kind.workflowExecution).name := by decide
  cases alters with
  | agents written =>
    cases written with
    | create creating makes =>
      obtain ⟨both⟩ := makes
      exact both.inherits.stowed (both.template.sound.restatus _) (.inr both.template.free)
    | @update _ _ old _ updating revised =>
      have held := (revised.advances kept.agents).before
      have next := revised.nextVersion
      exact (Inherits.refl t).stowed (next.sound (kept.agents.of_holds held).2)
        (.inl ⟨old, held, next.same⟩)
    | delete => exact fun id r held => .inl ⟨r, (holds_erase.1 held).2, rfl, rfl⟩
    | read => exact .refl t
  | agentsHalted halted =>
    cases halted with
    | nothing => exact .refl t
    | creating creating half =>
      cases half with
      | nothing => exact .refl t
      | agent agent created => exact (Inherits.refl t).stowed created.sound (.inr created.free)
      | both agent made both => exact both.inherits
  | instances written =>
    cases written with
    | create creating makes =>
      obtain ⟨created, rfl⟩ := makes
      exact (Inherits.refl t).congr fun _ => created.change.get? instances
    | update updating revised =>
      exact (Inherits.refl t).congr fun _ => (change_of_revised ⟨_, revised⟩).get? instances
    | @delete id _ held =>
      have change : Change AgentInstanceSpec Unit .agentInstance t
        (t.erase ⟨(Kind.agentInstance).name, Text.trim id⟩) := .drop _
      exact (Inherits.refl t).congr fun _ => change.get? instances
    | read => exact .refl t
  | instancesHalted => exact .refl t
  | executions about change => exact (Inherits.refl t).congr fun _ => change.get? executions

/-- If nobody takes the natural key of the input while it is unused, nobody but the agent with the
id comes to have it. -/
theorem OnlyUnder.inherited (only : OnlyUnder t input id) (inherits : Inherits t t')
    (untaken : Unused .agent t input → Unused .agent t' input) : OnlyUnder t' input id := by
  intro id' r held keyed
  -- A natural key that is used cannot be taken, and one that is unused is not.
  by_cases unused : Unused .agent t input
  · exact absurd keyed (untaken unused id' r held)
  rcases inherits id' r held with ⟨old, before, same⟩ | free
  · exact only id' old before (keyed.of_sameKey same.symm)
  · refine absurd (fun other old before keyed' => ?_) unused
    exact free other old before (keyed'.sameKey keyed)

/-- Without this agent, nobody has the natural key. -/
theorem OnlyUnder.unused_erase (only : OnlyUnder t input id) :
    Unused .agent (t.erase ⟨(Kind.agent).name, id⟩) input := by
  intro id' other held keyed
  obtain ⟨apart, before⟩ := holds_erase.1 held
  exact apart (by rw [only id' other before keyed])

end Tables

/-! ## Runs -/

section Runs

variable (config : Config) {w : DaemonWorld} {t : Table} {input : Agent} {turn : Turn}
  {turns : List Turn}

/-- None of the turns gives the natural key of the input to an agent while nobody has it. -/
def LeavesUnused (w : DaemonWorld) (turns : List Turn) (input : Agent) : Prop :=
  ∀ earlier turn rest t t', turns = earlier ++ turn :: rest →
    (run config w earlier).store.backing = .memory t →
    (turn.take config (run config w earlier)).store.backing = .memory t' →
    Unused .agent t input → Unused .agent t' input

theorem leavesUnused_nil (w : DaemonWorld) (input : Agent) : LeavesUnused config w [] input := by
  intro earlier turn rest t t' split
  simp at split

variable {config}

/-- It is enough that nobody has the natural key after the only turn. -/
theorem leavesUnused_singleton (stored : (turn.take config w).store.backing = .memory t)
    (unused : Unused .agent t input) : LeavesUnused config w [turn] input := by
  intro earlier turn' rest t₀ t' split stored₀ stored' _
  cases earlier with
  | nil =>
    obtain ⟨rfl, -⟩ := List.cons.inj split
    obtain rfl : t = t' := Backing.memory.inj (stored.symm.trans stored')
    exact unused
  | cons first earlier =>
    obtain ⟨-, none⟩ := List.cons.inj split
    simp at none

theorem LeavesUnused.tail (untaken : LeavesUnused config w (turn :: turns) input) :
    LeavesUnused config (turn.take config w) turns input := by
  intro earlier turn' rest t t' split
  exact untaken (turn :: earlier) turn' rest t t' (by rw [split]; rfl)

/-- The natural key stays unused. -/
theorem unused_run (tended : Tended w) (stored : w.store.backing = .memory t)
    (untaken : LeavesUnused config w turns input) (unused : Unused .agent t input) :
    ∃ t', (run config w turns).store.backing = .memory t' ∧ Unused .agent t' input := by
  induction turns generalizing w t with
  | nil => exact ⟨t, stored, unused⟩
  | cons turn turns ih =>
    have tended' := tended_take config tended turn
    obtain ⟨t₁, stored₁, -⟩ := tended'.kept
    exact ih tended' stored₁ untaken.tail (untaken [] turn turns t t₁ rfl stored stored₁ unused)

/-- Nobody but the agent with the id comes to have the natural key. -/
theorem onlyUnder_run {id : String} (tended : Tended w) (stored : w.store.backing = .memory t)
    (untaken : LeavesUnused config w turns input) (only : OnlyUnder t input id) :
    ∃ t', (run config w turns).store.backing = .memory t' ∧ OnlyUnder t' input id := by
  induction turns generalizing w t with
  | nil => exact ⟨t, stored, only⟩
  | cons turn turns ih =>
    have kept := tended.kept_of stored
    obtain ⟨t₁, alters, broker, leads⟩ := alters_take config tended stored turn
    refine ih (tended_take config tended turn) leads.stored untaken.tail ?_
    exact only.inherited (alters.inherits kept) (untaken [] turn turns t t₁ rfl stored leads.stored)

end Runs

/-! ## Creating, deleting, creating again -/

section Again

variable (config : Config) {w w' : DaemonWorld} {t : Table} {input a r : Agent} (c : Conditions)

/-- What the creation of an agent has shown of the input, and what it leaves: the input is valid,
the agent is stored with its natural key, and nobody else has that; and so is its default
instance. -/
structure Introduced (t : Table) (ids : Supply String) (input a : Agent) (made : AgentInstance) :
    Prop where
  valid : input.violation? = none
  keyed : Keyed input a
  named : IdFor .agent ids input.id a.id
  held : Holds .agent t a.id a
  only : OnlyUnder t input a.id
  keyedMade : Keyed (defaultRequest a) made
  namedMade : IdFor .agentInstance ids "" made.id
  heldMade : Holds .agentInstance t made.id made

theorem BothCreated.introduced {ids : Supply String} {agent : Agent} {made : AgentInstance}
    (kept : TableKept t) (both : BothCreated t ids input agent made) :
    Introduced (stow .agent (stowBoth t agent made) (recorded agent made.id)) ids input
      (recorded agent made.id) made := by
  have other : (Kind.agentInstance).name ≠ (Kind.agent).name := by decide
  have keyed : Keyed input (recorded agent made.id) :=
    ⟨both.template.keyed.slug, both.template.keyed.scope⟩
  have same : SameKey agent (recorded agent made.id) := ⟨rfl, rfl⟩
  constructor
  · exact both.template.valid
  · exact keyed
  · exact both.template.named
  · exact both.holds_recorded
  · intro id there held keyed'
    exact ((kept.of_recorded both).agents.only keyed both.holds_recorded held keyed').1
  · exact (keyed_defaultRequest_congr same).1 both.configured.keyed
  · exact both.configured.named
  · exact (holds_stow_of_ne other).2 both.holds_made

theorem introduced_of_created (tended : Tended w) (wordy : w.ids.Wordy)
    (created : ((Daemon.agents config).controller.handle (c.served .agent)
      (.create input)).outcome (c.meet w) = (.ok a, w')) :
    ∃ t' made, w'.store.backing = .memory t' ∧ Tended w' ∧ w'.ids.Wordy ∧
      Introduced t' w.ids input a made := by
  obtain ⟨t, stored, kept⟩ := tended.kept
  have met := c.tended_meet tended
  have wordy : (c.meet w).ids.Wordy := wordy
  obtain ⟨t', written, leads⟩ := (ends_handleAgents (w := c.meet w) config stored met.declared
    (c.kind_served .agent) (.create input)).of_eq_ok created
  obtain @⟨agent, made, both⟩ := written.makes (.create input)
  exact ⟨_, made, leads.stored, met.of_leads leads (kept.of_recorded both), wordy.of_leads leads,
    both.introduced kept⟩

/-- The deletion of an agent leaves all but the agent. -/
theorem erased_of_deleted {id : String} (tended : Tended w) (wordy : w.ids.Wordy)
    (stored : w.store.backing = .memory t) (plain : Plain id)
    (deleted : ((Daemon.agents config).controller.handle (c.served .agent)
      (.delete id)).outcome (c.meet w) = (.ok r, w')) :
    w'.store.backing = .memory (t.erase ⟨(Kind.agent).name, id⟩) ∧ Tended w' ∧ w'.ids.Wordy := by
  have kept := tended.kept_of stored
  have met := c.tended_meet tended
  have wordy : (c.meet w).ids.Wordy := wordy
  obtain ⟨t', written, leads⟩ := (ends_handleAgents (w := c.meet w) config stored met.declared
    (c.kind_served .agent) (.delete id)).of_eq_ok deleted
  cases written with
  | create creating => cases creating
  | update updating => cases updating
  | delete held =>
    rw [plain.trim] at leads
    exact ⟨leads.stored, met.of_leads leads (kept.of_agents (.drop id)), wordy.of_leads leads⟩
  | read reads => cases reads

/-- An agent of which the natural key is unused is created exactly if that of its default instance
is. -/
theorem creates_iff (tended : Tended w) (wordy : w.ids.Wordy)
    (stored : w.store.backing = .memory t) (faultless : c.faults = {})
    (quiet : Quiet config (c.served .agent) (c.meet w)) (unchosen : input.id = "")
    (valid : input.violation? = none) (keyed : Keyed input a) (unused : Unused .agent t input) :
    (∃ r w', ((Daemon.agents config).controller.handle (c.served .agent)
      (.create input)).outcome (c.meet w) = (.ok r, w')) ↔
        Unused .agentInstance t (defaultRequest a) := by
  have kept := tended.kept_of stored
  constructor
  · rintro ⟨r, w', created⟩
    obtain ⟨t', written, leads⟩ := (ends_handleAgents (w := c.meet w) config stored
      tended.declared (c.kind_served .agent) (.create input)).of_eq_ok created
    obtain ⟨both⟩ := written.makes (.create input)
    have vacant := (furnishable_stow.1 both.configured.furnishable).vacant
    intro id other held keyed'
    exact vacant id other held
      ((keyed_defaultRequest_congr (both.template.keyed.sameKey keyed)).2 keyed')
  · intro vacant
    have free : KeyFree .agent t
        (input.withMetadata fun m => { m with slug := a.metadata.slug }) := by
      intro id other held same
      have keyed' : Keyed input (input.withMetadata fun m => { m with slug := a.metadata.slug }) :=
        ⟨keyed.slug, rfl⟩
      exact unused id other held (keyed'.of_sameKey same.symm)
    refine outcome_createAgent (w := c.meet w) config faultless stored tended.declared
      (c.kind_served .agent) kept wordy ⟨valid, ⟨_, keyed.slug, free⟩, .inl unchosen⟩ ?_ quiet
    intro agent created
    have named := created.named
    rw [unchosen] at named
    refine ⟨named.begins, fun id other held keyed' => vacant id other held ?_⟩
    exact (keyed_defaultRequest_congr (created.keyed.sameKey keyed)).1 keyed'

variable (timeline : Timeline) (clock : Supply Timestamp) (ids : Supply String)

/-- From every store that is reached: an agent for which no id is chosen is created and deleted
later, and no agent takes its natural key meanwhile. Then creating it again succeeds, if the store
does not fail and nothing is in store for the call, exactly if no stored instance has the natural
key that its default instance gets. -/
theorem recreated_reached (wordy : ids.Wordy) (turns : List Turn) (input : Agent)
    (unchosen : input.id = "") (c₁ : Conditions) (a : Agent) (w₁ : DaemonWorld)
    (created : ((Daemon.agents config).controller.handle (c₁.served .agent)
      (.create input)).outcome (c₁.meet (reached config timeline clock ids turns)) = (.ok a, w₁))
    (between : List Turn) (untaken : LeavesUnused config w₁ between input) (c₂ : Conditions)
    (r : Agent) (w₂ : DaemonWorld)
    (deleted : ((Daemon.agents config).controller.handle (c₂.served .agent)
      (.delete a.id)).outcome (c₂.meet (run config w₁ between)) = (.ok r, w₂))
    (after : List Turn) (untaken' : LeavesUnused config w₂ after input) (c₃ : Conditions)
    (faultless : c₃.faults = {}) (calm : c₃.timeline.Calm) (endless : c₃.call.deadline = none)
    (untimed : config.requestTimeout = none) :
    ∃ t, (run config w₂ after).store.backing = .memory t ∧
      ((∃ r' w₃, ((Daemon.agents config).controller.handle (c₃.served .agent)
          (.create input)).outcome (c₃.meet (run config w₂ after)) = (.ok r', w₃)) ↔
        Unused .agentInstance t (defaultRequest a)) := by
  have wordy₀ := wordy_reached config timeline clock wordy turns
  obtain ⟨t₁, made, stored₁, tended₁, wordy₁, introduced⟩ := introduced_of_created config c₁
    (tended_reached config timeline clock ids turns) wordy₀ created
  obtain ⟨t, stored, only⟩ := onlyUnder_run tended₁ stored₁ untaken introduced.only
  -- The id was made, so the deletion is about it as it stands: there is nothing to trim.
  have named := introduced.named
  rw [unchosen] at named
  obtain ⟨stored₂, tended₂, wordy₂⟩ := erased_of_deleted config c₂
    (tended_run config tended₁ between) (wordy_run config tended₁ wordy₁ between) stored
    (named.plain wordy₀) deleted
  obtain ⟨t₃, stored₃, unused⟩ := unused_run tended₂ stored₂ untaken' only.unused_erase
  exact ⟨t₃, stored₃, creates_iff config c₃ (tended_run config tended₂ after)
    (wordy_run config tended₂ wordy₂ after) stored₃ faultless ⟨calm, endless, untimed⟩ unchosen
    introduced.valid introduced.keyed unused⟩

end Again

/-! ## An agent whose default instance stays -/

/-- What comes of creating an agent for which no id was chosen, with nothing in the way. -/
def criticCreated (w : DaemonWorld) : Except Stop Agent × DaemonWorld :=
  ((Daemon.agents {}).controller.handle (Conditions.free.served .agent) (.create critic)).outcome
    (Conditions.free.meet w)

/-- What comes of deleting an agent, with nothing in the way. -/
def agentDeleted (id : String) (w : DaemonWorld) : Except Stop Agent × DaemonWorld :=
  ((Daemon.agents {}).controller.handle (Conditions.free.served .agent) (.delete id)).outcome
    (Conditions.free.meet w)

/-- Both succeed over an empty store, and the default instance of the agent stays. -/
theorem critic_deleted {w : DaemonWorld} (tended : Tended w)
    (stored : w.store.backing = .memory .empty) (wordy : w.ids.Wordy) :
    ∃ (a : Agent) (w₁ w₂ : DaemonWorld) (t : Table) (made : AgentInstance),
      criticCreated w = (.ok a, w₁) ∧ agentDeleted a.id w₁ = (.ok a, w₂) ∧
        Introduced t w.ids critic a made ∧ TableKept t ∧
        w₂.store.backing = .memory (t.erase ⟨(Kind.agent).name, a.id⟩) ∧ Tended w₂ ∧
        w₂.ids.Wordy := by
  obtain ⟨a, w₁, created⟩ := outcome_critic tended stored wordy
  obtain ⟨t, made, stored₁, tended₁, wordy₁, introduced⟩ :=
    introduced_of_created {} Conditions.free tended wordy created
  have plain : Plain a.id := introduced.named.plain wordy
  have named : Text.trim a.id ≠ "" := by
    rw [plain.trim]
    exact plain.there
  have held : Holds .agent t (Text.trim a.id) a := by
    rw [plain.trim]
    exact introduced.held
  obtain ⟨w₂, deleted, -⟩ := outcome_delete (w := Conditions.free.meet w₁) rfl stored₁
    (Conditions.free.kind_served .agent) named held (undisturbed_served .agent)
  obtain ⟨stored₂, tended₂, wordy₂⟩ :=
    erased_of_deleted {} Conditions.free tended₁ wordy₁ stored₁ plain deleted
  exact ⟨a, w₁, w₂, t, made, created, deleted, introduced, tended₁.kept_of stored₁, stored₂,
    tended₂, wordy₂⟩

/-- Created again right then, the agent is refused, although nobody has taken its natural key: its
default instance has kept the natural key that the new one would get. -/
theorem critic_refused_again : ∃ (a r : Agent) (w₁ w₂ : DaemonWorld),
    criticCreated (reached {} {} stillClock (.ids 0 0) []) = (.ok a, w₁) ∧
      agentDeleted a.id w₁ = (.ok r, w₂) ∧ ∀ r' w₃, criticCreated w₂ ≠ (.ok r', w₃) := by
  obtain ⟨a, w₁, w₂, t, made, created, deleted, introduced, -, stored, tended, wordy⟩ :=
    critic_deleted (tended_reached {} {} stillClock (.ids 0 0) []) rfl (Supply.wordy_ids 0 0)
  refine ⟨a, a, w₁, w₂, created, deleted, fun r' w₃ again => ?_⟩
  have iff := creates_iff {} Conditions.free tended wordy stored rfl ⟨⟨rfl, rfl, rfl⟩, rfl, rfl⟩ rfl
    introduced.valid introduced.keyed introduced.only.unused_erase
  have held : Holds .agentInstance (t.erase ⟨(Kind.agent).name, a.id⟩) made.id made :=
    holds_erase.2 ⟨by simp [Kind.name], introduced.heldMade⟩
  exact iff.1 ⟨r', w₃, again⟩ made.id made held introduced.keyedMade

/-- What the deletion of an agent instance leaves, with nothing in the way. -/
theorem stored_instanceDeleted {w : DaemonWorld} {t : Table} {made : AgentInstance}
    (stored : w.store.backing = .memory t) (plain : Plain made.id)
    (held : Holds .agentInstance t made.id made) :
    ((Conditions.free.turn (.instances (.delete made.id))).take {} w).store.backing =
      .memory (t.erase ⟨(Kind.agentInstance).name, made.id⟩) := by
  have named : Text.trim made.id ≠ "" := by
    rw [plain.trim]
    exact plain.there
  have held : Holds .agentInstance t (Text.trim made.id) made := by
    rw [plain.trim]
    exact held
  obtain ⟨w', deleted, leads⟩ := outcome_delete (w := Conditions.free.meet w) rfl stored
    (Conditions.free.kind_served .agentInstance) named held (undisturbed_served .agentInstance)
  have done : ((Daemon.instances {}).controller.handle (Conditions.free.served .agentInstance)
      (.delete made.id)).outcome (Conditions.free.meet w) = (.ok made, w') := deleted
  rw [plain.trim] at leads
  rw [Conditions.take_instances, done]
  exact leads.stored

/-- Once the default instance is deleted as well, the agent is created again. -/
theorem recreated_reached_critic : ∃ (a r : Agent) (w₁ w₂ w₃ : DaemonWorld) (after : List Turn),
    criticCreated (reached {} {} stillClock (.ids 0 0) []) = (.ok a, w₁) ∧
      agentDeleted a.id w₁ = (.ok a, w₂) ∧ LeavesUnused {} w₂ after critic ∧
      criticCreated (run {} w₂ after) = (.ok r, w₃) := by
  obtain ⟨a, w₁, w₂, t, made, created, deleted, introduced, kept, stored, -⟩ :=
    critic_deleted (tended_reached {} {} stillClock (.ids 0 0) []) rfl (Supply.wordy_ids 0 0)
  have held : Holds .agentInstance (t.erase ⟨(Kind.agent).name, a.id⟩) made.id made :=
    holds_erase.2 ⟨by simp [Kind.name], introduced.heldMade⟩
  have stored' := stored_instanceDeleted stored
    (introduced.namedMade.plain (Supply.wordy_ids 0 0)) held
  have untaken : LeavesUnused {} w₂ [Conditions.free.turn (.instances (.delete made.id))] critic :=
    leavesUnused_singleton stored' fun id other there =>
      introduced.only.unused_erase id other (holds_erase.1 there).2
  obtain ⟨t₃, stored₃, succeeds⟩ := recreated_reached {} {} stillClock (.ids 0 0)
    (Supply.wordy_ids 0 0) [] critic rfl Conditions.free a w₁ created []
    (leavesUnused_nil {} w₁ critic) Conditions.free a w₂ deleted _ untaken Conditions.free rfl
    ⟨rfl, rfl, rfl⟩ rfl rfl
  rw [run_singleton, stored'] at stored₃
  obtain rfl := Backing.memory.inj stored₃
  obtain ⟨r, w₃, again⟩ := succeeds.2 fun id other there keyed => by
    obtain ⟨apart, there⟩ := holds_erase.1 there
    obtain ⟨-, there⟩ := holds_erase.1 there
    have same := kept.instances.only introduced.keyedMade introduced.heldMade there keyed
    exact apart (by rw [same.1])
  exact ⟨a, r, w₁, w₂, w₃, _, created, deleted, untaken, again⟩

end Steward
