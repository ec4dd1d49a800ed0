import Steward.Proofs.Alterations
import Steward.Proofs.Slugs

/-!
# The slugs of what is stored

A slug that is made of a name can stand in a URL. One that a caller chooses for a new resource is
taken as it is: it must be short, but is under no other rule. Later versions keep the slug. So every
slug that is stored can stand in a URL or was chosen, for a resource of the kind in the scope. Main
statements: `slugged_work`, `slugged_run` and `slugs_reached`.
-/

namespace Steward

open Store Daemon

/-! ## Slugs of new resources -/

/-- A slug is resolved to one that can stand in a URL, or is left as it is. -/
theorem resolvedSlug_cases {m : Metadata} {slug : String}
    (resolved : Catalog.resolvedSlug m = .ok slug) :
    Slug.UrlSafe slug ∨ (m.slug ≠ "" ∧ slug = m.slug) := by
  unfold Catalog.resolvedSlug at resolved
  split at resolved
  · next there =>
    cases resolved
    exact .inr ⟨there, rfl⟩
  · split at resolved
    · cases resolved
    · split at resolved
      · cases resolved
      · next usable =>
        cases resolved
        exact .inl ((Slug.urlSafe_ofName m.name).resolve_left usable)

section Resources

variable {Spec Status : Type} {Chosen : OwnerScope → String → Prop}
  {input old r : Resource Spec Status}

/-- The slug of the resource can stand in a URL, or was chosen for its scope. -/
def Slugged (Chosen : OwnerScope → String → Prop) (r : Resource Spec Status) : Prop :=
  Slug.UrlSafe r.metadata.slug ∨ Chosen r.metadata.scope r.metadata.slug

theorem Slugged.of_sameKey (slugged : Slugged Chosen old) (same : SameKey old r) :
    Slugged Chosen r := by
  unfold Slugged
  rw [← same.1, ← same.2]
  exact slugged

/-- What has the natural key of an input has the slug of the input or one made of its name. -/
theorem Keyed.slugged (keyed : Keyed input r)
    (asked : input.metadata.slug ≠ "" → Slugged Chosen input) : Slugged Chosen r := by
  rcases resolvedSlug_cases keyed.slug with safe | ⟨there, same⟩
  · exact .inl safe
  · exact (asked there).of_sameKey ⟨keyed.scope.symm, same.symm⟩

/-- The message asks for a resource in the scope under the slug, which is a new one unless applying
finds it stored. -/
inductive Message.Chooses :
    Message (Resource Spec Status) → OwnerScope → String → Prop where
  | create (input : Resource Spec Status) :
      Chooses (.create input) input.metadata.scope input.metadata.slug
  | apply (input : Resource Spec Status) :
      Chooses (.apply input) input.metadata.scope input.metadata.slug

theorem Message.Creating.slugged [Managed Spec Status] {kind : Kind} {t : Table}
    {message : Message (Resource Spec Status)} (creating : message.Creating kind t input)
    (chosen : ∀ scope slug, message.Chooses scope slug → Chosen scope slug)
    (keyed : Keyed input r) : Slugged Chosen r := by
  cases creating with
  | create => exact keyed.slugged fun _ => .inr (chosen _ _ (.create _))
  | apply resolved =>
    exact keyed.slugged fun _ => resolved.keyed.slugged fun _ => .inr (chosen _ _ (.apply _))

/-- No slug is chosen for a default instance. -/
theorem Created.slugged_default {t : Table} {ids : Supply String} {agent : Agent}
    {made : AgentInstance} (created : Created .agentInstance t ids (defaultRequest agent) made) :
    Slugged Chosen made :=
  created.keyed.slugged fun there => absurd rfl there

end Resources

/-! ## Slugs in a table -/

/-- The slugs of all stored resources of the kind can stand in a URL or were chosen. -/
def KindSlugged (Spec Status : Type) [Managed Spec Status] (kind : Kind)
    (Chosen : OwnerScope → String → Prop) (t : Table) : Prop :=
  ∀ id (r : Resource Spec Status), Holds kind t id r → Slugged Chosen r

namespace KindSlugged

variable {Spec Status : Type} [Managed Spec Status] {kind : Kind}
  {Chosen : OwnerScope → String → Prop} {t t' : Table} {old r : Resource Spec Status}

theorem empty : KindSlugged Spec Status kind Chosen .empty := by
  rintro id r ⟨bytes, found, -⟩
  cases found

/-- Only the values of the kind matter. -/
theorem congr (all : KindSlugged Spec Status kind Chosen t)
    (same : ∀ id, t'.get? ⟨kind.name, id⟩ = t.get? ⟨kind.name, id⟩) :
    KindSlugged Spec Status kind Chosen t' := by
  rintro id r ⟨bytes, found, read⟩
  exact all id r ⟨bytes, same id ▸ found, read⟩

theorem erase (all : KindSlugged Spec Status kind Chosen t) (key : Key) :
    KindSlugged Spec Status kind Chosen (t.erase key) :=
  fun id r held => all id r (holds_erase.1 held).2

variable [LawfulManaged Spec Status]

theorem stowed (all : KindSlugged Spec Status kind Chosen t) (sound : Sound kind r)
    (slugged : Slugged Chosen r) : KindSlugged Spec Status kind Chosen (stow kind t r) := by
  intro id other held
  rcases (holds_put sound).1 held with ⟨-, rfl⟩ | ⟨-, before⟩
  · exact slugged
  · exact all id other before

/-- A later version has the slug of the one before. -/
theorem renew (all : KindSlugged Spec Status kind Chosen t) (kept : KindKept Spec Status kind t)
    (next : NextVersion kind t old r) : KindSlugged Spec Status kind Chosen (stow kind t r) := by
  obtain ⟨id, held⟩ := next.held
  exact all.stowed (next.sound (kept.of_holds held).2) ((all id old held).of_sameKey next.same)

end KindSlugged

/-- All slugs that are stored can stand in a URL or were chosen for a resource of their kind. -/
structure AllSlugged (Chosen : Kind → OwnerScope → String → Prop) (t : Table) : Prop where
  agents : KindSlugged AgentSpec AgentStatus .agent (Chosen .agent) t
  instances : KindSlugged AgentInstanceSpec Unit .agentInstance (Chosen .agentInstance) t
  executions : KindSlugged ExecutionSpec ExecutionStatus .workflowExecution
    (Chosen .workflowExecution) t

namespace AllSlugged

variable {Chosen : Kind → OwnerScope → String → Prop} {t t' : Table}

theorem empty : AllSlugged Chosen .empty :=
  ⟨.empty, .empty, .empty⟩

theorem of_agents (all : AllSlugged Chosen t) (change : Change AgentSpec AgentStatus .agent t t')
    (agents : KindSlugged AgentSpec AgentStatus .agent (Chosen .agent) t') :
    AllSlugged Chosen t' where
  agents := agents
  instances := all.instances.congr fun _ => change.get? (by simp [Kind.name])
  executions := all.executions.congr fun _ => change.get? (by simp [Kind.name])

theorem of_instances (all : AllSlugged Chosen t)
    (change : Change AgentInstanceSpec Unit .agentInstance t t')
    (instances : KindSlugged AgentInstanceSpec Unit .agentInstance (Chosen .agentInstance) t') :
    AllSlugged Chosen t' where
  agents := all.agents.congr fun _ => change.get? (by simp [Kind.name])
  instances := instances
  executions := all.executions.congr fun _ => change.get? (by simp [Kind.name])

theorem of_executions (all : AllSlugged Chosen t)
    (change : Change ExecutionSpec ExecutionStatus .workflowExecution t t')
    (executions : KindSlugged ExecutionSpec ExecutionStatus .workflowExecution
      (Chosen .workflowExecution) t') :
    AllSlugged Chosen t' where
  agents := all.agents.congr fun _ => change.get? (by simp [Kind.name])
  instances := all.instances.congr fun _ => change.get? (by simp [Kind.name])
  executions := executions

end AllSlugged

/-! ## Operations -/

/-- The operation asks for a resource of the kind in the scope under the slug. Executions are not
applied. -/
inductive Daemon.Operation.Chooses : Operation → Kind → OwnerScope → String → Prop where
  | agents {message : Message Agent} {scope : OwnerScope} {slug : String}
      (chooses : message.Chooses scope slug) : Chooses (.agents message) .agent scope slug
  | instances {message : Message AgentInstance} {scope : OwnerScope} {slug : String}
      (chooses : message.Chooses scope slug) :
      Chooses (.instances message) .agentInstance scope slug
  | executions (input : WorkflowExecution) :
      Chooses (.executions (.create input)) .workflowExecution input.metadata.scope
        input.metadata.slug

section Operations

variable {Chosen : Kind → OwnerScope → String → Prop} {t t' : Table} {ids : Supply String}

theorem BothCreated.allSlugged {input agent : Agent} {made : AgentInstance}
    (both : BothCreated t ids input agent made) (slugged : Slugged (Chosen .agent) agent)
    (all : AllSlugged Chosen t) : AllSlugged Chosen (stowBoth t agent made) := by
  have first := all.of_agents both.template.change
    (all.agents.stowed both.template.sound slugged)
  exact first.of_instances both.configured.change
    (first.instances.stowed both.configured.sound both.configured.slugged_default)

theorem HalfCreated.allSlugged {input : Agent} (half : HalfCreated t ids input t')
    (slugged : ∀ agent, Keyed input agent → Slugged (Chosen .agent) agent)
    (all : AllSlugged Chosen t) : AllSlugged Chosen t' := by
  cases half with
  | nothing => exact all
  | agent agent created =>
    exact all.of_agents created.change
      (all.agents.stowed created.sound (slugged agent created.keyed))
  | both agent made both => exact both.allSlugged (slugged agent both.template.keyed) all

theorem AgentWritten.allSlugged {message : Message Agent} {r : Agent}
    (written : AgentWritten t ids message r t')
    (chosen : ∀ scope slug, message.Chooses scope slug → Chosen .agent scope slug)
    (kept : TableKept t) (all : AllSlugged Chosen t) : AllSlugged Chosen t' := by
  cases written with
  | create creating makes =>
    obtain @⟨agent, made, both⟩ := makes
    have slugged := creating.slugged chosen both.template.keyed
    have first := both.allSlugged slugged all
    have next := nextVersion_recorded (TableKept.holds_stowBoth both) made.id
    refine first.of_agents (.renew agent _ next) ?_
    exact first.agents.stowed (both.template.sound.restatus _) (slugged.of_sameKey ⟨rfl, rfl⟩)
  | update updating revised =>
    exact all.of_agents (change_of_revised ⟨_, revised⟩)
      (all.agents.renew kept.agents revised.nextVersion)
  | delete => exact all.of_agents (.drop _) (all.agents.erase _)
  | read => exact all

theorem InstanceWritten.allSlugged {message : Message AgentInstance} {r : AgentInstance}
    (written : InstanceWritten t ids message r t')
    (chosen : ∀ scope slug, message.Chooses scope slug → Chosen .agentInstance scope slug)
    (kept : TableKept t) (all : AllSlugged Chosen t) : AllSlugged Chosen t' := by
  cases written with
  | create creating makes =>
    obtain ⟨created, rfl⟩ := makes
    exact all.of_instances created.change
      (all.instances.stowed created.sound (creating.slugged chosen created.keyed))
  | update updating revised =>
    exact all.of_instances (change_of_revised ⟨_, revised⟩)
      (all.instances.renew kept.instances revised.nextVersion)
  | delete => exact all.of_instances (.drop _) (all.instances.erase _)
  | read => exact all

theorem Executions.Write.Makes.allSlugged {write : Executions.Write} {r : WorkflowExecution}
    (makes : write.Makes t ids r)
    (chosen : ∀ input, write = .create input →
      Chosen .workflowExecution input.metadata.scope input.metadata.slug)
    (kept : TableKept t) (all : AllSlugged Chosen t) :
    AllSlugged Chosen (stow .workflowExecution t r) := by
  refine all.of_executions makes.change ?_
  cases makes with
  | create created =>
    exact all.executions.stowed created.sound
      (created.keyed.slugged fun _ => .inr (chosen _ rfl))
  | update revised => exact all.executions.renew kept.executions revised.nextVersion
  | status moved => exact all.executions.renew kept.executions moved.nextVersion

/-- What is in memory is slugged. -/
def StoreSlugged (Chosen : Kind → OwnerScope → String → Prop) (w : DaemonWorld) : Prop :=
  ∃ t, w.store.backing = .memory t ∧ AllSlugged Chosen t

variable {w : DaemonWorld} {call : Call}

theorem slugged_write (write : Executions.Write) (stored : w.store.backing = .memory t)
    (own : call.kind = some .workflowExecution)
    (chosen : ∀ input, write = .create input →
      Chosen .workflowExecution input.metadata.scope input.metadata.slug)
    (kept : TableKept t) (all : AllSlugged Chosen t) :
    Ends (write.work call) w (fun _ => StoreSlugged Chosen) fun _ => StoreSlugged Chosen := by
  refine Ends.imp (write.announces stored own) ?_ fun _ _ leads => ⟨t, leads.stored, all⟩
  rintro r w' ⟨makes, leads, -⟩
  exact ⟨_, leads.stored, makes.allSlugged chosen kept all⟩

theorem slugged_executions (config : Config) (stored : w.store.backing = .memory t)
    (own : call.kind = some .workflowExecution) (message : Message WorkflowExecution)
    (chosen : ∀ kind scope slug, (Operation.executions message).Chooses kind scope slug →
      Chosen kind scope slug)
    (kept : TableKept t) (all : AllSlugged Chosen t) :
    Ends ((Daemon.executions config).controller.handle call message) w
      (fun _ => StoreSlugged Chosen) fun _ => StoreSlugged Chosen := by
  cases message with
  | create input =>
    refine slugged_write (.create input) stored own ?_ kept all
    rintro _ ⟨⟩
    exact chosen _ _ _ (.executions input)
  | update input =>
    exact slugged_write (.update input) stored own (fun _ same => by cases same) kept all
  | apply input => exact ⟨t, stored, all⟩
  | delete id =>
    refine (ends_remove stored own id).imp ?_ fun _ _ leads => ⟨t, leads.stored, all⟩
    rintro r w' ⟨-, leads⟩
    exact ⟨_, leads.stored, all.of_executions (.drop _) (all.executions.erase _)⟩
  | get id =>
    exact Ends.imp (reads_get stored own) (fun _ _ ⟨leads, _⟩ => ⟨t, leads.stored, all⟩)
      fun _ _ leads => ⟨t, leads.stored, all⟩
  | getByReference reference => exact ⟨t, stored, all⟩

theorem slugged_work (config : Config) (stored : w.store.backing = .memory t)
    (declared : Declared w.interceptor) (operation : Operation) (call : Call)
    (own : call.kind = some operation.kind)
    (chosen : ∀ kind scope slug, operation.Chooses kind scope slug → Chosen kind scope slug)
    (kept : TableKept t) (all : AllSlugged Chosen t) :
    Ends (operation.work config call) w (fun _ => StoreSlugged Chosen)
      fun _ => StoreSlugged Chosen := by
  cases operation with
  | agents message =>
    have chosen' : ∀ scope slug, message.Chooses scope slug → Chosen .agent scope slug :=
      fun scope slug chooses => chosen _ scope slug (.agents chooses)
    refine ends_bind.2 ((ends_handleAgents config stored declared own message).imp ?_ ?_)
    · rintro r w' ⟨t', written, leads⟩
      exact ⟨t', leads.stored, written.allSlugged chosen' kept all⟩
    · rintro stop w' ⟨t', halted, leads⟩
      refine ⟨t', leads.stored, ?_⟩
      cases halted with
      | nothing => exact all
      | creating creating half =>
        exact half.allSlugged (fun _ => creating.slugged chosen') all
  | instances message =>
    refine ends_bind.2 ((ends_handleInstances config stored own message).imp ?_ ?_)
    · rintro r w' ⟨t', written, leads⟩
      exact ⟨t', leads.stored, written.allSlugged
        (fun scope slug chooses => chosen _ scope slug (.instances chooses)) kept all⟩
    · exact fun stop w' leads => ⟨t, leads.stored, all⟩
  | executions message =>
    exact ends_bind.2 (slugged_executions config stored own message chosen kept all)
  | status execution =>
    exact ends_bind.2 (slugged_write (.status execution) stored own (fun _ same => by cases same)
      kept all)

end Operations

/-! ## Runs -/

section Runs

variable (config : Config) {Chosen : Kind → OwnerScope → String → Prop} {w : DaemonWorld}

theorem slugged_take (tended : Tended w) (slugged : StoreSlugged Chosen w) (turn : Turn)
    (chosen : ∀ kind scope slug, turn.operation.Chooses kind scope slug → Chosen kind scope slug) :
    StoreSlugged Chosen (turn.take config w) := by
  obtain ⟨t, stored, all⟩ := slugged
  have ends := slugged_work (w := turn.meet w) config stored tended.declared turn.operation
    (turn.call.withKind turn.operation.kind) rfl chosen (tended.kept_of stored) all
  obtain ⟨_, w', outcome, slugged'⟩ | ⟨_, w', outcome, slugged'⟩ := ends.outcome_cases
  all_goals
    rw [Turn.take, Turn.outcome, outcome]
    exact slugged'

/-- What is stored stays slugged, if the slugs that the turns choose count as chosen. -/
theorem slugged_run (tended : Tended w) (slugged : StoreSlugged Chosen w) (turns : List Turn)
    (chosen : ∀ turn ∈ turns, ∀ kind scope slug, turn.operation.Chooses kind scope slug →
      Chosen kind scope slug) :
    StoreSlugged Chosen (run config w turns) := by
  induction turns generalizing w with
  | nil => exact slugged
  | cons turn turns ih =>
    obtain ⟨first, rest⟩ := List.forall_mem_cons.1 chosen
    exact ih (tended_take config tended turn) (slugged_take config tended slugged turn first) rest

variable (timeline : Timeline) (clock : Supply Timestamp) (ids : Supply String)

/-- One of the turns asks for a resource of the kind in the scope under the slug. -/
def ChosenIn (turns : List Turn) (kind : Kind) (scope : OwnerScope) (slug : String) : Prop :=
  ∃ turn ∈ turns, turn.operation.Chooses kind scope slug

/-- Every value of the kind decodes to a resource with a slug that is there and short, and that can
stand in a URL or was chosen for the scope of the resource. -/
def SlugsIn (Spec Status : Type) [Managed Spec Status] (kind : Kind)
    (Chosen : OwnerScope → String → Prop) (t : Table) : Prop :=
  ∀ id bytes, t.get? ⟨kind.name, id⟩ = some bytes → ∃ r : Resource Spec Status,
    Resource.decode bytes = .ok r ∧ r.metadata.slug ≠ "" ∧ r.metadata.slug.length ≤ 63 ∧
      (Slug.UrlSafe r.metadata.slug ∨ Chosen r.metadata.scope r.metadata.slug)

omit config in
theorem KindKept.slugsIn {Spec Status : Type} [Managed Spec Status] {kind : Kind} {t : Table}
    {Chosen : OwnerScope → String → Prop} (kept : KindKept Spec Status kind t)
    (all : KindSlugged Spec Status kind Chosen t) : SlugsIn Spec Status kind Chosen t := by
  intro id bytes found
  obtain ⟨r, read, -, sound⟩ := kept.readable id bytes found
  exact ⟨r, read, sound.slug, sound.short, all id r ⟨bytes, found, read⟩⟩

/-- The slugs that can stand in a URL are those that making a slug of them leaves as they are. In
every store that is reached, each slug is there and short, and it is one of these, or else a turn
has asked, with this very slug, for a resource of the kind in the scope. -/
theorem slugs_reached (turns : List Turn) :
    (∀ slug, Slug.UrlSafe slug ↔ slug ≠ "" ∧ Slug.ofName slug = slug) ∧
    ∃ t, (reached config timeline clock ids turns).store.backing = .memory t ∧
      (∀ key bytes, t.get? key = some bytes → ∃ kind ∈ servedKinds, key.kind = kind.name) ∧
      SlugsIn AgentSpec AgentStatus .agent (ChosenIn turns .agent) t ∧
      SlugsIn AgentInstanceSpec Unit .agentInstance (ChosenIn turns .agentInstance) t ∧
      SlugsIn ExecutionSpec ExecutionStatus .workflowExecution
        (ChosenIn turns .workflowExecution) t := by
  have start := tended_world config timeline clock ids
  have slugged : StoreSlugged (ChosenIn turns) (reached config timeline clock ids turns) :=
    slugged_run config start ⟨.empty, rfl, .empty⟩ turns
      fun turn inside _ _ _ chooses => ⟨turn, inside, chooses⟩
  obtain ⟨t, stored, all⟩ := slugged
  have kept := (tended_run config start turns).kept_of stored
  exact ⟨fun slug => Slug.urlSafe_iff, t, stored, kept.known, kept.agents.slugsIn all.agents,
    kept.instances.slugsIn all.instances, kept.executions.slugsIn all.executions⟩

end Runs

/-- A slug that is chosen is stored as it is, although it cannot stand in a URL. -/
theorem stored_as_chosen : ∃ (t : Table) (bytes : ByteArray) (r : AgentInstance),
    (reached {} {} stillClock sameTexts
      [calmTurn (chosenInstance "First" "Hello World!")]).store.backing = .memory t ∧
    t.get? ⟨(Kind.agentInstance).name, "ain-x"⟩ = some bytes ∧ Resource.decode bytes = .ok r ∧
    r.metadata.slug = "Hello World!" ∧ ¬ Slug.UrlSafe r.metadata.slug := by
  obtain ⟨-, r, created, named, slug, leads⟩ := outcome_calmTurn {}
    (w := Daemon.world {} (.memory .empty) {} stillClock sameTexts) TableKept.empty rfl
    (by decide : (chosenInstance "First" "Hello World!").violation? = none) (by decide)
    (by rintro id other ⟨bytes, found, -⟩; cases found)
  have leads : Leads _ (stow .agentInstance .empty r) (reached {} {} stillClock sameTexts
      [calmTurn (chosenInstance "First" "Hello World!")]) := leads
  have held : Holds .agentInstance (stow .agentInstance .empty r) "ain-x" r :=
    (holds_put created.sound).2 (.inl ⟨named.symm, rfl⟩)
  obtain ⟨bytes, found, read⟩ := held
  refine ⟨_, bytes, r, leads.stored, found, read, slug, ?_⟩
  rw [slug]
  decide

end Steward
