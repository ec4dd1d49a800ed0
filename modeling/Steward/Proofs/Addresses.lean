import Steward.Proofs.Alterations
import Steward.Proofs.Overwrites

/-!
# Addresses

What a service has put in place can be got and deleted under its id, and found by its natural key,
for as long as its value stays. An id is kept as it was chosen, but asked for without the blanks
around it, so only an id that has none can be asked for. A slug is kept as it was chosen as well,
but a reference needs one with something else than blanks. Main statement: `addressed_reached`.
-/

namespace Steward

open Store Daemon

/-! ## Putting in place -/

section Placing

variable {Spec Status : Type} [Managed Spec Status]

/-- The message asks for a resource to be put in place. -/
inductive Message.Placing {R : Type} : Message R → Prop where
  | create (input : R) : Placing (.create input)
  | update (input : R) : Placing (.update input)
  | apply (input : R) : Placing (.apply input)

/-- The resource is what is stored under its id, which is not empty. -/
structure InPlace (kind : Kind) (t : Table) (r : Resource Spec Status) : Prop where
  there : t.get? ⟨kind.name, r.id⟩ = some r.encode
  named : r.id ≠ ""
  sound : Sound kind r

variable {kind : Kind} {t : Table} {r : Resource Spec Status}

theorem InPlace.holds [LawfulManaged Spec Status] (inPlace : InPlace kind t r) :
    Holds kind t r.id r :=
  ⟨r.encode, inPlace.there, inPlace.sound.decode_encode⟩

theorem inPlace_stow (accepted : checkKey ⟨kind.name, r.id⟩ = .ok ()) (sound : Sound kind r) :
    InPlace kind (stow kind t r) r :=
  ⟨Table.get?_put_self, ne_empty_of_checkKey accepted, sound⟩

/-- The operation ends with a resource that is in place, or it stops. -/
def Places (op : Op WorkflowExecution (Resource Spec Status)) (w : DaemonWorld) (kind : Kind) :
    Prop :=
  Ends op w (fun r w' => ∃ t, w'.store.backing = .memory t ∧ InPlace kind t r) fun _ _ => True

variable {op : Op WorkflowExecution (Resource Spec Status)} {w : DaemonWorld}
  {Made : Resource Spec Status → Prop}

theorem Saves.places (saves : Saves op w kind t Made) (sound : ∀ r, Made r → Sound kind r) :
    Places op w kind :=
  Ends.imp saves
    (fun r _ ⟨made, leads, accepted⟩ => ⟨_, leads.stored, inPlace_stow accepted (sound r made)⟩)
    fun _ _ _ => trivial

/-- A new version of a resource is sound where all that is stored is. -/
theorem Revised.sound [LawfulManaged Spec Status] {input old : Resource Spec Status}
    (kept : KindKept Spec Status kind t) (revised : Revised kind t input old r) : Sound kind r := by
  have next := revised.nextVersion
  obtain ⟨id, held⟩ := next.held
  exact next.sound (kept.of_holds held).2

section Standard

variable {call : Call} (own : call.kind = some kind)
include own

theorem places_create (stored : w.store.backing = .memory t) (input : Resource Spec Status) :
    Places ((Standard.create kind).write call input) w kind :=
  (saves_create stored own).places fun _ created => created.sound

variable [LawfulManaged Spec Status] (kept : KindKept Spec Status kind t)
  (stored : w.store.backing = .memory t)
include kept stored

theorem places_update (input : Resource Spec Status) :
    Places ((Standard.update kind).write call input) w kind :=
  (saves_update stored own).places fun _ ⟨_, revised⟩ => revised.sound kept

/-- A service with the standard pipelines puts in place what it answers, if its creations do. -/
theorem places_standard
    {create : Call → Resource Spec Status → Op WorkflowExecution (Resource Spec Status)}
    (creates : ∀ w' input, Leads w t w' → Places (create call input) w' kind)
    {message : Message (Resource Spec Status)} (placing : message.Placing) :
    Places ((standardController kind create).handle call message) w kind := by
  cases placing with
  | create input => exact creates w input (.refl stored)
  | update input => exact places_update own kept stored input
  | apply input =>
    exact ends_apply stored own (fun w' state leads _ _ => creates w' state leads)
      (fun w' state old leads _ _ _ => places_update own kept leads.stored _) fun _ _ _ => trivial

end Standard

/-! ### The services of the daemon -/

variable (config : Config) {call : Call} (tended : Tended w)
include tended

theorem places_agents (own : call.kind = some .agent) {message : Message Agent}
    (placing : message.Placing) :
    Places ((Daemon.agents config).controller.handle call message) w .agent := by
  obtain ⟨t, stored, kept⟩ := tended.kept
  refine places_standard own kept.agents stored (fun w' input leads => ?_) placing
  refine (ends_createAgent config leads.stored (tended.declared.of_leads leads) own input).imp ?_
    fun _ _ _ => trivial
  rintro r w'' ⟨agent, made, both, rfl, leads', accepted⟩
  exact ⟨_, leads'.stored, inPlace_stow accepted (both.template.sound.restatus _)⟩

theorem places_instances (own : call.kind = some .agentInstance) {message : Message AgentInstance}
    (placing : message.Placing) :
    Places ((Daemon.instances config).controller.handle call message) w .agentInstance := by
  obtain ⟨t, stored, kept⟩ := tended.kept
  exact places_standard own kept.instances stored
    (fun w' input leads => places_create own leads.stored input) placing

theorem places_executions (own : call.kind = some .workflowExecution)
    {message : Message WorkflowExecution} (placing : message.Placing) :
    Places ((Daemon.executions config).controller.handle call message) w .workflowExecution := by
  obtain ⟨t, stored, kept⟩ := tended.kept
  cases placing with
  | create input =>
    refine Ends.imp (announces_create input stored own) ?_ fun _ _ _ => trivial
    rintro r w' ⟨created, leads, accepted⟩
    exact ⟨_, leads.stored, inPlace_stow accepted created.sound⟩
  | update input =>
    refine Ends.imp (announces_update input stored own) ?_ fun _ _ _ => trivial
    rintro r w' ⟨⟨old, revised⟩, leads, accepted⟩
    exact ⟨_, leads.stored, inPlace_stow accepted (revised.sound kept.executions)⟩
  | apply input => exact trivial

end Placing

/-! ## Asking for it -/

section Asking

variable {Spec Status : Type} [Managed Spec Status]

/-- The reference addresses the resource, among those of a kind, by its natural key. -/
structure Reference.Addresses (reference : Reference) (kind : Kind) (r : Resource Spec Status) :
    Prop where
  kind : reference.kind = none ∨ reference.kind = some kind
  scope : reference.scope = r.metadata.scope
  slug : reference.slug = r.metadata.slug

/-- How a service answers for a stored resource by its id. If it is asked for the resource, it
answers with that; if it is asked to delete it, it does and then has it no more. Both are so exactly
if the id has no blanks around it. -/
structure ById (service : Controller WorkflowExecution (Resource Spec Status)) (kind : Kind)
    (w : DaemonWorld) (t : Table) (call : Call) (r : Resource Spec Status) : Prop where
  got : (∃ w', (service.get call r.id).outcome w = (.ok r, w')) ↔ Text.trim r.id = r.id
  deleted : (∃ w', (service.delete call r.id).outcome w = (.ok r, w') ∧
    w'.store.backing = .memory (t.erase ⟨kind.name, r.id⟩)) ↔ Text.trim r.id = r.id

/-- There is a reference to the resource, and to each of them the service answers with the resource,
exactly if the slug has anything but blanks. -/
structure ByReference (service : Controller WorkflowExecution (Resource Spec Status)) (kind : Kind)
    (w : DaemonWorld) (call : Call) (r : Resource Spec Status) : Prop where
  addressed : ∃ reference : Reference, reference.Addresses kind r
  found : ∀ reference : Reference, reference.Addresses kind r →
    ((∃ w', (service.getByReference call reference).outcome w = (.ok r, w')) ↔
      Text.isAllBlank r.metadata.slug = false)

variable {kind : Kind} {t : Table} {w : DaemonWorld} {call : Call} {r : Resource Spec Status}

/-- Whatever scope a valid resource has, there is a reference into it. -/
theorem exists_addresses (valid : r.violation? = none) :
    ∃ reference : Reference, reference.Addresses kind r := by
  refine ⟨⟨none, r.metadata.scope.org?, r.metadata.slug⟩, .inl rfl, ?_, rfl⟩
  have named := (Metadata.valid_iff.1 (violation?_eq_none.1 valid).1).scope
  cases scope : r.metadata.scope with
  | platform => rfl
  | organization org =>
    -- An organization without a name would be taken for none.
    have there : org.isEmpty = false := by
      rw [scope] at named
      refine Bool.eq_false_iff.2 fun empty => ?_
      rw [String.isEmpty_iff.1 empty] at named
      exact absurd named (by decide)
    simp [Reference.scope, OwnerScope.org?, there]

variable (faultless : w.store.faults = {}) (stored : w.store.backing = .memory t)
  (own : call.kind = some kind) (kept : KindKept Spec Status kind t) (held : Holds kind t r.id r)
  (still : w.timeline.Undisturbed call)
include faultless stored own kept held still

theorem byId_standard
    {create : Call → Resource Spec Status → Op WorkflowExecution (Resource Spec Status)}
    (named : r.id ≠ "") : ById (standardController kind create) kind w t call r := by
  constructor
  · constructor
    · rintro ⟨w', got⟩
      obtain ⟨-, held'⟩ := (reads_get stored own).of_eq_ok got
      exact (kept.of_holds held').1.symm
    · intro plain
      have there : Holds kind t (Text.trim r.id) r := plain.symm ▸ held
      have goes := goes_get faultless stored own (plain.symm ▸ named) there
      obtain ⟨r', w', got, -, held'⟩ := goes.outcome (reads_get stored own) still
      obtain rfl := there.unique held'
      exact ⟨w', got⟩
  · constructor
    · rintro ⟨w', deleted, -⟩
      obtain ⟨held', -⟩ := (ends_remove stored own r.id).of_eq_ok deleted
      exact (kept.of_holds held').1.symm
    · intro plain
      have there : Holds kind t (Text.trim r.id) r := plain.symm ▸ held
      obtain ⟨w', deleted, leads⟩ :=
        outcome_delete faultless stored own (plain.symm ▸ named) there still
      exact ⟨w', deleted, plain ▸ leads.stored⟩

theorem byReference_standard
    {create : Call → Resource Spec Status → Op WorkflowExecution (Resource Spec Status)} :
    ByReference (standardController kind create) kind w call r := by
  refine ⟨exists_addresses (kept.of_holds held).2.valid, fun reference addresses => ?_⟩
  rw [← addresses.slug]
  constructor
  · rintro ⟨w', answered⟩
    obtain ⟨-, found⟩ := (reads_getByReference stored own).of_eq_ok answered
    exact found.there
  · intro there
    have found : Found kind t reference r :=
      ⟨there, ⟨_, held⟩, addresses.scope.symm, addresses.slug.symm⟩
    have fits : Catalog.checkReferenceKind reference kind = .ok () := by
      rcases addresses.kind with none | same <;> simp [Catalog.checkReferenceKind, *]
    have goes := goes_getByReference faultless stored own kept held found fits
    obtain ⟨r', w', answered, -, found'⟩ := goes.outcome (reads_getByReference stored own) still
    obtain ⟨id, held'⟩ := found'.held
    -- Nobody else has the natural key.
    obtain rfl : r.id = id := kept.unique _ _ r r' held held'
      ⟨found.scope.trans found'.scope.symm, found.slug.trans found'.slug.symm⟩
    obtain rfl := held.unique held'
    exact ⟨w', answered⟩

end Asking

/-! ## Runs -/

section Runs

variable {Spec Status : Type} [Managed Spec Status]

/-- Whatever the service puts in place is stored under its id, and for as long as this value stays
there, whatever else is asked, the service answers for it, if the store does not fail and nothing is
in store for the call. -/
def StaysAnswered (config : Config)
    (service : Controller WorkflowExecution (Resource Spec Status)) (kind : Kind) (w : DaemonWorld)
    (Answers : DaemonWorld → Table → Call → Resource Spec Status → Prop) : Prop :=
  ∀ (message : Message (Resource Spec Status)) (first : Conditions) (r : Resource Spec Status)
    (w₁ : DaemonWorld), message.Placing →
    (service.handle (first.served kind) message).outcome (first.meet w) = (.ok r, w₁) →
    (∃ t, w₁.store.backing = .memory t ∧ t.get? ⟨kind.name, r.id⟩ = some r.encode) ∧
    ∀ (turns : List Turn) (t : Table) (c : Conditions),
      (run config w₁ turns).store.backing = .memory t →
      t.get? ⟨kind.name, r.id⟩ = some r.encode → c.faults = {} →
      c.timeline.Undisturbed (c.served kind) →
      Answers (c.meet (run config w₁ turns)) t (c.served kind) r

theorem staysAnswered [LawfulManaged Spec Status] {config : Config}
    {service : Controller WorkflowExecution (Resource Spec Status)} {kind : Kind} {w : DaemonWorld}
    {Answers : DaemonWorld → Table → Call → Resource Spec Status → Prop} (tended : Tended w)
    (keeps : ∀ call message, call.kind = some kind → Keeps (service.handle call message))
    (places : ∀ {w call}, Tended w → call.kind = some kind → ∀ {message}, message.Placing →
      Places (service.handle call message) w kind)
    (kept : ∀ {t}, TableKept t → KindKept Spec Status kind t)
    (answers : ∀ {w t call r}, w.store.faults = {} → w.store.backing = .memory t →
      call.kind = some kind → KindKept Spec Status kind t → Holds kind t r.id r →
      w.timeline.Undisturbed call → r.id ≠ "" → Answers w t call r) :
    StaysAnswered config service kind w Answers := by
  intro message first r w₁ placing outcome
  have met := first.tended_meet tended
  have own := first.kind_served kind
  obtain ⟨t₁, stored₁, inPlace⟩ := (places met own placing).of_eq_ok outcome
  refine ⟨⟨t₁, stored₁, inPlace.there⟩, fun turns t c stored there faultless still => ?_⟩
  have tended₁ : Tended w₁ := by
    have after := (keeps (first.served kind) message own).outcome met
    rw [outcome] at after
    exact after
  have tended' := tended_run config tended₁ turns
  have held : Holds kind t r.id r := InPlace.holds ⟨there, inPlace.named, inPlace.sound⟩
  exact answers (w := c.meet (run config w₁ turns)) faultless stored (c.kind_served kind)
    (kept (tended'.kept_of stored)) held still inPlace.named

variable (config : Config) (timeline : Timeline) (clock : Supply Timestamp) (ids : Supply String)

/-- In every store that is reached: what is created, updated or applied is addressed by its id from
then on, if there are no blanks around that, and agents and agent instances are found by their
natural keys, if the slug is not blank. -/
theorem addressed_reached (turns : List Turn) :
    StaysAnswered config (Daemon.agents config).controller .agent
      (reached config timeline clock ids turns) (fun w t call r =>
        ById (Daemon.agents config).controller .agent w t call r ∧
          ByReference (Daemon.agents config).controller .agent w call r) ∧
    StaysAnswered config (Daemon.instances config).controller .agentInstance
      (reached config timeline clock ids turns) (fun w t call r =>
        ById (Daemon.instances config).controller .agentInstance w t call r ∧
          ByReference (Daemon.instances config).controller .agentInstance w call r) ∧
    StaysAnswered config (Daemon.executions config).controller .workflowExecution
      (reached config timeline clock ids turns)
      (ById (Daemon.executions config).controller .workflowExecution) := by
  have tended := tended_reached config timeline clock ids turns
  refine ⟨?_, ?_, ?_⟩
  · refine staysAnswered tended (fun _ message own => keeps_agents config own message)
      (places_agents config) TableKept.agents fun faultless stored own kept held still named => ?_
    exact ⟨byId_standard faultless stored own kept held still named,
      byReference_standard faultless stored own kept held still⟩
  · refine staysAnswered tended (fun _ message own => keeps_instances config own message)
      (places_instances config) TableKept.instances
      fun faultless stored own kept held still named => ?_
    exact ⟨byId_standard faultless stored own kept held still named,
      byReference_standard faultless stored own kept held still⟩
  · refine staysAnswered tended (fun _ message own => keeps_executions config own message)
      (places_executions config) TableKept.executions
      fun faultless stored own kept held still named => ?_
    have byId : ById (standardController .workflowExecution Executions.create) _ _ _ _ _ :=
      byId_standard faultless stored own kept held still named
    exact ⟨byId.got, byId.deleted⟩

end Runs

/-! ## Chosen ids and slugs -/

/-- What comes of creating an agent instance first of all, with nothing in the way. -/
def firstCreated (input : AgentInstance) : Except Stop AgentInstance × DaemonWorld :=
  ((Daemon.instances {}).controller.handle (Conditions.free.served .agentInstance)
    (.create input)).outcome (Conditions.free.meet (reached {} {} stillClock sameTexts []))

theorem firstCreated_eq {input : AgentInstance} (valid : input.violation? = none)
    (there : input.metadata.slug ≠ "")
    (accepted : checkKey ⟨(Kind.agentInstance).name, input.id⟩ = .ok ()) :
    ∃ r w', firstCreated input = (.ok r, w') ∧ r.id = input.id ∧
      r.metadata.slug = input.metadata.slug ∧ Sound .agentInstance r ∧
      w'.store.backing = .memory (stow .agentInstance .empty r) := by
  have stored : (reached {} {} stillClock sameTexts []).store.backing = .memory .empty := rfl
  have free : KeyFree .agentInstance .empty input := by
    rintro id other ⟨bytes, found, -⟩
    cases found
  obtain ⟨r, w', done, created, named, slug, leads⟩ :=
    outcome_createInstance {} TableKept.empty stored valid there free accepted
  exact ⟨r, w', done, named, slug, created.sound, leads.stored⟩

/-- An instance with an id that has no blanks around it is got right then. -/
theorem addressed_reached_first : ∃ (r : AgentInstance) (w₁ w₂ : DaemonWorld),
    firstCreated (chosenInstance "First" "first") = (.ok r, w₁) ∧
      ((Daemon.instances {}).controller.get (Conditions.free.served .agentInstance)
        "ain-x").outcome (Conditions.free.meet w₁) = (.ok r, w₂) := by
  obtain ⟨r, w₁, done, named, -, -, stored⟩ :=
    firstCreated_eq (show (chosenInstance "First" "first").violation? = none by decide)
      (by decide) (by decide)
  have named : r.id = "ain-x" := named
  obtain ⟨-, instances, -⟩ := addressed_reached {} {} stillClock sameTexts []
  obtain ⟨-, later⟩ := instances _ Conditions.free r w₁ (.create _) done
  obtain ⟨byId, -⟩ := later [] _ Conditions.free stored Table.get?_put_self rfl
    (undisturbed_served .agentInstance)
  obtain ⟨w₂, got⟩ := byId.got.2 (by rw [named]; decide)
  rw [named] at got
  exact ⟨r, w₁, w₂, done, got⟩

/-- An agent instance with an id that has blanks around it and a slug that is one. -/
def paddedInstance : AgentInstance where
  metadata := { id := " ain-x ", name := "First", slug := " " }
  spec := { agentId := "agt-1" }
  status := ()

/-- It is created and stored, but there is no answer for its id, nor for a reference to it. -/
theorem padded_unanswered : ∃ (r : AgentInstance) (w₁ : DaemonWorld),
    firstCreated paddedInstance = (.ok r, w₁) ∧
    (∃ t, w₁.store.backing = .memory t ∧
      t.get? ⟨(Kind.agentInstance).name, r.id⟩ = some r.encode) ∧
    (∀ r' w₂, ((Daemon.instances {}).controller.get (Conditions.free.served .agentInstance)
      r.id).outcome (Conditions.free.meet w₁) ≠ (.ok r', w₂)) ∧
    (∀ r' w₂, ((Daemon.instances {}).controller.delete (Conditions.free.served .agentInstance)
      r.id).outcome (Conditions.free.meet w₁) ≠ (.ok r', w₂)) ∧
    ∀ reference : Reference, reference.Addresses .agentInstance r → ∀ r' w₂,
      ((Daemon.instances {}).controller.getByReference (Conditions.free.served .agentInstance)
        reference).outcome (Conditions.free.meet w₁) ≠ (.ok r', w₂) := by
  obtain ⟨r, w₁, done, named, slug, sound, stored⟩ :=
    firstCreated_eq (show paddedInstance.violation? = none by decide) (by decide) (by decide)
  have own := Conditions.free.kind_served .agentInstance
  -- Without the blanks it is another id, under which there is nothing.
  have apart : Text.trim r.id ≠ r.id := by
    rw [named]
    decide
  have none : ∀ r' : AgentInstance,
      ¬ Holds .agentInstance (stow .agentInstance .empty r) (Text.trim r.id) r' := by
    intro r' held
    rcases (holds_put sound).1 held with ⟨same, -⟩ | ⟨-, ⟨bytes, found, -⟩⟩
    · exact apart same
    · cases found
  refine ⟨r, w₁, done, ⟨_, stored, Table.get?_put_self⟩, fun r' w₂ got => ?_,
    fun r' w₂ deleted => ?_, fun reference addresses r' w₂ answered => ?_⟩
  · exact none r' ((reads_get (w := Conditions.free.meet w₁) stored own).of_eq_ok got).2
  · exact none r' ((ends_remove (w := Conditions.free.meet w₁) stored own _).of_eq_ok deleted).1
  · have there := ((reads_getByReference (w := Conditions.free.meet w₁) stored
      own).of_eq_ok answered).2.there
    rw [addresses.slug, slug] at there
    exact absurd there (by decide)

end Steward
