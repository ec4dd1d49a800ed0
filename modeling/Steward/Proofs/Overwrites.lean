import Steward.Proofs.GoingThrough
import Steward.Proofs.Runs

/-!
# What a creation takes away

A creation refuses a natural key that is taken, but it stores under the id that the caller chose,
whatever is stored there. So it takes exactly one value away, that of a stored resource of its kind
with the chosen id, if there is one. Main statement: `create_spares_iff`, for every store that is
reached.
-/

namespace Steward

open Store

/-- Every value of the first table is in the second under the same key. -/
def Spares (t t' : Table) : Prop :=
  ∀ key bytes, t.get? key = some bytes → t'.get? key = some bytes

/-- No value is stored under an id made of a text that was not drawn yet. -/
def FreshIds (t : Table) (ids : Supply String) : Prop :=
  ∀ kind n, ids.used ≤ n → t.get? ⟨Kind.name kind, kind.id (ids.draw n)⟩ = none

theorem FreshIds.of_leads {t t' : Table} {w w' : DaemonWorld} (fresh : FreshIds t w.ids)
    (leads : Leads w t' w') : FreshIds t w'.ids := by
  intro kind n later
  rw [leads.draw]
  exact fresh kind n (Nat.le_trans leads.used later)

/-- Either the caller chose no id, or there is no value of the kind under the chosen one. -/
def IdVacant (kind : Kind) (t : Table) (chosen : String) : Prop :=
  chosen = "" ∨ t.get? ⟨kind.name, chosen⟩ = none

section Values

variable {Spec Status : Type} [Managed Spec Status] {kind : Kind} {t : Table}

/-- The id that is chosen or made for a new resource is vacant exactly if the chosen one is. -/
theorem IdFor.vacant_iff {ids : Supply String} {chosen id : String} (fresh : FreshIds t ids)
    (named : IdFor kind ids chosen id) :
    t.get? ⟨kind.name, id⟩ = none ↔ IdVacant kind t chosen := by
  rcases named with ⟨some, rfl⟩ | ⟨none, n, later, rfl⟩
  · simp [IdVacant, some]
  · exact iff_of_true (fresh kind n later) (Or.inl none)

/-- What is stored under the id of a resource whose natural key was free is not that resource. -/
theorem ne_encode_of_free [LawfulManaged Spec Status] {r : Resource Spec Status}
    (sound : Sound kind r) (free : KeyFree kind t r) {bytes : ByteArray}
    (taken : t.get? ⟨kind.name, r.id⟩ = some bytes) : bytes ≠ r.encode := by
  rintro rfl
  exact free r.id r ⟨_, taken, sound.decode_encode⟩ ⟨rfl, rfl⟩

/-- A resource whose natural key was free takes away what was stored under its id. -/
theorem vacant_of_spares [LawfulManaged Spec Status] {t' : Table} {r : Resource Spec Status}
    (sound : Sound kind r) (free : KeyFree kind t r) (spares : Spares t (stow kind t' r)) :
    t.get? ⟨kind.name, r.id⟩ = none := by
  cases taken : t.get? ⟨kind.name, r.id⟩ with
  | none => rfl
  | some bytes =>
    have kept := spares _ _ taken
    rw [stow, Table.get?_put_self] at kept
    exact absurd (Option.some.inj kept).symm (ne_encode_of_free sound free taken)

/-- Storing under a vacant key spares every value. -/
theorem spares_put {t' : Table} {key : Key} (spares : Spares t t') (value : ByteArray)
    (vacant : t.get? key = none) : Spares t (t'.put key value) := by
  intro other bytes found
  rw [Table.get?_put]
  split
  · next same =>
    rw [same, vacant] at found
    cases found
  · exact spares other bytes found

/-- A new resource spares every value exactly if its id was vacant. -/
theorem Created.spares_iff [LawfulManaged Spec Status] {ids : Supply String}
    {input r : Resource Spec Status} (created : Created kind t ids input r)
    (fresh : FreshIds t ids) : Spares t (stow kind t r) ↔ IdVacant kind t input.id := by
  rw [← created.named.vacant_iff fresh]
  constructor
  · exact vacant_of_spares created.sound created.free
  · exact spares_put (fun _ _ found => found) _

end Values

/-- Nothing is stored under the id that the default instance of a new agent gets. -/
theorem BothCreated.vacant {t : Table} {ids : Supply String} {input agent : Agent}
    {made : AgentInstance} (created : BothCreated t ids input agent made) (fresh : FreshIds t ids) :
    t.get? ⟨(Kind.agentInstance).name, made.id⟩ = none := by
  rcases created.configured.named with ⟨chosen, -⟩ | ⟨-, n, later, named⟩
  · exact absurd rfl chosen
  · rw [named]
    exact fresh .agentInstance n later

/-- The values that a new agent takes away: its default instance takes none. -/
theorem BothCreated.spares_iff {t : Table} {ids : Supply String} {input agent : Agent}
    {made : AgentInstance} (created : BothCreated t ids input agent made) (fresh : FreshIds t ids) :
    Spares t (stow .agent (stowBoth t agent made) (recorded agent made.id)) ↔
      IdVacant .agent t input.id := by
  have freshMade := created.vacant fresh
  obtain ⟨template, configured⟩ := created
  rw [← template.named.vacant_iff fresh]
  constructor
  · -- The last write, of the agent with the instance's id, is the one that shows.
    have sound : Sound .agent (recorded agent made.id) := template.sound.restatus _
    have free : KeyFree .agent t (recorded agent made.id) := template.free
    exact vacant_of_spares sound free
  · intro vacant
    have first : Spares t (stow .agent t agent) := spares_put (fun _ _ found => found) _ vacant
    exact spares_put (spares_put first _ freshMade) _ vacant

/-! ## Creations -/

/-- The operation ends with a table that spares every value exactly if the id is vacant. -/
def SparesIfVacant {α : Type} (op : Op WorkflowExecution α) (w : DaemonWorld) (t : Table)
    (kind : Kind) (chosen : String) : Prop :=
  Ends op w (fun _ w' => ∃ t', w'.store.backing = .memory t' ∧
    (Spares t t' ↔ IdVacant kind t chosen)) fun _ _ => True

section Creations

variable {t : Table} {w : DaemonWorld} {call : Call} (config : Config)

theorem spares_createInstance (input : AgentInstance) (stored : w.store.backing = .memory t)
    (fresh : FreshIds t w.ids) (own : call.kind = some .agentInstance) :
    SparesIfVacant (AgentInstances.create call input) w t .agentInstance input.id :=
  Ends.imp (saves_create stored own)
    (fun _ _ ⟨created, leads, _⟩ => ⟨_, leads.stored, created.spares_iff fresh⟩)
    fun _ _ _ => trivial

theorem spares_createExecution (input : WorkflowExecution) (stored : w.store.backing = .memory t)
    (fresh : FreshIds t w.ids) (own : call.kind = some .workflowExecution) :
    SparesIfVacant (Executions.create call input) w t .workflowExecution input.id :=
  Ends.imp (announces_create input stored own)
    (fun _ _ ⟨created, leads, _⟩ => ⟨_, leads.stored, created.spares_iff fresh⟩)
    fun _ _ _ => trivial

theorem spares_createAgent (input : Agent) (stored : w.store.backing = .memory t)
    (declared : Declared w.interceptor) (fresh : FreshIds t w.ids)
    (own : call.kind = some .agent) :
    SparesIfVacant (Agents.create (.ofEndpoint (Daemon.instances config)) call input) w t .agent
      input.id := by
  refine (ends_createAgent config stored declared own input).imp ?_ fun _ _ _ => trivial
  rintro r w' ⟨agent, made, created, -, leads, -⟩
  exact ⟨_, leads.stored, created.spares_iff fresh⟩

/-- Applying the resource means creating: no stored resource has its natural key. -/
def Delegates {Spec Status : Type} [Managed Spec Status] (kind : Kind) (t : Table)
    (input : Resource Spec Status) : Prop :=
  ∀ resolved, Resolved input resolved → KeyFree kind t resolved

theorem spares_apply {Spec Status : Type} [Managed Spec Status] {kind : Kind}
    {create update : Call → Resource Spec Status → Op WorkflowExecution (Resource Spec Status)}
    {input : Resource Spec Status} (stored : w.store.backing = .memory t)
    (own : call.kind = some kind) (delegates : Delegates kind t input)
    (creates : ∀ w' resolved, Leads w t w' → Resolved input resolved →
      SparesIfVacant (create call resolved) w' t kind resolved.id) :
    SparesIfVacant (Standard.apply kind create update call input) w t kind input.id := by
  refine ends_apply stored own (fun w' resolved leads made _ => ?_)
    (fun w' resolved old _ made same held => ?_) fun _ _ _ => trivial
  · obtain ⟨slug, -, rfl⟩ := id made
    exact creates w' _ leads made
  · obtain ⟨id, held⟩ := held
    exact absurd same (delegates resolved made id old held)

end Creations

namespace Daemon

/-- The operation creates a resource for which the caller chose an id, possibly none: it asks for
that, or for applying a resource of which the natural key belongs to nobody. -/
inductive Operation.Creates (t : Table) : Operation → String → Prop where
  | agent (input : Agent) : Creates t (.agents (.create input)) input.id
  | instance_ (input : AgentInstance) : Creates t (.instances (.create input)) input.id
  | execution (input : WorkflowExecution) : Creates t (.executions (.create input)) input.id
  | applyAgent (input : Agent) (delegates : Delegates .agent t input) :
      Creates t (.agents (.apply input)) input.id
  | applyInstance (input : AgentInstance) (delegates : Delegates .agentInstance t input) :
      Creates t (.instances (.apply input)) input.id

end Daemon

open Daemon

theorem SparesIfVacant.discard {α : Type} {op : Op WorkflowExecution α} {w : DaemonWorld}
    {t : Table} {kind : Kind} {chosen : String} (spares : SparesIfVacant op w t kind chosen) :
    SparesIfVacant (do let _ ← op) w t kind chosen := by
  unfold SparesIfVacant
  rw [ends_bind]
  exact spares

theorem spares_work (config : Config) {w : DaemonWorld} {t : Table} {call : Call}
    {operation : Operation} {chosen : String} (stored : w.store.backing = .memory t)
    (declared : Declared w.interceptor) (fresh : FreshIds t w.ids)
    (own : call.kind = some operation.kind) (creates : operation.Creates t chosen) :
    SparesIfVacant (operation.work config call) w t operation.kind chosen := by
  cases creates with
  | agent input => exact (spares_createAgent config input stored declared fresh own).discard
  | instance_ input => exact (spares_createInstance input stored fresh own).discard
  | execution input => exact (spares_createExecution input stored fresh own).discard
  | applyAgent input delegates =>
    refine SparesIfVacant.discard (spares_apply stored own delegates fun w' resolved leads _ => ?_)
    exact spares_createAgent config resolved leads.stored (declared.of_leads leads)
      (fresh.of_leads leads) own
  | applyInstance input delegates =>
    refine SparesIfVacant.discard (spares_apply stored own delegates fun w' resolved leads _ => ?_)
    exact spares_createInstance resolved leads.stored (fresh.of_leads leads) own

/-- In every store that is reached: a creation that succeeds spares every stored value exactly if
the caller chose no id or one under which nothing of the kind is stored. -/
theorem create_spares_iff (config : Config) (timeline : Timeline) (clock : Supply Timestamp)
    (ids : Supply String) (turns : List Turn) (turn : Turn) {t t' : Table} {chosen : String}
    (stored : (reached config timeline clock ids turns).store.backing = .memory t)
    (fresh : FreshIds t (reached config timeline clock ids turns).ids)
    (creates : turn.operation.Creates t chosen)
    (done : (turn.outcome config (reached config timeline clock ids turns)).1 = .ok ())
    (stored' : (turn.take config (reached config timeline clock ids turns)).store.backing =
      .memory t') :
    (∀ key bytes, t.get? key = some bytes → t'.get? key = some bytes) ↔
      chosen = "" ∨ t.get? ⟨turn.operation.kind.name, chosen⟩ = none := by
  have tended := tended_reached config timeline clock ids turns
  -- The turn changes neither the table nor what the interceptor knows before the operation starts.
  have ends : SparesIfVacant
      (turn.operation.work config (turn.call.withKind turn.operation.kind))
      (turn.meet (reached config timeline clock ids turns)) t turn.operation.kind chosen :=
    spares_work config stored tended.declared fresh rfl creates
  unfold SparesIfVacant Ends at ends
  unfold Turn.take Turn.outcome Op.outcome at *
  split at ends
  · next ran =>
    rw [ran] at stored'
    obtain ⟨t'', stored'', spares⟩ := ends
    obtain rfl : t' = t'' := Backing.memory.inj (stored'.symm.trans stored'')
    exact spares
  · next ran =>
    rw [ran] at done
    cases done

/-! ## Two creations in calm -/

/-- An agent instance for which the caller chose the id. -/
def chosenInstance (name slug : String) : AgentInstance where
  metadata := { id := "ain-x", name := name, slug := slug }
  spec := { agentId := "agt-1" }
  status := ()

/-- Texts that are all the same. -/
def sameTexts : Supply String := ⟨fun _ => "0", 0⟩

/-- The creation of an agent instance in calm. -/
def calmTurn (input : AgentInstance) : Turn :=
  Conditions.free.turn (.instances (.create input))

/-- With nothing in the way, an instance with a slug that is free is created under the id that was
chosen. -/
theorem outcome_createInstance (config : Config) {w : DaemonWorld} {t : Table}
    (kept : TableKept t) (stored : w.store.backing = .memory t) {input : AgentInstance}
    (valid : input.violation? = none) (there : input.metadata.slug ≠ "")
    (free : KeyFree .agentInstance t input)
    (accepted : checkKey ⟨(Kind.agentInstance).name, input.id⟩ = .ok ()) :
    ∃ r w', ((Daemon.instances config).controller.handle (Conditions.free.served .agentInstance)
        (.create input)).outcome (Conditions.free.meet w) = (.ok r, w') ∧
      Created .agentInstance t w.ids input r ∧ r.id = input.id ∧
      r.metadata.slug = input.metadata.slug ∧
      Leads (Conditions.free.meet w) (stow .agentInstance t r) w' := by
  have resolved : Catalog.resolvedSlug input.metadata = .ok input.metadata.slug := if_pos there
  have chosen : ∀ {id}, IdFor .agentInstance w.ids input.id id → id = input.id := by
    rintro id (⟨-, same⟩ | ⟨unchosen, -⟩)
    · exact same
    · exact absurd unchosen (ne_empty_of_checkKey accepted)
  have goes := goes_create (w := Conditions.free.meet w) rfl stored
    (Conditions.free.kind_served .agentInstance) kept.instances valid resolved free
    fun id named => (chosen named).symm ▸ accepted
  obtain ⟨r, w', outcome, created, leads, -⟩ := goes.outcome
    (saves_create stored (Conditions.free.kind_served .agentInstance))
    (undisturbed_served .agentInstance)
  refine ⟨r, w', outcome, created, chosen created.named, ?_, leads⟩
  obtain ⟨slug, id, now, resolved', rfl⟩ := created.made
  exact (Except.ok.inj (resolved.symm.trans resolved')).symm

/-- In calm, such an instance is created. -/
theorem outcome_calmTurn (config : Config) {w : DaemonWorld} {t : Table} (kept : TableKept t)
    (stored : w.store.backing = .memory t) {name slug : String}
    (valid : (chosenInstance name slug).violation? = none) (there : slug ≠ "")
    (free : KeyFree .agentInstance t (chosenInstance name slug)) :
    ((calmTurn (chosenInstance name slug)).outcome config w).1 = .ok () ∧
      ∃ r, Created .agentInstance t w.ids (chosenInstance name slug) r ∧ r.id = "ain-x" ∧
        r.metadata.slug = slug ∧ Leads ((calmTurn (chosenInstance name slug)).meet w)
          (stow .agentInstance t r) ((calmTurn (chosenInstance name slug)).take config w) := by
  have accepted : checkKey ⟨(Kind.agentInstance).name, "ain-x"⟩ = .ok () := by decide
  obtain ⟨r, w', done, created, named, slugged, leads⟩ :=
    outcome_createInstance config kept stored valid there free accepted
  have outcome : (calmTurn (chosenInstance name slug)).outcome config w = (.ok (), w') :=
    (outcome_answer fun _ => ()).trans
      (congrArg (fun outcome => (outcome.1.map fun _ => (), outcome.2)) done)
  refine ⟨by rw [outcome], r, created, named, slugged, ?_⟩
  rw [Turn.take, outcome]
  exact leads

/-- A world in which one instance was created in calm under a chosen id. -/
def worldWithFirst : DaemonWorld :=
  reached {} {} stillClock sameTexts [calmTurn (chosenInstance "First" "first")]

/-- In it, an instance with another slug is created under the same id. -/
theorem created_twice : ∃ first second : AgentInstance,
    first.id = "ain-x" ∧ second.id = "ain-x" ∧ Sound .agentInstance first ∧
    Sound .agentInstance second ∧ KeyFree .agentInstance (stow .agentInstance .empty first) second ∧
    worldWithFirst.store.backing = .memory (stow .agentInstance .empty first) ∧
    worldWithFirst.ids.draw = (fun _ => "0") ∧
    ((calmTurn (chosenInstance "Second" "second")).outcome {} worldWithFirst).1 = .ok () ∧
    ((calmTurn (chosenInstance "Second" "second")).take {} worldWithFirst).store.backing =
      .memory (stow .agentInstance (stow .agentInstance .empty first) second) := by
  obtain ⟨-, first, created, named, slug, leads⟩ := outcome_calmTurn {}
    (w := Daemon.world {} (.memory .empty) {} stillClock sameTexts)
    TableKept.empty rfl (by decide : (chosenInstance "First" "first").violation? = none) (by decide)
    (by rintro id other ⟨bytes, found, -⟩; cases found)
  have leads : Leads _ (stow .agentInstance .empty first) worldWithFirst := leads
  have free : KeyFree .agentInstance (stow .agentInstance .empty first)
      (chosenInstance "Second" "second") := by
    rintro id other held ⟨-, same⟩
    rcases (holds_put created.sound).1 held with ⟨-, rfl⟩ | ⟨-, ⟨bytes, found, -⟩⟩
    · rw [slug] at same
      exact absurd same (by decide)
    · cases found
  obtain ⟨done, second, created', named', -, leads'⟩ := outcome_calmTurn {}
    (TableKept.empty.of_instances created.change) leads.stored
    (by decide : (chosenInstance "Second" "second").violation? = none) (by decide) free
  exact ⟨first, second, named, named', created.sound, created'.sound, created'.free, leads.stored,
    leads.draw, done, leads'.stored⟩

/-- The first instance is lost, although the second creation succeeds. -/
theorem create_loses_value : ∃ (t t' : Table) (key : Key) (bytes : ByteArray),
    worldWithFirst.store.backing = .memory t ∧
    (calmTurn (chosenInstance "Second" "second")).operation.Creates t "ain-x" ∧
    ((calmTurn (chosenInstance "Second" "second")).outcome {} worldWithFirst).1 = .ok () ∧
    ((calmTurn (chosenInstance "Second" "second")).take {} worldWithFirst).store.backing =
      .memory t' ∧
    t.get? key = some bytes ∧ t'.get? key ≠ some bytes := by
  obtain ⟨first, second, named, named', -, sound, free, stored, -, done, stored'⟩ := created_twice
  have taken : (stow .agentInstance .empty first).get? ⟨(Kind.agentInstance).name, second.id⟩ =
      some first.encode := by
    rw [named', ← named]
    exact Table.get?_put_self
  refine ⟨_, _, _, _, stored, .instance_ _, done, stored', taken, ?_⟩
  rw [stow, Table.get?_put_self]
  intro kept
  exact ne_encode_of_free sound free taken (Option.some.inj kept).symm

/-- The equivalence at the second of the two creations. -/
theorem create_spares_iff_second : ∃ t t',
    worldWithFirst.store.backing = .memory t ∧ FreshIds t worldWithFirst.ids ∧
    (calmTurn (chosenInstance "Second" "second")).operation.Creates t "ain-x" ∧
    ((calmTurn (chosenInstance "Second" "second")).outcome {} worldWithFirst).1 = .ok () ∧
    ((calmTurn (chosenInstance "Second" "second")).take {} worldWithFirst).store.backing =
      .memory t' ∧
    ((∀ key bytes, t.get? key = some bytes → t'.get? key = some bytes) ↔
      "ain-x" = "" ∨ t.get? ⟨(Kind.agentInstance).name, "ain-x"⟩ = none) := by
  obtain ⟨first, second, named, -, -, -, -, stored, drawn, done, stored'⟩ := created_twice
  have fresh : FreshIds (stow .agentInstance .empty first) worldWithFirst.ids := by
    intro kind n _
    have other : (⟨kind.name, kind.id "0"⟩ : Key) ≠ ⟨(Kind.agentInstance).name, "ain-x"⟩ := by
      cases kind <;> decide
    rw [drawn, stow, named, Table.get?_put_of_ne other, Table.get?_empty]
  refine ⟨_, _, stored, fresh, .instance_ _, done, stored', ?_⟩
  unfold worldWithFirst at stored fresh done stored'
  exact create_spares_iff {} {} stillClock sameTexts
    [calmTurn (chosenInstance "First" "first")] (calmTurn (chosenInstance "Second" "second")) stored
    fresh (.instance_ _) done stored'

end Steward
