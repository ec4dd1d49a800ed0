import Steward.Proofs.Addresses
import Steward.Proofs.StoredKeys
import Steward.Proofs.Upserts

/-!
# Updating twice

An update takes its name, its labels and parts of its specification from the input, each by a rule
of its own. A resource that has been updated by an input, or is the input, has all of this already:
another update finds it again and changes only the moment of change. Main statement:
`idempotent_reached`.
-/

namespace Steward

open Store Daemon

section Resources

variable {Spec Status : Type} [Managed Spec Status] {kind : Kind} {t : Table}
  {input old r : Resource Spec Status}

/-- In the table, an update by the input means `r`. -/
def Addresses (kind : Kind) (t : Table) (input r : Resource Spec Status) : Prop :=
  ∃ state, Resolved input state ∧ Meant kind t state r

/-- A stored resource means itself. -/
theorem addresses_self (kept : KindKept Spec Status kind t) (filed : r.id ≠ "")
    (held : Holds kind t r.id r) : Addresses kind t r r := by
  have slug : Catalog.resolvedSlug r.metadata = .ok r.metadata.slug :=
    if_pos (kept.of_holds held).2.slug
  exact ⟨r, ⟨r.metadata.slug, slug, rfl⟩, .inl ⟨filed, held⟩⟩

/-- What an update leaves is meant by its input again. -/
theorem Revised.addresses [LawfulManaged Spec Status] (kept : KindKept Spec Status kind t)
    (revised : Revised kind t input old r) : Addresses kind (stow kind t r) input r := by
  obtain ⟨state, resolved, meant⟩ := revised.meant
  have next := revised.nextVersion
  obtain ⟨id, held⟩ := next.held
  obtain ⟨named, sound⟩ := kept.of_holds held
  have there : Holds kind (stow kind t r) r.id r :=
    (holds_put (next.sound sound)).2 (.inl ⟨rfl, rfl⟩)
  refine ⟨state, resolved, ?_⟩
  rcases meant with ⟨chosen, held'⟩ | ⟨unchosen, -, same⟩
  · -- The stored resource stands under its own id, and keeps it.
    have same : r.id = state.id := next.named.trans (kept.of_holds held').1
    exact .inl ⟨chosen, same ▸ there⟩
  · exact .inr ⟨unchosen, ⟨r.id, there⟩, next.same.symm.trans same⟩

variable [Merging Spec Status]

/-- A stored resource has all that an update by itself brings. -/
theorem settled_self (kept : KindKept Spec Status kind t) (held : Holds kind t r.id r)
    (accepted : checkKey ⟨kind.name, r.id⟩ = .ok ()) : Settled kind r r := by
  refine ⟨(kept.of_holds held).2.valid, accepted, fun moment => ?_⟩
  unfold updated touched Resource.merge Resource.withMetadata
  dsimp only
  rw [updatedMetadata_of_eq rfl rfl, Merging.merge_self]

/-- What an update leaves has all that the update brings. -/
theorem Revised.settledAgain (revised : Revised kind t input old r)
    (accepted : checkKey ⟨kind.name, r.id⟩ = .ok ()) : Settled kind input r := by
  obtain ⟨now, before, -, rfl⟩ := revised.made
  refine ⟨revised.valid, accepted, fun moment => ?_⟩
  unfold updated touched Resource.merge Resource.withMetadata
  dsimp only
  rw [updatedMetadata_updatedMetadata, Merging.merge_merge]

end Resources

/-! ## Operations that update -/

section Operations

variable {Spec Status : Type} [Managed Spec Status] {kind : Kind}

/-- The operation updates resources of the kind as the standard steps do, whatever it does
besides. -/
structure Renews (kind : Kind)
    (update : Call → Resource Spec Status → Op WorkflowExecution (Resource Spec Status)) :
    Prop where
  ends : ∀ {w : DaemonWorld} {t : Table} {call : Call} {input : Resource Spec Status},
    w.store.backing = .memory t → call.kind = some kind →
    Ends (update call input) w
      (fun r w' => (∃ old, Revised kind t input old r) ∧
        w'.store.backing = .memory (stow kind t r) ∧ checkKey ⟨kind.name, r.id⟩ = .ok ())
      fun _ _ => True
  goes : ∀ {w : DaemonWorld} {t : Table} {call : Call} {input old : Resource Spec Status},
    w.store.faults = {} → w.store.backing = .memory t → call.kind = some kind →
    KindKept Spec Status kind t → input.violation? = none → Addresses kind t input old →
    checkKey ⟨kind.name, old.id⟩ = .ok () → Timely old.metadata.updatedAt →
    Goes call (update call input) w

theorem renews_standard :
    Renews kind fun call (input : Resource Spec Status) =>
      ((Standard.update kind).write call input : Op WorkflowExecution _) where
  ends stored own := by
    refine Ends.imp (saves_update stored own) ?_ fun _ _ _ => trivial
    rintro r w' ⟨revised, leads, accepted⟩
    exact ⟨revised, leads.stored, accepted⟩
  goes faultless stored own kept valid addresses accepted timely := by
    obtain ⟨state, ⟨slug, resolved, rfl⟩, meant⟩ := addresses
    exact goes_update faultless stored own kept valid resolved meant accepted timely

/-- That executions are handed on after an update makes no difference. -/
theorem renews_executions : Renews Executions.kind Executions.update where
  ends stored own := by
    refine Ends.imp (announces_update _ stored own) ?_ fun _ _ _ => trivial
    rintro r w' ⟨revised, leads, accepted⟩
    exact ⟨revised, leads.stored, accepted⟩
  goes faultless stored own kept valid addresses accepted timely := by
    obtain ⟨state, ⟨slug, resolved, rfl⟩, meant⟩ := addresses
    exact goes_announced (p := Executions.updatePipeline) rfl
      (passes_updateSteps faultless stored own kept valid resolved meant accepted timely)
      (stows_updateSteps stored own rfl)

variable {update : Call → Resource Spec Status → Op WorkflowExecution (Resource Spec Status)}
  {w : DaemonWorld} {t : Table} {input r : Resource Spec Status}

/-- An update that means a stored resource, and brings nothing that this does not have, changes the
moment of change only. -/
theorem Renews.repeats (renews : Renews kind update) (stored : w.store.backing = .memory t)
    (kept : KindKept Spec Status kind t) (addresses : Addresses kind t input r)
    (settled : Settled kind input r) : Repeats kind update w input r := by
  have goes (c : Conditions) (faultless : c.faults = {})
      (room : ∀ before, r.metadata.updatedAt = some before → before.afterMicrosecond? ≠ none) :=
    renews.goes (w := c.meet w) faultless stored (c.kind_served kind) kept settled.valid addresses
      settled.accepted (Timestamp.exists_next? room)
  have ends (c : Conditions) : Ends (update (c.served kind) input) (c.meet w) _ _ :=
    renews.ends stored (c.kind_served kind)
  constructor
  · intro c r' w' done
    obtain ⟨⟨old, revised⟩, stored', -⟩ := (ends c).of_eq_ok done
    -- What is meant is known, so it is the resource that the update was made of.
    obtain ⟨state, resolved, meant⟩ := addresses
    obtain ⟨state', resolved', meant'⟩ := revised.meant
    obtain rfl := resolved.unique resolved'
    obtain rfl := kept.meant_unique meant' meant
    obtain ⟨id, held⟩ := meant.held
    obtain ⟨created, before, -, changed, -⟩ := (kept.of_holds held).2.moments
    obtain ⟨now, moment, next, made⟩ := revised.made
    rw [changed] at next
    exact ⟨t, before, moment, stored, changed, Timestamp.lt_of_next? next,
      made.trans (settled.updated moment), stored'⟩
  · intro c faultless room still
    obtain ⟨r', w', done, -⟩ := (goes c faultless room).outcome (ends c) still
    exact ⟨r', w', done⟩
  · intro c stop w' faultless room halted
    exact ((goes c faultless room).of_eq_error halted).halt

/-- Updating a stored resource by itself, and updating a second time by the same input, changes only
when the resource was last changed. -/
structure Idempotent (kind : Kind)
    (update : Call → Resource Spec Status → Op WorkflowExecution (Resource Spec Status))
    (w : DaemonWorld) : Prop where
  itself : ∀ t id r, w.store.backing = .memory t → Holds kind t id r → Repeats kind update w r r
  again : ∀ (c : Conditions) input r w',
    (update (c.served kind) input).outcome (c.meet w) = (.ok r, w') → Repeats kind update w' input r

theorem Renews.idempotent [LawfulManaged Spec Status] [Merging Spec Status]
    (renews : Renews kind update) (stored : w.store.backing = .memory t) (filed : Filed w.store)
    (kept : KindKept Spec Status kind t) : Idempotent kind update w := by
  constructor
  · intro t' id r stored' held
    obtain rfl : t = t' := Backing.memory.inj (stored.symm.trans stored')
    obtain rfl := (kept.of_holds held).1
    have accepted : checkKey ⟨kind.name, r.id⟩ = .ok () := by
      obtain ⟨bytes, found, -⟩ := held
      exact filed t stored _ bytes found
    exact renews.repeats stored kept (addresses_self kept (ne_empty_of_checkKey accepted) held)
      (settled_self kept held accepted)
  · intro c input r w' done
    have ends : Ends (update (c.served kind) input) (c.meet w) _ _ :=
      renews.ends stored (c.kind_served kind)
    obtain ⟨⟨old, revised⟩, stored', accepted⟩ := ends.of_eq_ok done
    have kept' : KindKept Spec Status kind (stow kind t r) :=
      (change_of_revised ⟨old, revised⟩).kept kept
    exact renews.repeats stored' kept' (revised.addresses kept) (revised.settledAgain accepted)

end Operations

/-- In every store that is reached, updates of agents, of agent instances and of workflow executions
are idempotent. -/
theorem idempotent_reached (config : Config) (timeline : Timeline) (clock : Supply Timestamp)
    (ids : Supply String) (turns : List Turn) :
    let w := reached config timeline clock ids turns
    Idempotent .agent (Daemon.agents config).controller.update w ∧
      Idempotent .agentInstance (Daemon.instances config).controller.update w ∧
      Idempotent .workflowExecution (Daemon.executions config).controller.update w := by
  obtain ⟨t, stored, kept⟩ := (tended_reached config timeline clock ids turns).kept
  have filed := filed_reached config timeline clock ids turns
  exact ⟨renews_standard.idempotent stored filed kept.agents,
    renews_standard.idempotent stored filed kept.instances,
    renews_executions.idempotent stored filed kept.executions⟩

/-- With nothing in the way, a repetition in the moment of the creation is recorded as later. -/
theorem Repeats.touched_of_epoch {Spec Status : Type} [Managed Spec Status] {kind : Kind}
    {update : Call → Resource Spec Status → Op WorkflowExecution (Resource Spec Status)}
    {w : DaemonWorld} {t : Table} {input r : Resource Spec Status}
    (repeats : Repeats kind update w input r) (stored : w.store.backing = .memory t)
    (fresh : r.metadata.updatedAt = some .epoch) :
    ∃ moment w', (update (Conditions.free.served kind) input).outcome (Conditions.free.meet w) =
        (.ok (touched r moment), w') ∧
      w'.store.backing = .memory (stow kind t (touched r moment)) ∧ .epoch < moment := by
  obtain ⟨r', w', again⟩ := repeats.succeeds Conditions.free rfl
    (fun before same => by
      obtain rfl : Timestamp.epoch = before := Option.some.inj (fresh.symm.trans same)
      decide)
    (undisturbed_served kind)
  obtain ⟨t', before, moment, stored', changed, later, rfl, stowed⟩ := repeats.touches _ _ _ again
  obtain rfl : t = t' := Backing.memory.inj (stored.symm.trans stored')
  obtain rfl : Timestamp.epoch = before := Option.some.inj (fresh.symm.trans changed)
  exact ⟨moment, w', again, stowed, later⟩

/-- The first instance of an agent, updated by itself in the moment of its creation. -/
theorem idempotent_reached_first : ∃ first : AgentInstance,
    worldWithFirst.store.backing = .memory (stow .agentInstance .empty first) ∧
    ∃ moment w', ((Daemon.instances {}).controller.update (Conditions.free.served .agentInstance)
        first).outcome (Conditions.free.meet worldWithFirst) = (.ok (touched first moment), w') ∧
      w'.store.backing =
        .memory (stow .agentInstance (stow .agentInstance .empty first) (touched first moment)) ∧
      .epoch < moment := by
  obtain ⟨first, w₁, done, -, -, sound, stored⟩ :=
    firstCreated_eq (show (chosenInstance "First" "first").violation? = none by decide)
      (by decide) (by decide)
  have fresh : (firstCreated (chosenInstance "First" "first")).1.toOption.bind
      (·.metadata.updatedAt) = some .epoch := by
    decide +kernel
  have taken : worldWithFirst = (firstCreated (chosenInstance "First" "first")).2 :=
    (reached_singleton {} {} stillClock sameTexts _).trans
      (Conditions.free.take_instances {} (.create (chosenInstance "First" "first")) _)
  rw [done] at fresh taken
  have stored : worldWithFirst.store.backing = .memory (stow .agentInstance .empty first) :=
    (congrArg (·.store.backing) taken).trans stored
  have held : Holds .agentInstance (stow .agentInstance .empty first) first.id first :=
    (holds_put sound).2 (.inl ⟨rfl, rfl⟩)
  refine ⟨first, stored, ?_⟩
  unfold worldWithFirst at stored ⊢
  obtain ⟨-, instances, -⟩ := idempotent_reached {} {} stillClock sameTexts
    [calmTurn (chosenInstance "First" "first")]
  exact (instances.itself _ first.id first stored held).touched_of_epoch stored fresh

end Steward
