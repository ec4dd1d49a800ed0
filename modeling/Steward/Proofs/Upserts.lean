import Steward.Proofs.GoingThrough
import Steward.Proofs.Runs

/-!
# Applying twice

Applying a resource creates it or updates the stored one with its natural key. Two different lines
of steps lead to what is then stored; either way an update by the same input changes nothing in it
but the moment of change. So applying the input again finds what the first time has left, and ends
with the same but for that moment. Main statement: `upserts_reached`.
-/

namespace Steward

open Store Daemon

/-! ## What an update by the same input changes -/

/-- An update of a specification by what it was made of, or was updated by, changes nothing. -/
class Merging (Spec Status : Type) [Managed Spec Status] : Prop where
  merge_self : ∀ spec : Spec, Managed.merge Status spec spec = spec
  merge_merge : ∀ stored requested : Spec,
    Managed.merge Status (Managed.merge Status stored requested) requested =
      Managed.merge Status stored requested

instance : Merging AgentSpec AgentStatus :=
  ⟨fun _ => rfl, fun _ _ => rfl⟩

instance : Merging AgentInstanceSpec Unit :=
  ⟨fun _ => rfl, fun _ _ => rfl⟩

instance : Merging ExecutionSpec ExecutionStatus :=
  ⟨fun _ => rfl, fun _ _ => rfl⟩

section Resources

variable {Spec Status : Type}

/-- The resource with another moment of change. -/
def touched (r : Resource Spec Status) (moment : Timestamp) : Resource Spec Status :=
  r.withMetadata fun m => { m with updatedAt := some moment }

theorem updatedMetadata_of_eq {stored requested : Metadata} (name : stored.name = requested.name)
    (labels : stored.labels = requested.labels) (moment : Timestamp) :
    Catalog.updatedMetadata stored requested moment = { stored with updatedAt := some moment } := by
  simp [Catalog.updatedMetadata, ← name, ← labels]

theorem updatedMetadata_updatedMetadata (stored requested : Metadata) (before moment : Timestamp) :
    Catalog.updatedMetadata (Catalog.updatedMetadata stored requested before) requested moment =
      { Catalog.updatedMetadata stored requested before with updatedAt := some moment } := by
  unfold Catalog.updatedMetadata
  dsimp only
  split <;> split <;> rfl

/-- The resource has the natural key that an input gets. -/
structure Keyed (input r : Resource Spec Status) : Prop where
  slug : Catalog.resolvedSlug input.metadata = .ok r.metadata.slug
  scope : r.metadata.scope = input.metadata.scope

theorem Keyed.sameKey {input r r' : Resource Spec Status} (keyed : Keyed input r)
    (keyed' : Keyed input r') : SameKey r r' :=
  ⟨keyed.scope.trans keyed'.scope.symm, Except.ok.inj (keyed.slug.symm.trans keyed'.slug)⟩

theorem Keyed.of_sameKey {input r r' : Resource Spec Status} (keyed : Keyed input r)
    (same : SameKey r r') : Keyed input r' :=
  ⟨by rw [keyed.slug, same.2], same.1.symm.trans keyed.scope⟩

theorem Resolved.keyed {input state : Resource Spec Status} (resolved : Resolved input state) :
    Keyed input state := by
  obtain ⟨slug, resolved, rfl⟩ := resolved
  exact ⟨resolved, rfl⟩

/-- Resolving an input makes one resource of it. -/
theorem Resolved.unique {input state state' : Resource Spec Status}
    (resolved : Resolved input state) (resolved' : Resolved input state') : state = state' := by
  obtain ⟨slug, resolved, rfl⟩ := resolved
  obtain ⟨slug', resolved', rfl⟩ := resolved'
  obtain rfl : slug = slug' := Except.ok.inj (resolved.symm.trans resolved')
  rfl

variable [Managed Spec Status]

/-- What was created of an input has the natural key of the input. -/
theorem Created.keyed {kind : Kind} {t : Table} {ids : Supply String}
    {input r : Resource Spec Status} (created : Created kind t ids input r) : Keyed input r := by
  obtain ⟨slug, id, now, resolved, rfl⟩ := created.made
  exact ⟨resolved, rfl⟩

/-- No stored resource of the kind has the natural key of the input. -/
def Unused (kind : Kind) (t : Table) (input : Resource Spec Status) : Prop :=
  ∀ id other, Holds kind t id other → ¬ Keyed input other

/-- What was resolved, under any id, is as valid as the input. -/
theorem Resolved.valid_iff {input state : Resource Spec Status} (resolved : Resolved input state)
    (id : String) : (state.withId id).violation? = none ↔ input.violation? = none := by
  obtain ⟨slug, resolved, rfl⟩ := resolved
  have short : slug.length ≤ 63 ↔ input.metadata.slug.length ≤ 63 := by
    refine ⟨fun short => ?_, (resolvedSlug_eq_ok resolved).2⟩
    unfold Catalog.resolvedSlug at resolved
    split at resolved
    · obtain rfl := Except.ok.inj resolved
      exact short
    · next none => simp [Classical.not_not.1 none]
  rw [violation?_eq_none, violation?_eq_none, Metadata.valid_iff, Metadata.valid_iff]
  refine and_congr_left' ⟨fun valid => ?_, fun valid => ?_⟩
  · exact ⟨valid.named, valid.name, short.1 valid.slug, valid.scope, valid.labels⟩
  · exact ⟨valid.named, valid.name, short.2 valid.slug, valid.scope, valid.labels⟩

/-- The resource could be stored, and has all that an update takes from a valid input. -/
structure Settled (kind : Kind) (input r : Resource Spec Status) : Prop where
  valid : input.violation? = none
  accepted : checkKey ⟨kind.name, r.id⟩ = .ok ()
  updated : ∀ moment, updated r input moment = touched r moment

/-- `r` is the one resource with the natural key of `input` in the table `t'`. If there was one in
the table `t` before, it is still the same resource. -/
structure Upserted (kind : Kind) (t t' : Table) (input r : Resource Spec Status) : Prop where
  keyed : Keyed input r
  held : Holds kind t' r.id r
  only : ∀ id other, Holds kind t' id other → Keyed input other → id = r.id ∧ other = r
  keeps : ∀ id old, Holds kind t id old → Keyed input old →
    r.id = old.id ∧ r.metadata.slug = old.metadata.slug ∧ r.metadata.scope = old.metadata.scope ∧
      r.metadata.createdAt = old.metadata.createdAt ∧ r.status = old.status

variable {kind : Kind} {t t' : Table} {input state old r : Resource Spec Status}

/-- Nobody else has the natural key of a stored resource. -/
theorem KindKept.only (kept : KindKept Spec Status kind t) (keyed : Keyed input r)
    (held : Holds kind t r.id r) {id : String} {other : Resource Spec Status}
    (there : Holds kind t id other) (keyed' : Keyed input other) : id = r.id ∧ other = r := by
  obtain rfl := kept.unique id r.id other r there held (keyed'.sameKey keyed)
  exact ⟨rfl, there.unique held⟩

/-- The stored resource that the id of another one leads to is that one. -/
theorem Revised.eq_of_held {old' : Resource Spec Status}
    (kept : KindKept Spec Status kind t) (revised : Revised kind t (state.withId old.id) old' r)
    (there : state.metadata.slug ≠ "") (same : SameKey old state) (held : Holds kind t old.id old) :
    old' = old := by
  obtain ⟨state', ⟨slug, resolved, rfl⟩, meant⟩ := revised.meant
  rcases meant with ⟨-, held'⟩ | ⟨-, ⟨id, held'⟩, scope, slug'⟩
  · exact held'.unique held
  · -- Without an id, the natural key leads to it as well.
    obtain rfl : state.metadata.slug = slug := Except.ok.inj ((if_pos there).symm.trans resolved)
    obtain rfl := kept.unique id old.id old' old held' held
      (SameKey.trans ⟨scope, slug'⟩ same.symm)
    exact held'.unique held

variable [Merging Spec Status]

/-- A new resource made of what was resolved has all that an update takes from the input. Its status
is of no account. -/
theorem Created.settled {ids : Supply String} (created : Created kind t ids state r)
    (resolved : Resolved input state) (accepted : checkKey ⟨kind.name, r.id⟩ = .ok ())
    (status : Status) : Settled kind input { r with status := status } := by
  have valid := (resolved.valid_iff state.id).1 created.valid
  obtain ⟨slug, -, rfl⟩ := resolved
  obtain ⟨slug', id, now, -, rfl⟩ := created.made
  refine ⟨valid, accepted, fun moment => ?_⟩
  unfold updated touched Resource.merge Resource.withMetadata
  dsimp only
  rw [updatedMetadata_of_eq (by rfl) (by rfl)]
  simp only [stamped, Resource.withFreshStatus, Merging.merge_self]

/-- So does a stored resource that was updated by it. -/
theorem Revised.settled (revised : Revised kind t (state.withId r.id) old r)
    (resolved : Resolved input state) (accepted : checkKey ⟨kind.name, r.id⟩ = .ok ()) :
    Settled kind input r := by
  have valid := (resolved.valid_iff r.id).1 revised.valid
  obtain ⟨slug, -, rfl⟩ := resolved
  obtain ⟨now, before, -, same⟩ := revised.made
  refine ⟨valid, accepted, fun moment => ?_⟩
  have made : r = updated old input before := same
  rw [made]
  unfold updated touched Resource.merge Resource.withMetadata
  dsimp only
  rw [updatedMetadata_updatedMetadata, Merging.merge_merge]

end Resources

/-! ## The first time -/

section First

variable {Item Spec Status : Type} [Managed Spec Status] [LawfulManaged Spec Status]
  [Merging Spec Status] {kind : Kind} {call : Call} {w : World Item} {t : Table}
  {input r : Resource Spec Status}
  {create : Call → Resource Spec Status → Op Item (Resource Spec Status)}

/-- The table of the world is well kept, in it the input is upserted, and has all that an update
takes from it. -/
structure Applied (kind : Kind) (t : Table) (input r : Resource Spec Status) (w : World Item)
    (t' : Table) : Prop where
  stored : w.store.backing = .memory t'
  kept : KindKept Spec Status kind t'
  upserted : Upserted kind t t' input r
  settled : Settled kind input r

/-- A new resource is upserted when it is in place. -/
theorem Created.applied {ids : Supply String} {state agent : Resource Spec Status} {t' : Table}
    (created : Created kind t ids state agent) (resolved : Resolved input state)
    (accepted : checkKey ⟨kind.name, agent.id⟩ = .ok ()) (status : Status)
    (stored : w.store.backing = .memory (stow kind t' { agent with status := status }))
    (kept : KindKept Spec Status kind (stow kind t' { agent with status := status })) :
    Applied kind t input { agent with status := status } w
      (stow kind t' { agent with status := status }) := by
  obtain ⟨slug, -, rfl⟩ := id resolved
  have keyed : Keyed input { agent with status := status } := by
    obtain ⟨slug', id, now, again, rfl⟩ := created.made
    obtain rfl : slug = slug' :=
      Except.ok.inj ((if_pos (resolvedSlug_eq_ok resolved.keyed.slug).1).symm.trans again)
    exact ⟨resolved.keyed.slug, rfl⟩
  have held : Holds kind (stow kind t' { agent with status := status }) agent.id
      { agent with status := status } :=
    (holds_put (created.sound.restatus status)).2 (.inl ⟨rfl, rfl⟩)
  refine ⟨stored, kept, ⟨keyed, held, fun id other there => kept.only keyed held there, ?_⟩,
    created.settled resolved accepted status⟩
  intro id old there keyed'
  have same : SameKey old agent := keyed'.sameKey ⟨keyed.slug, keyed.scope⟩
  exact absurd same (created.free id old there)

/-- A stored resource is upserted when its next version is in place. -/
theorem Revised.applied {state old old' : Resource Spec Status}
    (revised : Revised kind t (state.withId old.id) old' r) (resolved : Resolved input state)
    (accepted : checkKey ⟨kind.name, r.id⟩ = .ok ()) (kept : KindKept Spec Status kind t)
    (same : SameKey old state) (held : ∃ id, Holds kind t id old)
    (stored : w.store.backing = .memory (stow kind t r)) :
    Applied kind t input r w (stow kind t r) := by
  obtain ⟨id, held⟩ := held
  obtain ⟨rfl, sound⟩ := kept.of_holds held
  obtain rfl := revised.eq_of_held kept (resolvedSlug_eq_ok resolved.keyed.slug).1 same held
  obtain ⟨now, moment, next, made⟩ := revised.made
  have kept' : KindKept Spec Status kind (stow kind t r) :=
    Change.kept (.renew old' r revised.nextVersion) kept
  have keyed : Keyed input r := by
    rw [made]
    exact (resolved.keyed.of_sameKey same.symm).of_sameKey (sameKey_updated _ moment)
  have named : r.id = old'.id := by rw [made]; rfl
  have held' : Holds kind (stow kind t r) r.id r :=
    (holds_put (revised.nextVersion.sound sound)).2 (.inl ⟨rfl, rfl⟩)
  refine ⟨stored, kept', ⟨keyed, held', fun id other there => kept'.only keyed held' there, ?_⟩, ?_⟩
  · intro id other there keyed'
    obtain ⟨-, rfl⟩ := kept.only (resolved.keyed.of_sameKey same.symm) held there keyed'
    rw [made]
    exact ⟨rfl, rfl, rfl, rfl, rfl⟩
  · rw [← named] at revised
    exact revised.settled resolved accepted

/-- Applying upserts, if the creation does that it may call for. -/
theorem ends_apply_applied (stored : w.store.backing = .memory t) (own : call.kind = some kind)
    (kept : KindKept Spec Status kind t)
    (creates : ∀ w' state, Leads w t w' → Resolved input state →
      Ends (create call state) w' (fun r w'' => ∃ t', Applied kind t input r w'' t')
        fun _ _ => True) :
    Ends (Standard.apply kind create (fun call => (Standard.update kind).write call) call input) w
      (fun r w' => ∃ t', Applied kind t input r w' t') fun _ _ => True := by
  refine ends_apply stored own (fun w' state leads resolved _ => creates w' state leads resolved)
    (fun w' state old leads resolved same held => ?_) fun _ _ _ => trivial
  refine Ends.imp (saves_update leads.stored own) ?_ fun _ _ _ => trivial
  rintro r w'' ⟨⟨old', revised⟩, leads', accepted⟩
  exact ⟨_, revised.applied resolved accepted kept same held leads'.stored⟩

end First

/-! ## The second time -/

section Second

variable {Item Spec Status : Type} [Managed Spec Status] {kind : Kind} {call : Call}
  {w : World Item} {t : Table} {input r : Resource Spec Status}
  (create : Call → Resource Spec Status → Op Item (Resource Spec Status))

/-- What applying the input a second time leaves: the same resource with a later moment of
change. -/
theorem ends_apply_again (stored : w.store.backing = .memory t) (own : call.kind = some kind)
    (kept : KindKept Spec Status kind t) (keyed : Keyed input r) (held : Holds kind t r.id r)
    (settled : Settled kind input r) :
    Ends (Standard.apply kind create (fun call => (Standard.update kind).write call) call input) w
      (fun r' w' => ∃ before moment, r.metadata.updatedAt = some before ∧ before < moment ∧
        r' = touched r moment ∧ w'.store.backing = .memory (stow kind t (touched r moment)))
      fun _ _ => True := by
  refine ends_apply stored own (fun w' state leads resolved free => ?_)
    (fun w' state old leads resolved same there => ?_) fun _ _ _ => trivial
  · exact absurd (keyed.sameKey resolved.keyed) (free r.id r held)
  obtain ⟨id, there⟩ := there
  obtain ⟨rfl, rfl⟩ := kept.only keyed held there (resolved.keyed.of_sameKey same.symm)
  refine Ends.imp (saves_update leads.stored own) ?_ fun _ _ _ => trivial
  rintro r' w'' ⟨⟨old', revised⟩, leads', -⟩
  obtain rfl := revised.eq_of_held kept (resolvedSlug_eq_ok resolved.keyed.slug).1 same held
  obtain ⟨created, before, -, changed, -⟩ := (kept.of_holds held).2.moments
  obtain ⟨now, moment, next, made⟩ := revised.made
  obtain ⟨slug, -, rfl⟩ := resolved
  have again : r' = touched old' moment := made.trans (settled.updated moment)
  rw [changed] at next
  exact ⟨before, moment, changed, Timestamp.lt_of_next? next, again, again ▸ leads'.stored⟩

/-- The second time goes through, if the store does not fail and there is a later moment. -/
theorem goes_apply_again (faultless : w.store.faults = {}) (stored : w.store.backing = .memory t)
    (own : call.kind = some kind) (kept : KindKept Spec Status kind t) (keyed : Keyed input r)
    (held : Holds kind t r.id r) (settled : Settled kind input r)
    (timely : Timely r.metadata.updatedAt) :
    Goes call
      (Standard.apply kind create (fun call => (Standard.update kind).write call) call input)
      w := by
  refine goes_apply faultless stored own kept settled.valid keyed.slug
    (fun w' state leads resolved free => ?_) fun w' state old leads resolved same there => ?_
  · exact absurd (keyed.sameKey resolved.keyed) (free r.id r held)
  obtain ⟨id, there⟩ := there
  obtain ⟨rfl, rfl⟩ := kept.only keyed held there (resolved.keyed.of_sameKey same.symm)
  have slug : Catalog.resolvedSlug (state.withId old.id).metadata = .ok state.metadata.slug :=
    if_pos (resolvedSlug_eq_ok resolved.keyed.slug).1
  exact goes_update (leads.faultless faultless) leads.stored own kept
    ((resolved.valid_iff old.id).2 settled.valid) slug
    (.inl ⟨ne_empty_of_checkKey settled.accepted, held⟩) settled.accepted timely

end Second

/-! ## Applying to the daemon -/

/-- What applying an input again does, after it was applied with the answer `r`. -/
structure Repeats {Spec Status : Type} [Managed Spec Status] (kind : Kind)
    (apply : Call → Resource Spec Status → Op WorkflowExecution (Resource Spec Status))
    (w : DaemonWorld) (input r : Resource Spec Status) : Prop where
  /-- If it succeeds, the answer is the same but for a later moment of change, and nothing else is
  different in the table. -/
  touches : ∀ (c : Conditions) r' w',
    (apply (c.served kind) input).outcome (c.meet w) = (.ok r', w') →
    ∃ t before moment, w.store.backing = .memory t ∧ r.metadata.updatedAt = some before ∧
      before < moment ∧ r' = touched r moment ∧ w'.store.backing = .memory (stow kind t r')
  /-- It succeeds, if the store was not told to fail, nothing is in store for its call, and time has
  not come to the last moment that can be represented. -/
  succeeds : ∀ c : Conditions, c.faults = {} →
    (∀ before, r.metadata.updatedAt = some before → before.afterMicrosecond? ≠ none) →
    c.timeline.Undisturbed (c.served kind) →
    ∃ r' w', (apply (c.served kind) input).outcome (c.meet w) = (.ok r', w')
  /-- Otherwise it can only be broken off with its call. -/
  halts : ∀ (c : Conditions) stop w', c.faults = {} →
    (∀ before, r.metadata.updatedAt = some before → before.afterMicrosecond? ≠ none) →
    (apply (c.served kind) input).outcome (c.meet w) = (.error stop, w') →
    stop = .failed .cancelled ∨ stop = .failed .deadlineExceeded

/-- Applying an input in a world upserts it, and repeating this changes a moment only. -/
structure Upserts {Spec Status : Type} [Managed Spec Status] (kind : Kind)
    (apply : Call → Resource Spec Status → Op WorkflowExecution (Resource Spec Status))
    (w : DaemonWorld) (input : Resource Spec Status) : Prop where
  upserted : ∀ (c : Conditions) r w',
    (apply (c.served kind) input).outcome (c.meet w) = (.ok r, w') →
    ∃ t t', w.store.backing = .memory t ∧ w'.store.backing = .memory t' ∧
      Upserted kind t t' input r
  repeats : ∀ (c : Conditions) r w',
    (apply (c.served kind) input).outcome (c.meet w) = (.ok r, w') →
    Repeats kind apply w' input r

section Daemon

variable {Spec Status : Type} [Managed Spec Status] {kind : Kind} {w : DaemonWorld} {t : Table}
  {input : Resource Spec Status}
  {create : Call → Resource Spec Status → Op WorkflowExecution (Resource Spec Status)}

theorem Repeats.of_applied {r : Resource Spec Status} (stored : w.store.backing = .memory t)
    (kept : KindKept Spec Status kind t) (keyed : Keyed input r) (held : Holds kind t r.id r)
    (settled : Settled kind input r) :
    Repeats kind (Standard.apply kind create fun call => (Standard.update kind).write call) w input
      r := by
  have goes (c : Conditions) (faultless : c.faults = {})
      (room : ∀ before, r.metadata.updatedAt = some before → before.afterMicrosecond? ≠ none) :=
    goes_apply_again create (w := c.meet w) faultless stored (c.kind_served kind) kept keyed held
      settled (Timestamp.exists_next? room)
  have ends (c : Conditions) :=
    ends_apply_again create (w := c.meet w) stored (c.kind_served kind) kept keyed held settled
  constructor
  · intro c r' w' done
    have again := (ends c).of_outcome_ok (a := r') (by rw [done])
    rw [done] at again
    obtain ⟨before, moment, changed, later, rfl, stored'⟩ := again
    exact ⟨t, before, moment, stored, changed, later, rfl, stored'⟩
  · intro c faultless room still
    obtain ⟨r', w', done, -⟩ := (goes c faultless room).outcome (ends c) still
    exact ⟨r', w', done⟩
  · intro c stop w' faultless room halted
    exact ((goes c faultless room).of_outcome_error (congrArg Prod.fst halted)).halt

theorem Upserts.of_applied (stored : w.store.backing = .memory t)
    (applied : ∀ c : Conditions,
      Ends (Standard.apply kind create (fun call => (Standard.update kind).write call)
          (c.served kind) input) (c.meet w)
        (fun r w' => ∃ t', Applied kind t input r w' t') fun _ _ => True) :
    Upserts kind (Standard.apply kind create fun call => (Standard.update kind).write call) w
      input := by
  have leaves (c : Conditions) (r w')
      (done : (Standard.apply kind create (fun call => (Standard.update kind).write call)
        (c.served kind) input).outcome (c.meet w) = (.ok r, w')) :
      ∃ t', Applied kind t input r w' t' := by
    have applied := (applied c).of_outcome_ok (a := r) (by rw [done])
    rwa [done] at applied
  constructor
  · intro c r w' done
    obtain ⟨t', applied⟩ := leaves c r w' done
    exact ⟨t, t', stored, applied.stored, applied.upserted⟩
  · intro c r w' done
    obtain ⟨t', applied⟩ := leaves c r w' done
    exact .of_applied applied.stored applied.kept applied.upserted.keyed applied.upserted.held
      applied.settled

end Daemon

/-- In every store that is reached, applying an agent or an agent instance upserts it, and doing
this again changes only when it was last changed. -/
theorem upserts_reached (config : Config) (timeline : Timeline) (clock : Supply Timestamp)
    (ids : Supply String) (turns : List Turn) :
    (∀ input : Agent, Upserts .agent (Daemon.agents config).controller.apply
      (reached config timeline clock ids turns) input) ∧
    ∀ input : AgentInstance, Upserts .agentInstance (Daemon.instances config).controller.apply
      (reached config timeline clock ids turns) input := by
  have tended := tended_reached config timeline clock ids turns
  obtain ⟨t, stored, kept⟩ := tended.kept
  constructor
  · intro input
    refine Upserts.of_applied stored fun c => ?_
    refine ends_apply_applied stored rfl kept.agents fun w' state leads resolved => ?_
    have met : Declared (c.meet (reached config timeline clock ids turns)).interceptor :=
      tended.declared
    have declared : Declared w'.interceptor := met.of_leads leads
    refine (ends_createAgent config leads.stored declared rfl state).imp ?_ fun _ _ _ => trivial
    rintro _ w'' ⟨agent, made, created, rfl, leads', accepted⟩
    exact ⟨_, created.template.applied resolved accepted _ leads'.stored
      (kept.of_recorded created).agents⟩
  · intro input
    refine Upserts.of_applied stored fun c => ?_
    refine ends_apply_applied stored rfl kept.instances fun w' state leads resolved => ?_
    refine Ends.imp (saves_create leads.stored rfl) ?_ fun _ _ _ => trivial
    rintro r w'' ⟨created, leads', accepted⟩
    have kept' := created.change.kept kept.instances
    exact ⟨_, created.applied resolved accepted () leads'.stored kept'⟩

/-- An agent instance that is applied to an empty store. -/
def firstInstance : AgentInstance where
  metadata := { name := "First" }
  spec := { agentId := "agt-1" }
  status := ()

/-- A daemon that nobody has asked anything. -/
def freshDaemon : DaemonWorld :=
  reached {} {} Conditions.free.clock ⟨fun _ => "0", 0⟩ []

/-- What comes of applying it to a world. -/
def firstApplied (w : DaemonWorld) : Except Stop AgentInstance × DaemonWorld :=
  ((Daemon.instances {}).controller.apply (Conditions.free.served .agentInstance)
    firstInstance).outcome (Conditions.free.meet w)

/-- Applied twice in the same moment, it is recorded as changed later the second time. -/
theorem upserts_reached_twice : ∃ r w' r' w'' moment,
    firstApplied freshDaemon = (.ok r, w') ∧ firstApplied w' = (.ok r', w'') ∧
    r.metadata.updatedAt = some .epoch ∧ r' = touched r moment ∧ Timestamp.epoch < moment := by
  have first : (firstApplied freshDaemon).1.toOption.bind (·.metadata.updatedAt) = some .epoch := by
    decide +kernel
  cases done : firstApplied freshDaemon with
  | mk answer w' =>
    rw [done] at first
    cases answer with
    | error stop => cases first
    | ok r =>
      have changed : r.metadata.updatedAt = some .epoch := first
      have repeats := ((upserts_reached {} {} Conditions.free.clock ⟨fun _ => "0", 0⟩ []).2
        firstInstance).repeats Conditions.free r w' done
      obtain ⟨r', w'', again⟩ := repeats.succeeds Conditions.free rfl
        (fun before same => by
          obtain rfl : Timestamp.epoch = before := Option.some.inj (changed.symm.trans same)
          decide)
        ⟨rfl, nofun, nofun, nofun⟩
      obtain ⟨t, before, moment, -, same, later, touches, -⟩ := repeats.touches _ _ _ again
      obtain rfl : Timestamp.epoch = before := Option.some.inj (changed.symm.trans same)
      exact ⟨r, w', r', w'', moment, rfl, again, changed, touches, later⟩

end Steward
