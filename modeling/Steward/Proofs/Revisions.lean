import Steward.Proofs.Finality
import Steward.Proofs.Upserts

/-!
# Revisions of what is stored

Updating, applying where the natural key is taken, and changing a status all put a later version of
a stored resource in its place. Whatever the clock says, the version was changed later than the one
before; it is the same resource, and no other one is touched. Main statements: `revises_answer`,
`TableContinued.of_advances` and `revisions_reached`.
-/

namespace Steward

open Store Daemon

/-! ## Later versions -/

/-- The part of a specification and its status that no update changes. -/
class Permanent (Spec Status : Type) [Managed Spec Status] where
  Part : Type
  part : Spec → Status → Part
  part_merge : ∀ (stored requested : Spec) (status : Status),
    part (Managed.merge Status stored requested) status = part stored status

/-- The system writes the status of an agent when it is created. -/
instance : Permanent AgentSpec AgentStatus where
  Part := AgentStatus
  part _ status := status
  part_merge _ _ _ := rfl

/-- An instance belongs to one agent. -/
instance : Permanent AgentInstanceSpec Unit where
  Part := String
  part spec _ := spec.agentId
  part_merge _ _ _ := rfl

/-- An execution is one of one workflow instance; its status changes. -/
instance : Permanent ExecutionSpec ExecutionStatus where
  Part := String
  part spec _ := spec.workflowInstanceId
  part_merge _ _ _ := rfl

section Versions

variable {Spec Status : Type} [Managed Spec Status] [Permanent Spec Status] {kind : Kind}
  {t t' t'' : Table}

/-- One resource is a version of another: it has the same identity, and what is permanent of it is
the same. -/
structure Continues (old r : Resource Spec Status) : Prop where
  id : r.id = old.id
  slug : r.metadata.slug = old.metadata.slug
  scope : r.metadata.scope = old.metadata.scope
  createdAt : r.metadata.createdAt = old.metadata.createdAt
  apiVersion : r.apiVersion = old.apiVersion
  kindName : r.kindName = old.kindName
  part : Permanent.part r.spec r.status = Permanent.part old.spec old.status

/-- One resource was changed later than another. -/
def ChangedLater (old r : Resource Spec Status) : Prop :=
  ∃ before moment, old.metadata.updatedAt = some before ∧ r.metadata.updatedAt = some moment ∧
    before < moment

theorem Continues.refl (r : Resource Spec Status) : Continues r r :=
  ⟨rfl, rfl, rfl, rfl, rfl, rfl, rfl⟩

theorem Continues.trans {old r r' : Resource Spec Status} (first : Continues old r)
    (second : Continues r r') : Continues old r' where
  id := second.id.trans first.id
  slug := second.slug.trans first.slug
  scope := second.scope.trans first.scope
  createdAt := second.createdAt.trans first.createdAt
  apiVersion := second.apiVersion.trans first.apiVersion
  kindName := second.kindName.trans first.kindName
  part := second.part.trans first.part

theorem continues_updated (old input : Resource Spec Status) (moment : Timestamp) :
    Continues old (updated old input moment) :=
  ⟨rfl, rfl, rfl, rfl, rfl, rfl, Permanent.part_merge old.spec input.spec old.status⟩

omit [Permanent Spec Status] in
/-- The moment recorded for a change is later than the one before, whatever the clock says. -/
theorem Sound.changedLater {old r : Resource Spec Status} (sound : Sound kind old)
    {now moment : Timestamp} (next : Timestamp.next? old.metadata.updatedAt now = some moment)
    (recorded : r.metadata.updatedAt = some moment) : ChangedLater old r := by
  obtain ⟨created, before, -, changed, -⟩ := sound.moments
  rw [changed] at next
  exact ⟨before, moment, changed, recorded, Timestamp.lt_of_next? next⟩

/-- A resource takes the place of the version before it, and nothing else is different. -/
structure Advances (kind : Kind) (t t' : Table) (old r : Resource Spec Status) : Prop where
  before : Holds kind t r.id old
  after : Holds kind t' r.id r
  continues : Continues old r
  later : ChangedLater old r
  apart : ∀ key, key ≠ ⟨kind.name, r.id⟩ → t'.get? key = t.get? key

/-- All that was stored of the kind still is, in the same version or in a later one. -/
def Continued (Spec Status : Type) [Managed Spec Status] [Permanent Spec Status] (kind : Kind)
    (t t' : Table) : Prop :=
  ∀ id (old : Resource Spec Status), Holds kind t id old →
    ∃ r, Holds kind t' id r ∧ Continues old r ∧ (r = old ∨ ChangedLater old r)

theorem Continued.of_eq (same : ∀ id, t'.get? ⟨kind.name, id⟩ = t.get? ⟨kind.name, id⟩) :
    Continued Spec Status kind t t' := by
  rintro id old ⟨bytes, found, read⟩
  exact ⟨old, ⟨bytes, (same id).trans found, read⟩, .refl old, .inl rfl⟩

theorem Continued.refl : Continued Spec Status kind t t :=
  .of_eq fun _ => rfl

theorem Continued.trans (first : Continued Spec Status kind t t')
    (second : Continued Spec Status kind t' t'') : Continued Spec Status kind t t'' := by
  intro id old held
  obtain ⟨r, held', continues, since⟩ := first id old held
  obtain ⟨r', held'', continues', since'⟩ := second id r held'
  refine ⟨r', held'', continues.trans continues', ?_⟩
  rcases since with rfl | ⟨before, moment, changed, changed', later⟩
  · exact since'
  rcases since' with rfl | ⟨before', moment', changed'', changed''', later'⟩
  · exact .inr ⟨before, moment, changed, changed', later⟩
  · obtain rfl : moment = before' := Option.some.inj (changed'.symm.trans changed'')
    exact .inr ⟨before, moment', changed, changed''',
      Timestamp.lt_of_le_of_lt (Timestamp.le_of_lt later) later'⟩

/-- If one resource advances, all that is stored of its kind continues. -/
theorem Advances.continued {old r : Resource Spec Status} (advances : Advances kind t t' old r) :
    Continued Spec Status kind t t' := by
  intro id old' held
  by_cases same : id = r.id
  · subst same
    obtain rfl := held.unique advances.before
    exact ⟨r, advances.after, advances.continues, .inr advances.later⟩
  · obtain ⟨bytes, found, read⟩ := held
    have other : (⟨kind.name, id⟩ : Key) ≠ ⟨kind.name, r.id⟩ := by simpa using same
    exact ⟨old', ⟨bytes, (advances.apart _ other).trans found, read⟩, .refl old', .inl rfl⟩

/-- So does all that is stored of another kind. -/
theorem Advances.continued_other {Spec' Status' : Type} [Managed Spec' Status']
    [Permanent Spec' Status'] {kind' : Kind} {old r : Resource Spec Status}
    (advances : Advances kind t t' old r) (other : kind'.name ≠ kind.name) :
    Continued Spec' Status' kind' t t' :=
  .of_eq fun _ => advances.apart _ fun same => other (congrArg Key.kind same)

variable [LawfulManaged Spec Status]

/-- A next version of a stored resource advances it, if it continues it and was changed later. -/
theorem NextVersion.advances {old r : Resource Spec Status}
    (kept : KindKept Spec Status kind t) (next : NextVersion kind t old r)
    (continues : Continues old r) {now moment : Timestamp}
    (timed : Timestamp.next? old.metadata.updatedAt now = some moment)
    (recorded : r.metadata.updatedAt = some moment) : Advances kind t (stow kind t r) old r := by
  obtain ⟨id, held⟩ := next.held
  obtain ⟨rfl, sound⟩ := kept.of_holds held
  refine ⟨next.named ▸ held, (holds_put (next.sound sound)).2 (.inl ⟨rfl, rfl⟩), continues,
    sound.changedLater timed recorded, fun key other => Table.get?_put_of_ne other⟩

theorem Revised.advances {input old r : Resource Spec Status}
    (kept : KindKept Spec Status kind t) (revised : Revised kind t input old r) :
    Advances kind t (stow kind t r) old r := by
  obtain ⟨now, moment, timed, made⟩ := revised.made
  refine revised.nextVersion.advances kept ?_ timed ?_
  · rw [made]
    exact continues_updated old input moment
  · rw [made]
    rfl

end Versions

theorem Moved.advances {t : Table} {input old r : WorkflowExecution}
    (kept : KindKept ExecutionSpec ExecutionStatus .workflowExecution t)
    (moved : Moved t input old r) :
    Advances .workflowExecution t (stow .workflowExecution t r) old r := by
  obtain ⟨now, moment, timed, made⟩ := moved.made
  refine moved.nextVersion.advances kept ?_ timed ?_
  · rw [made]
    exact ⟨rfl, rfl, rfl, rfl, rfl, rfl, rfl⟩
  · rw [made]

/-! ## Operations -/

section Operations

variable {Spec Status : Type} [Managed Spec Status] {kind : Kind} {t : Table} {w : DaemonWorld}
  {call : Call}

/-- The message asks for a change of a stored resource: for its update, or for applying a resource
with its natural key. -/
inductive Message.Revises (kind : Kind) (t : Table) : Message (Resource Spec Status) → Prop where
  | update (input : Resource Spec Status) : Revises kind t (.update input)
  | apply {input old : Resource Spec Status} {id : String} (held : Holds kind t id old)
      (keyed : Keyed input old) : Revises kind t (.apply input)

/-- The message asks only for what is stored. -/
inductive Message.Reads : Message (Resource Spec Status) → Prop where
  | get (id : String) : Reads (.get id)
  | getByReference (reference : Reference) : Reads (.getByReference reference)

variable [Permanent Spec Status]

/-- The operation ends with a resource that takes the place of the version before it, or it stops
and the table is as before. -/
def Advancing (op : Op WorkflowExecution (Resource Spec Status)) (w : DaemonWorld) (kind : Kind)
    (t : Table) : Prop :=
  Ends op w
    (fun r w' => ∃ t', (∃ old, Advances kind t t' old r) ∧ LeadsAside w t' w')
    fun _ w' => LeadsAside w t w'

variable [LawfulManaged Spec Status]

theorem advancing_update (stored : w.store.backing = .memory t) (own : call.kind = some kind)
    (kept : KindKept Spec Status kind t) (input : Resource Spec Status) :
    Advancing ((Standard.update kind).write call input) w kind t :=
  Ends.imp (saves_update stored own)
    (fun _ _ ⟨⟨old, revised⟩, leads, _⟩ => ⟨_, ⟨old, revised.advances kept⟩, leads.aside⟩)
    fun _ _ leads => leads.aside

/-- Applying a resource with a natural key that is taken advances the resource that has it. -/
theorem advancing_apply
    {create : Call → Resource Spec Status → Op WorkflowExecution (Resource Spec Status)}
    (stored : w.store.backing = .memory t) (own : call.kind = some kind)
    (kept : KindKept Spec Status kind t) {input old : Resource Spec Status} {id : String}
    (held : Holds kind t id old) (keyed : Keyed input old) :
    Advancing (Standard.apply kind create (fun call => (Standard.update kind).write call) call
      input) w kind t := by
  refine ends_apply stored own (fun w' state leads resolved free => ?_)
    (fun w' state old' leads resolved same held' => ?_) fun _ _ leads => leads.aside
  · exact absurd (keyed.sameKey resolved.keyed) (free id old held)
  · exact Ends.imp (advancing_update leads.stored own kept _)
      (fun _ _ ⟨t', advances, aside⟩ => ⟨t', advances, aside.after leads⟩)
      fun _ _ aside => aside.after leads

end Operations

section Executions

open Executions

variable {t : Table} {w : DaemonWorld} {call : Call}

theorem advancing_announced {op : Op WorkflowExecution WorkflowExecution}
    {Made : WorkflowExecution → Prop} (announces : Announces op w t Made)
    (advances : ∀ r, Made r → ∃ old, Advances kind t (stow kind t r) old r) :
    Advancing op w kind t :=
  Ends.imp announces (fun r _ ⟨made, leads, _⟩ => ⟨_, advances r made, _, leads⟩)
    fun _ _ leads => leads.aside

theorem advancing_updateStatus (stored : w.store.backing = .memory t)
    (own : call.kind = some kind) (kept : KindKept ExecutionSpec ExecutionStatus kind t)
    (input : WorkflowExecution) : Advancing (Executions.updateStatus call input) w kind t :=
  advancing_announced (announces_updateStatus input stored own)
    fun _ ⟨old, moved⟩ => ⟨old, moved.advances kept⟩

theorem advancing_updateExecution (stored : w.store.backing = .memory t)
    (own : call.kind = some kind) (kept : KindKept ExecutionSpec ExecutionStatus kind t)
    (input : WorkflowExecution) : Advancing (update call input) w kind t :=
  advancing_announced (announces_update input stored own)
    fun _ ⟨old, revised⟩ => ⟨old, revised.advances kept⟩

end Executions

/-! ## Answers of the daemon -/

namespace Daemon

/-- What an operation answers. -/
inductive Answer where
  | agent (agent : Agent)
  | instance_ (made : AgentInstance)
  | execution (execution : WorkflowExecution)

/-- The work on an operation, with its answer. -/
def Operation.answer (config : Config) (call : Call) : Operation → Op WorkflowExecution Answer
  | agents message => return .agent (← (Daemon.agents config).controller.handle call message)
  | instances message =>
    return .instance_ (← (Daemon.instances config).controller.handle call message)
  | executions message =>
    return .execution (← (Daemon.executions config).controller.handle call message)
  | status execution => return .execution (← Daemon.updateStatus call execution)

/-- The outcome of a turn, with its answer. -/
def Turn.answered (config : Config) (w : DaemonWorld) (turn : Turn) :
    Except Stop Answer × DaemonWorld :=
  Op.outcome (turn.operation.answer config (turn.call.withKind turn.operation.kind)) (turn.meet w)

theorem Turn.take_eq (config : Config) (w : DaemonWorld) (turn : Turn) :
    turn.take config w = (turn.answered config w).2 := by
  unfold Turn.take Turn.outcome Turn.answered Operation.work Operation.answer
  cases turn.operation <;> simp only [outcome_answer]

/-- The answer takes the place of the version before it, and nothing else is different. -/
def Answer.Advances (t t' : Table) : Answer → Prop
  | agent r => ∃ old, Steward.Advances .agent t t' old r
  | instance_ r => ∃ old, Steward.Advances .agentInstance t t' old r
  | execution r => ∃ old, Steward.Advances .workflowExecution t t' old r

/-- The operation asks for a change of a stored resource: for an update, for applying a resource
with the natural key of a stored one, or for another status. -/
def Operation.Revises (t : Table) : Operation → Prop
  | agents message => message.Revises .agent t
  | instances message => message.Revises .agentInstance t
  | executions message => message.Revises .workflowExecution t
  | status _ => True

/-- The operation asks only for what is stored. -/
def Operation.Reads : Operation → Prop
  | agents message => message.Reads
  | instances message => message.Reads
  | executions message => message.Reads
  | status _ => False

end Daemon

section Answers

variable (config : Config) {t : Table} {w : DaemonWorld} {call : Call}

/-- What an operation answers that changes a stored resource is a later version of it, in its
place. -/
theorem revises_answer {operation : Operation} (stored : w.store.backing = .memory t)
    (kept : TableKept t) (own : call.kind = some operation.kind)
    (revises : operation.Revises t) :
    Ends (operation.answer config call) w
      (fun answer w' => ∃ t', answer.Advances t t' ∧ LeadsAside w t' w')
      fun _ w' => LeadsAside w t w' := by
  cases operation with
  | agents message =>
    refine ends_bind.2 ?_
    cases revises with
    | update input => exact advancing_update stored own kept.agents input
    | apply held keyed => exact advancing_apply stored own kept.agents held keyed
  | instances message =>
    refine ends_bind.2 ?_
    cases revises with
    | update input => exact advancing_update stored own kept.instances input
    | apply held keyed => exact advancing_apply stored own kept.instances held keyed
  | executions message =>
    refine ends_bind.2 ?_
    cases revises with
    | update input => exact advancing_updateExecution stored own kept.executions input
    | apply held keyed => exact (Leads.refl stored).aside
  | status execution =>
    exact ends_bind.2 (advancing_updateStatus stored own kept.executions execution)

theorem ends_answer_of_reads {R : Type} {op : Op WorkflowExecution R} {answer : R → Answer}
    {Q : R → Prop} (reads : Reads op w t Q) :
    Ends (do return answer (← op)) w (fun _ w' => Leads w t w') fun _ w' => Leads w t w' :=
  ends_bind.2 (reads.ends (fun _ _ leads _ => leads) fun _ _ leads => leads)

/-- What only reads leaves the table as it is. -/
theorem reads_answer {operation : Operation} (stored : w.store.backing = .memory t)
    (own : call.kind = some operation.kind) (reads : operation.Reads) :
    Ends (operation.answer config call) w (fun _ w' => Leads w t w') fun _ w' => Leads w t w' := by
  cases operation with
  | agents message =>
    cases reads with
    | get id => exact ends_answer_of_reads (reads_get stored own)
    | getByReference reference => exact ends_answer_of_reads (reads_getByReference stored own)
  | instances message =>
    cases reads with
    | get id => exact ends_answer_of_reads (reads_get stored own)
    | getByReference reference => exact ends_answer_of_reads (reads_getByReference stored own)
  | executions message =>
    cases reads with
    | get id => exact ends_answer_of_reads (reads_get stored own)
    | getByReference reference => exact ends_answer_of_reads (.fail (Q := fun _ => True) stored _)
  | status execution => exact reads.elim

end Answers

/-! ## Runs -/

/-- All that was stored of the daemon's kinds still is, in the same version or in a later one. -/
structure TableContinued (t t' : Table) : Prop where
  agents : Continued AgentSpec AgentStatus .agent t t'
  instances : Continued AgentInstanceSpec Unit .agentInstance t t'
  executions : Continued ExecutionSpec ExecutionStatus .workflowExecution t t'

theorem TableContinued.refl (t : Table) : TableContinued t t :=
  ⟨.refl, .refl, .refl⟩

theorem TableContinued.trans {t t' t'' : Table} (first : TableContinued t t')
    (second : TableContinued t' t'') : TableContinued t t'' :=
  ⟨first.agents.trans second.agents, first.instances.trans second.instances,
    first.executions.trans second.executions⟩

theorem TableContinued.of_advances {t t' : Table} {answer : Answer}
    (advances : answer.Advances t t') : TableContinued t t' := by
  cases answer with
  | agent r =>
    obtain ⟨old, advances⟩ := advances
    exact ⟨advances.continued, advances.continued_other (by decide),
      advances.continued_other (by decide)⟩
  | instance_ r =>
    obtain ⟨old, advances⟩ := advances
    exact ⟨advances.continued_other (by decide), advances.continued,
      advances.continued_other (by decide)⟩
  | execution r =>
    obtain ⟨old, advances⟩ := advances
    exact ⟨advances.continued_other (by decide), advances.continued_other (by decide),
      advances.continued⟩

section Runs

variable (config : Config) {w : DaemonWorld} {t : Table}

/-- What a turn leaves that changes a stored resource. -/
theorem answered_revises (tended : Tended w) (stored : w.store.backing = .memory t) {turn : Turn}
    (revises : turn.operation.Revises t) :
    (∃ answer w', turn.answered config w = (.ok answer, w') ∧
      ∃ t', w'.store.backing = .memory t' ∧ answer.Advances t t') ∨
    ∃ stop w', turn.answered config w = (.error stop, w') ∧ w'.store.backing = .memory t := by
  have kept := tended.kept_of stored
  have met : (turn.meet w).store.backing = .memory t := stored
  have own : (turn.call.withKind turn.operation.kind).kind = some turn.operation.kind := rfl
  obtain ⟨answer, w', outcome, t', advances, broker, leads⟩ | ⟨stop, w', outcome, broker, leads⟩ :=
    Ends.outcome_cases (revises_answer config met kept own revises)
  · exact .inl ⟨answer, w', outcome, t', leads.stored, advances⟩
  · exact .inr ⟨stop, w', outcome, leads.stored⟩

theorem stored_of_reads (stored : w.store.backing = .memory t) {turn : Turn}
    (reads : turn.operation.Reads) : (turn.take config w).store.backing = .memory t := by
  have met : (turn.meet w).store.backing = .memory t := stored
  have own : (turn.call.withKind turn.operation.kind).kind = some turn.operation.kind := rfl
  rw [turn.take_eq]
  obtain ⟨answer, w', outcome, leads⟩ | ⟨stop, w', outcome, leads⟩ :=
    Ends.outcome_cases (reads_answer config met own reads)
  all_goals
    rw [Turn.answered, outcome]
    exact leads.stored

/-- One turn continues all that is stored. -/
theorem continued_take (tended : Tended w) (stored : w.store.backing = .memory t) {turn : Turn}
    (asks : turn.operation.Revises t ∨ turn.operation.Reads) :
    ∃ t', (turn.take config w).store.backing = .memory t' ∧ TableContinued t t' := by
  rcases asks with revises | reads
  · rw [turn.take_eq]
    obtain ⟨answer, w', outcome, t', stored', advances⟩ | ⟨stop, w', outcome, stored'⟩ :=
      answered_revises config tended stored revises
    · rw [outcome]
      exact ⟨t', stored', .of_advances advances⟩
    · rw [outcome]
      exact ⟨t, stored', .refl t⟩
  · exact ⟨t, stored_of_reads config stored reads, .refl t⟩

/-- So do turns one after another. -/
theorem continued_run (tended : Tended w) (stored : w.store.backing = .memory t)
    {later : List Turn}
    (asks : ∀ earlier turn rest t, later = earlier ++ turn :: rest →
      (run config w earlier).store.backing = .memory t →
      turn.operation.Revises t ∨ turn.operation.Reads) :
    ∃ t', (run config w later).store.backing = .memory t' ∧ TableContinued t t' := by
  induction later generalizing w t with
  | nil => exact ⟨t, stored, .refl t⟩
  | cons turn later ih =>
    obtain ⟨t₁, stored₁, first⟩ :=
      continued_take config tended stored (asks [] turn later t rfl stored)
    obtain ⟨t₂, stored₂, rest⟩ := ih (tended_take config tended turn) stored₁
      fun earlier turn' rest t' split => asks (turn :: earlier) turn' rest t' (by rw [split]; rfl)
    exact ⟨t₂, stored₂, first.trans rest⟩

/-- What turns from a world on do to what is stored. -/
structure Revisions (config : Config) (w : DaemonWorld) (later : List Turn) : Prop where
  /-- What a change of a stored resource answers takes the place of the version before it: it was
  changed later, has the same identity, and no other value is touched. -/
  advances : ∀ earlier turn rest answer t, later = earlier ++ turn :: rest →
    (run config w earlier).store.backing = .memory t → turn.operation.Revises t →
    (turn.answered config (run config w earlier)).1 = .ok answer →
    ∃ t', (turn.take config (run config w earlier)).store.backing = .memory t' ∧
      answer.Advances t t'
  /-- A change that is not made leaves the store as it is. -/
  idle : ∀ earlier turn rest stop t, later = earlier ++ turn :: rest →
    (run config w earlier).store.backing = .memory t → turn.operation.Revises t →
    (turn.answered config (run config w earlier)).1 = .error stop →
    (turn.take config (run config w earlier)).store.backing = .memory t
  /-- What is stored at the start is stored in the end, in the same version or in a later one. -/
  continued : ∀ t, w.store.backing = .memory t →
    ∃ t', (run config w later).store.backing = .memory t' ∧ TableContinued t t'

/-- From every store that is reached, as long as nothing is created and nothing deleted. -/
theorem revisions_reached (timeline : Timeline) (clock : Supply Timestamp) (ids : Supply String)
    (turns later : List Turn)
    (asks : ∀ earlier turn rest t, later = earlier ++ turn :: rest →
      (run config (reached config timeline clock ids turns) earlier).store.backing = .memory t →
      turn.operation.Revises t ∨ turn.operation.Reads) :
    Revisions config (reached config timeline clock ids turns) later := by
  have tended := tended_reached config timeline clock ids turns
  constructor
  · intro earlier turn rest answer t split stored revises done
    obtain ⟨answer', w', outcome, t', stored', advances⟩ | ⟨stop, w', outcome, -⟩ :=
      answered_revises config (tended_run config tended earlier) stored revises
    · rw [turn.take_eq, outcome]
      rw [outcome] at done
      obtain rfl := Except.ok.inj done
      exact ⟨t', stored', advances⟩
    · rw [outcome] at done
      cases done
  · intro earlier turn rest stop t split stored revises halted
    obtain ⟨answer, w', outcome, -⟩ | ⟨stop', w', outcome, stored'⟩ :=
      answered_revises config (tended_run config tended earlier) stored revises
    · rw [outcome] at halted
      cases halted
    · rw [turn.take_eq, outcome]
      exact stored'
  · exact fun t stored => continued_run config tended stored asks

end Runs

/-- The completion of an execution that was created at the same moment is recorded later. -/
theorem revisions_completed : ∃ (turns : List Turn) (t t' : Table) (r : WorkflowExecution),
    let w := reached {} {} stillClock sameTexts turns
    let turn := Conditions.free.turn (.status Executions.completion)
    w.store.backing = .memory t ∧ (turn.answered {} w).1 = .ok (.execution r) ∧
      Revisions {} w [turn] ∧ (turn.take {} w).store.backing = .memory t' ∧
      (Answer.execution r).Advances t t' := by
  obtain ⟨turns, t, old, r, stored, -, -, -, done, -⟩ := Executions.completes_created
  have answered : ((Conditions.free.turn (.status Executions.completion)).answered {}
      (reached {} {} stillClock sameTexts turns)).1 = .ok (.execution r) :=
    (congrArg Prod.fst (outcome_answer Answer.execution)).trans (congrArg (Except.map _) done)
  have revisions : Revisions {} (reached {} {} stillClock sameTexts turns)
      [Conditions.free.turn (.status Executions.completion)] := by
    refine revisions_reached {} {} stillClock sameTexts turns _ ?_
    intro earlier turn rest t split _
    have inside : turn ∈ [Conditions.free.turn (.status Executions.completion)] := by
      rw [split]
      simp
    obtain rfl := List.mem_singleton.1 inside
    exact .inl trivial
  obtain ⟨t', stored', advances⟩ :=
    revisions.advances [] _ [] _ t rfl stored trivial answered
  exact ⟨turns, t, t', r, stored, answered, revisions, stored', advances⟩

end Steward
