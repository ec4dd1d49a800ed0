import Steward.Proofs.GoingThrough
import Steward.Proofs.Interleavings
import Steward.Proofs.Overwrites
import Steward.Proofs.Removals

/-!
# Terminal phases are final

An execution that is completed, failed or cancelled stays so, whatever is asked of the service
afterwards: an update takes the status over from what is stored, a change of status that asks for
another phase is refused, and a creation does not get at it as long as its id is another one. Main
statements: `Operation.Alters.inPhase`, `inPhase_run` and `final_reached`.
-/

namespace Steward

open Store

namespace Executions

/-! ## What operations do to the table -/

section Alterations

variable {w : DaemonWorld} {t t' : Table} {ids : Supply String} {call : Call}

/-- What a write makes, over a table and with the texts that ids are made of. -/
inductive Write.Makes (t : Table) (ids : Supply String) : Write → WorkflowExecution → Prop where
  | create {input r : WorkflowExecution} (created : Created kind t ids input r) :
      Makes t ids (.create input) r
  | update {input old r : WorkflowExecution} (revised : Revised kind t input old r) :
      Makes t ids (.update input) r
  | status {input old r : WorkflowExecution} (moved : Moved t input old r) :
      Makes t ids (.status input) r

theorem Write.Makes.change {write : Write} {r : WorkflowExecution} (makes : write.Makes t ids r) :
    Change ExecutionSpec ExecutionStatus kind t (stow kind t r) := by
  cases makes with
  | create created => exact created.change
  | update revised => exact change_of_revised ⟨_, revised⟩
  | status moved => exact .renew _ r moved.nextVersion

theorem Write.announces (stored : w.store.backing = .memory t) (own : call.kind = some kind)
    (write : Write) : Announces (write.work call) w t (write.Makes t w.ids) := by
  cases write with
  | create input =>
    exact Ends.imp (announces_create input stored own)
      (fun r _ ⟨created, rest⟩ => ⟨.create created, rest⟩) fun _ _ leads => leads
  | update input =>
    exact Ends.imp (announces_update input stored own)
      (fun r _ ⟨⟨_, revised⟩, rest⟩ => ⟨.update revised, rest⟩) fun _ _ leads => leads
  | status input =>
    exact Ends.imp (announces_updateStatus input stored own)
      (fun r _ ⟨⟨_, moved⟩, rest⟩ => ⟨.status moved, rest⟩) fun _ _ leads => leads

/-- What an operation may make of the table, however it ends. -/
inductive Operation.Alters (t : Table) (ids : Supply String) : Operation → Table → Prop where
  | nothing (operation : Operation) : Alters t ids operation t
  | write {write : Write} {r : WorkflowExecution} (makes : write.Makes t ids r) :
      Alters t ids (.write write) (stow kind t r)
  | delete {t' : Table} (id : String) (change : Change ExecutionSpec ExecutionStatus kind t t') :
      Alters t ids (.delete id) t'

theorem Operation.Alters.change {operation : Operation} (alters : operation.Alters t ids t') :
    Change ExecutionSpec ExecutionStatus kind t t' := by
  cases alters with
  | nothing => exact .same
  | write makes => exact makes.change
  | delete id change => exact change

theorem alters_work (stored : w.store.backing = .memory t) (own : call.kind = some kind)
    (operation : Operation) :
    Ends (operation.work call) w
      (fun _ w' => ∃ t', operation.Alters t w.ids t' ∧ LeadsAside w t' w')
      fun _ w' => ∃ t', operation.Alters t w.ids t' ∧ LeadsAside w t' w' := by
  cases operation with
  | write write =>
    refine Iff.mpr ends_bind (Ends.imp (write.announces stored own) ?_
      fun _ _ leads => ⟨t, .nothing _, leads.aside⟩)
    exact fun r w' ⟨makes, leads, _⟩ => ⟨_, .write makes, _, leads⟩
  | delete id =>
    refine Iff.mpr ends_bind ((changes_delete own id w t stored).imp ?_ ?_)
    all_goals exact fun _ w' ⟨t', change, leads⟩ => ⟨t', .delete id change, leads.aside⟩
  | get id =>
    refine Iff.mpr ends_bind ((ends_getById stored own id).imp ?_ ?_)
    · exact fun _ w' ⟨_, leads⟩ => ⟨t, .nothing _, leads.aside⟩
    · exact fun _ w' leads => ⟨t, .nothing _, leads.aside⟩
  | subscribe id =>
    refine Iff.mpr ends_bind ((ends_subscribe stored own id).imp ?_ ?_)
    · exact fun _ w' ⟨_, _, _, leads⟩ => ⟨t, .nothing _, _, leads⟩
    · exact fun _ w' leads => ⟨t, .nothing _, _, leads⟩
  | unsubscribe id number => exact ⟨t, .nothing _, _, .refl stored⟩
  | receive number => exact ⟨t, .nothing _, _, .refl stored⟩
  | dismiss number => exact ⟨t, .nothing _, _, .refl stored⟩

theorem Turn.outcome_write (write : Write) (c : Daemon.Conditions) (w : DaemonWorld) :
    Turn.outcome ⟨.write write, c⟩ w =
      (((write.work (c.served kind)).outcome (c.meet w)).1.map .state,
        ((write.work (c.served kind)).outcome (c.meet w)).2) :=
  outcome_answer _

theorem take_write (write : Write) (c : Daemon.Conditions) (w : DaemonWorld) :
    Turn.take w ⟨.write write, c⟩ = ((write.work (c.served kind)).outcome (c.meet w)).2 :=
  congrArg Prod.snd (Turn.outcome_write write c w)

/-- What a turn makes of the table and of the rest of the world. -/
theorem alters_take (stored : w.store.backing = .memory t) (turn : Turn) :
    ∃ t', turn.operation.Alters t w.ids t' ∧
      LeadsAside (turn.conditions.meet w) t' (turn.take w) := by
  have ends := alters_work (w := turn.conditions.meet w) stored
    (turn.conditions.kind_served kind) turn.operation
  cases outcome : (turn.outcome w).1 with
  | ok answer => exact ends.of_outcome_ok outcome
  | error stop => exact ends.of_outcome_error outcome

theorem tended_take (tended : Tended w) (turn : Turn) : Tended (turn.take w) := by
  obtain ⟨t, stored, kept⟩ := tended.kept
  obtain ⟨t', alters, leads⟩ := alters_take stored turn
  exact (turn.conditions.tended_meet tended).of_aside leads (kept.of_executions alters.change)

theorem tended_run (tended : Tended w) (turns : List Turn) : Tended (run w turns) :=
  List.foldlRecOn turns _ tended fun _ tended turn _ => tended_take tended turn

end Alterations

/-! ## Phases -/

section Phases

variable {w : DaemonWorld} {t t' : Table} {ids : Supply String}

theorem checkPhase_eq_ok {old : WorkflowExecution} {wanted : Phase} :
    checkPhase old wanted = .ok () ↔
      (old.status.phase.isTerminal = true → wanted = old.status.phase) := by
  unfold checkPhase
  split
  · next refused => simp [refused]
  · next allowed => simpa using allowed

theorem checkPhase_eq_error {old : WorkflowExecution} {wanted : Phase}
    (terminal : old.status.phase.isTerminal = true) (other : wanted ≠ old.status.phase) :
    checkPhase old wanted = .error (.invalidArgument
      s!"execution {old.id} is already {old.status.phase.text}") :=
  if_pos ⟨terminal, other⟩

/-- Under the id there is an execution in the phase. -/
def InPhase (t : Table) (id : String) (phase : Phase) : Prop :=
  ∃ r : WorkflowExecution, Holds kind t id r ∧ r.status.phase = phase

/-- The operation takes away no stored execution: it does not delete, and what it creates does not
get the id of a stored one. -/
def Operation.Sparing (w : DaemonWorld) : Operation → Prop
  | .write (.create execution) => ∀ t, w.store.backing = .memory t →
    (execution.id ≠ "" → t.get? ⟨kind.name, execution.id⟩ = none) ∧
      (execution.id = "" → FreshIds t w.ids)
  | .delete _ => False
  | _ => True

/-- Nothing is stored under the id that a sparing creation gets. -/
theorem Created.vacant {input r : WorkflowExecution} (stored : w.store.backing = .memory t)
    (sparing : Operation.Sparing w (.write (.create input)))
    (created : Created kind t w.ids input r) : t.get? ⟨kind.name, r.id⟩ = none := by
  obtain ⟨chosen, unchosen⟩ := sparing t stored
  rcases created.named with ⟨some, named⟩ | ⟨none, n, later, named⟩
  · rw [named]
    exact chosen some
  · rw [named]
    exact unchosen none kind n later

/-- A next version takes the place of the resource that it is a version of. -/
theorem NextVersion.eq_of_held {old r s : WorkflowExecution}
    (kept : KindKept ExecutionSpec ExecutionStatus kind t) (next : NextVersion kind t old r)
    (held : Holds kind t r.id s) : s = old := by
  obtain ⟨id, held'⟩ := next.held
  rw [next.named, (kept.of_holds held').1] at held
  exact held.unique held'

/-- What is written in the place of an execution in a terminal phase is in the same phase. -/
theorem Write.Makes.phase_eq {write : Write} {old r : WorkflowExecution}
    (kept : KindKept ExecutionSpec ExecutionStatus kind t)
    (stored : w.store.backing = .memory t) (makes : write.Makes t w.ids r)
    (sparing : Operation.Sparing w (.write write)) (held : Holds kind t r.id old)
    (terminal : old.status.phase.isTerminal = true) : r.status.phase = old.status.phase := by
  cases makes with
  | create created =>
    obtain ⟨bytes, found, -⟩ := held
    rw [Created.vacant stored sparing created] at found
    cases found
  | update revised =>
    obtain rfl := NextVersion.eq_of_held kept revised.nextVersion held
    obtain ⟨now, moment, -, rfl⟩ := revised.made
    rfl
  | status moved =>
    obtain rfl := NextVersion.eq_of_held kept moved.nextVersion held
    obtain ⟨now, moment, -, rfl⟩ := moved.made
    exact checkPhase_eq_ok.1 moved.allowed terminal

/-- A sparing operation leaves an execution in its terminal phase. -/
theorem Operation.Alters.inPhase {operation : Operation} {id : String} {phase : Phase}
    (kept : KindKept ExecutionSpec ExecutionStatus kind t)
    (stored : w.store.backing = .memory t) (alters : operation.Alters t w.ids t')
    (sparing : operation.Sparing w) (terminal : phase.isTerminal = true)
    (inPhase : InPhase t id phase) : InPhase t' id phase := by
  cases alters with
  | nothing => exact inPhase
  | delete => exact sparing.elim
  | @write write r makes =>
    obtain ⟨old, held, rfl⟩ := inPhase
    obtain ⟨r', read, -, sound⟩ :=
      (makes.change.kept kept).readable r.id r.encode Table.get?_put_self
    obtain rfl : r = r' :=
      Except.ok.inj ((Resource.decode_encode r trivial).symm.trans read)
    by_cases same : id = r.id
    · subst same
      exact ⟨r, (holds_put sound).2 (.inl ⟨rfl, rfl⟩),
        makes.phase_eq kept stored sparing held terminal⟩
    · exact ⟨old, (holds_put sound).2 (.inr ⟨same, held⟩), rfl⟩

/-- So do turns one after another, each of them sparing when it comes. -/
theorem inPhase_run (tended : Tended w) {later : List Turn} {id : String} {phase : Phase}
    (sparing : ∀ earlier turn rest, later = earlier ++ turn :: rest →
      turn.operation.Sparing (run w earlier))
    (stored : w.store.backing = .memory t) (terminal : phase.isTerminal = true)
    (inPhase : InPhase t id phase) :
    ∃ t', (run w later).store.backing = .memory t' ∧ InPhase t' id phase := by
  induction later generalizing w t with
  | nil => exact ⟨t, stored, inPhase⟩
  | cons turn later ih =>
    have kept := tended.kept_of stored
    obtain ⟨t₁, alters, broker, leads⟩ := alters_take stored turn
    refine ih (tended_take tended turn) (fun earlier turn' rest split => ?_) leads.stored
      (alters.inPhase kept.executions stored (sparing [] turn later rfl) terminal inPhase)
    exact sparing (turn :: earlier) turn' rest (by rw [split]; rfl)

end Phases

/-! ## Changes of status that are refused -/

section Refusals

variable {w : DaemonWorld} {t : Table} {call : Call} {input old : WorkflowExecution}

/-- An execution in a terminal phase is not moved to another one: the table stays as it is and
nobody is told. -/
theorem ends_updateStatus_terminal (stored : w.store.backing = .memory t)
    (own : call.kind = some kind) (kept : KindKept ExecutionSpec ExecutionStatus kind t)
    (meant : Meant kind t input old) (terminal : old.status.phase.isTerminal = true)
    (other : input.status.phase ≠ old.status.phase) :
    Ends (updateStatus call input) w (fun _ _ => False) fun _ w' => Leads w t w' := by
  refine Ends.imp (announces_updateStatus input stored own) ?_ fun _ _ leads => leads
  rintro r w' ⟨⟨old', moved⟩, -⟩
  obtain rfl := kept.meant_unique moved.meant meant
  exact other (checkPhase_eq_ok.1 moved.allowed terminal)

/-- A call that outlasts the store is still alive when the stored version is loaded, and it is not
broken off if there is none. -/
theorem ends_loadExisting_alive
    {s : Session WorkflowExecution WorkflowExecution WorkflowExecution}
    (faultless : s.world.store.faults = {}) (stored : s.world.store.backing = .memory t)
    (own : s.request.call.kind = some kind) :
    Ends Catalog.loadExisting.run s
      (fun _ s' => OutlastsStore s.world s.request.call →
        s'.world.timeline.check s.request.call = .ok ())
      fun stop _ => OutlastsStore s.world s.request.call →
        ¬Halts s.request.call s.world stop := by
  by_cases lives : OutlastsStore s.world s.request.call
  swap
  · exact (looks_loadExisting stored own).imp (fun _ _ _ => (absurd · lives))
      fun _ _ _ => (absurd · lives)
  simp only [lives, true_implies]
  have listed : s.world.store.contents kind.name = .ok (t.valuesOf kind.name) := by
    rw [Store.contents, stored]
  refine ends_loadExisting (forall_kind own fun _ => ?_) (forall_kind own fun _ _ => ?_)
    (fun _ _ halts => ?_) (not_noKind own)
  · refine ends_load_served lives (by rw [faultless]) stored (fun _ _ => lives.check_served) ?_
    intro failure failed halts
    unfold held at failed
    generalize Except.bind (t.fetch ⟨kind.name, _⟩) _ = answer at failed
    cases answer with
    | ok _ => cases failed
    | error reason =>
      cases failed
      have halt := halts.halt
      cases reason <;> simp [Store.Failure.explain] at halt
  · refine (ends_loadByKey_listed lives (by rw [faultless]) listed _ _).imp
      (fun _ _ found => found.2.1) ?_
    rintro _ _ ⟨-, unfound⟩ ⟨halt, -⟩
    cases unfound <;> simp [Catalog.ambiguous] at halt
  · rcases halts.halt with same | same <;> cases same

/-- What says so is the phase, if the store does not fail. Only a call that does not outlast the
store is broken off instead. -/
theorem refuses_updateStatus (faultless : w.store.faults = {})
    (stored : w.store.backing = .memory t) (own : call.kind = some kind)
    (kept : KindKept ExecutionSpec ExecutionStatus kind t) (meant : Meant kind t input old)
    (terminal : old.status.phase.isTerminal = true)
    (other : input.status.phase ≠ old.status.phase) :
    Ends (updateStatus call input) w (fun _ _ => True) fun stop _ =>
      (Halts call w stop ∧ ¬OutlastsStore w call) ∨ stop = .failed (.invalidArgument
        s!"execution {old.id} is already {old.status.phase.text}") := by
  unfold updateStatus Pipeline.write
  rw [ends_bind, ends_execute]
  show Ends (Pipeline.runSteps statusPipeline.steps) ⟨w, { call := call, input := input }⟩ _ _
  rw [statusPipeline, ends_runSteps_cons]
  refine ⟨fun _ => ?_, fun _ failed => .inl ⟨halts_of_check failed, fun lives => ?_⟩⟩
  swap
  · cases lives.check.symm.trans failed
  have passes : Passes Catalog.loadExisting.run ⟨w, { call := call, input := input }⟩ :=
    passes_loadMeant faultless stored own kept meant
  refine ((Ends.and passes (looks_loadExisting stored own)).and
    (ends_loadExisting_alive faultless stored own)).imp ?_ ?_
  · rintro _ s₁ ⟨⟨-, leads₁, newState, old', meant', same₁⟩, alive⟩
    obtain rfl : old' = old := kept.meant_unique meant' meant
    rw [ends_runSteps_cons]
    refine ⟨fun _ => ?_, fun _ failed => .inl ?_⟩
    · have wanted : s₁.request.input.status.phase = input.status.phase := by rw [same₁]
      have filled : s₁.request.existing = some old' := by rw [same₁]
      refine ends_mergeStatus filled (fun allowed => ?_) fun failure refused => ?_
      · rw [wanted, checkPhase_eq_error terminal other] at allowed
        cases allowed
      · rw [wanted, checkPhase_eq_error terminal other] at refused
        exact .inr (congrArg Stop.failed (Except.error.inj refused).symm)
    · rw [same₁] at failed
      refine ⟨(halts_of_check failed).of_leads leads₁, fun lives => ?_⟩
      cases (alive lives).symm.trans failed
  · rintro stop _ ⟨⟨halts, -⟩, unbroken⟩
    exact .inl ⟨halts, fun lives => unbroken lives halts⟩

/-- Asked for in a turn, it changes nothing either. -/
theorem unmoved_take {c : Daemon.Conditions} (stored : w.store.backing = .memory t)
    (kept : KindKept ExecutionSpec ExecutionStatus kind t) (meant : Meant kind t input old)
    (terminal : old.status.phase.isTerminal = true)
    (other : input.status.phase ≠ old.status.phase) :
    (Turn.take w ⟨.write (.status input), c⟩).store.backing = .memory t ∧
      (Turn.take w ⟨.write (.status input), c⟩).broker = w.broker := by
  have ends := ends_updateStatus_terminal (w := c.meet w) stored (c.kind_served kind) kept meant
    terminal other
  obtain ⟨_, _, _, never⟩ | ⟨stop, w', outcome, leads⟩ := ends.outcome_cases
  · exact never.elim
  · rw [take_write, Write.work, outcome]
    exact ⟨leads.stored, leads.broker⟩

/-- The turn is refused, unless its call is broken off because it does not outlast the store. -/
theorem refused_turn {c : Daemon.Conditions} (faultless : c.faults = {})
    (stored : w.store.backing = .memory t)
    (kept : KindKept ExecutionSpec ExecutionStatus kind t) (meant : Meant kind t input old)
    (terminal : old.status.phase.isTerminal = true)
    (other : input.status.phase ≠ old.status.phase) :
    ∃ stop, (Turn.outcome ⟨.write (.status input), c⟩ w).1 = .error stop ∧
      ((Halts (c.served kind) (c.meet w) stop ∧ ¬OutlastsStore (c.meet w) (c.served kind)) ∨
        stop = .failed (.invalidArgument
          s!"execution {old.id} is already {old.status.phase.text}")) := by
  have own := c.kind_served kind
  have ends := Ends.and
    (ends_updateStatus_terminal (w := c.meet w) stored own kept meant terminal other)
    (refuses_updateStatus faultless stored own kept meant terminal other)
  obtain ⟨_, _, _, never, -⟩ | ⟨stop, w', outcome, -, refused⟩ := ends.outcome_cases
  · exact never.elim
  · rw [Turn.outcome_write, Write.work, outcome]
    exact ⟨stop, rfl, refused⟩

end Refusals

/-! ## Every store that is reached -/

/-- The turn fails because of the phase that the execution is in. -/
def Turn.Refused (turn : Turn) (w : DaemonWorld) (old : WorkflowExecution) : Prop :=
  (turn.outcome w).1 = .error (.failed (.invalidArgument
    s!"execution {old.id} is already {old.status.phase.text}"))

/-- The turn fails because its call is cancelled or has run out of time. -/
def Turn.BrokenOff (turn : Turn) (w : DaemonWorld) : Prop :=
  (turn.outcome w).1 = .error (.failed .cancelled) ∨
    (turn.outcome w).1 = .error (.failed .deadlineExceeded)

/-- Terminal phases are final from here on. -/
structure Final (w : DaemonWorld) : Prop where
  /-- As long as nothing is deleted and nothing is created under a stored id, an execution in a
  terminal phase stays in it. -/
  lasting : ∀ later t t' id (r : WorkflowExecution), w.store.backing = .memory t →
    (run w later).store.backing = .memory t' →
    (∀ earlier turn rest, later = earlier ++ turn :: rest →
      turn.operation.Sparing (run w earlier)) →
    Holds kind t id r → r.status.phase.isTerminal = true →
    ∃ r' : WorkflowExecution, Holds kind t' id r' ∧ r'.status.phase = r.status.phase
  /-- A change of its status that asks for another phase leaves the store and the queues as they
  are. If the store does not fail, it is refused or its call is broken off; and it is refused if the
  call is alive when the store has answered, which a call is for which nothing is in store. -/
  refused : ∀ (turn : Turn) t input old, turn.operation = .write (.status input) →
    w.store.backing = .memory t → Meant kind t input old →
    old.status.phase.isTerminal = true → input.status.phase ≠ old.status.phase →
    (turn.take w).store.backing = w.store.backing ∧ (turn.take w).broker = w.broker ∧
      (turn.conditions.faults = {} →
        (turn.Refused w old ∨ turn.BrokenOff w) ∧
        (OutlastsStore (turn.conditions.meet w) (turn.conditions.served kind) →
          turn.Refused w old) ∧
        (turn.conditions.timeline.Undisturbed (turn.conditions.served kind) →
          turn.Refused w old))

theorem Final.of_tended {w : DaemonWorld} (tended : Tended w) : Final w := by
  obtain ⟨t₀, stored₀, kept⟩ := tended.kept
  constructor
  · intro later t t' id r stored stored' sparing held terminal
    obtain ⟨t'', stored'', r', held', same⟩ :=
      inPhase_run tended sparing stored terminal ⟨r, held, rfl⟩
    obtain rfl : t' = t'' := Backing.memory.inj (stored'.symm.trans stored'')
    exact ⟨r', held', same⟩
  · rintro ⟨operation, conditions⟩ t input old rfl stored meant terminal other
    obtain rfl : t = t₀ := Backing.memory.inj (stored.symm.trans stored₀)
    obtain ⟨same, untold⟩ := unmoved_take (c := conditions) stored kept.executions meant terminal
      other
    refine ⟨same.trans stored.symm, untold, fun faultless => ?_⟩
    obtain ⟨stop, outcome, ⟨halts, broken⟩ | rfl⟩ :=
      refused_turn faultless stored kept.executions meant terminal other
    · refine ⟨.inr ?_, fun lives => absurd lives broken,
        fun still => absurd (outlastsStore_of_undisturbed still) broken⟩
      rcases halts.halt with rfl | rfl
      · exact .inl outcome
      · exact .inr outcome
    · exact ⟨.inl outcome, fun _ => outcome, fun _ => outcome⟩

/-- In every store that the daemon reaches, whatever its service of executions was asked since. -/
theorem final_reached (config : Config) (timeline : Timeline) (clock : Supply Timestamp)
    (ids : Supply String) (turns : List Daemon.Turn) (before : List Turn) :
    Final (run (reached config timeline clock ids turns) before) :=
  .of_tended (tended_run (tended_reached config timeline clock ids turns) before)

/-! ## An execution that is completed -/

/-- What a creation leaves of which the answer says when it was made. -/
theorem created_freely {w : DaemonWorld} {t : Table} {input : WorkflowExecution}
    {moment : Timestamp} (stored : w.store.backing = .memory t)
    (dated : ((create (Daemon.Conditions.free.served kind) input).outcome
      (Daemon.Conditions.free.meet w)).1.toOption.bind (·.metadata.updatedAt) = some moment) :
    ∃ r, Created kind t w.ids input r ∧ r.metadata.updatedAt = some moment ∧
      ((create (Daemon.Conditions.free.served kind) input).outcome
        (Daemon.Conditions.free.meet w)).2.store.backing = .memory (stow kind t r) := by
  obtain ⟨r, w', done, created, leads, -⟩ | ⟨stop, w', halted, -⟩ :=
    Ends.outcome_cases (announces_create (w := Daemon.Conditions.free.meet w) input stored
      (Daemon.Conditions.free.kind_served kind))
  · rw [done] at dated ⊢
    exact ⟨r, created, dated, leads.stored⟩
  · rw [halted] at dated
    cases dated

/-- The first thing that a daemon is asked for, and what it then has stored. -/
theorem created_first : ∃ r : WorkflowExecution,
    ((create (Daemon.Conditions.free.served kind) storedExecution).outcome
      (Daemon.Conditions.free.meet (Daemon.world {} (.memory .empty) {} stillClock
        sameTexts))).2.store.backing = .memory (stow kind .empty r) ∧
      Sound kind r ∧ r.id = "wex-1" ∧ r.status.phase = .pending ∧
      r.metadata.updatedAt = some .epoch := by
  have dated : ((create (Daemon.Conditions.free.served kind) storedExecution).outcome
      (Daemon.Conditions.free.meet (Daemon.world {} (.memory .empty) {} stillClock
        sameTexts))).1.toOption.bind (·.metadata.updatedAt) = some .epoch := by decide +kernel
  obtain ⟨r, created, dated, stored⟩ := created_freely (t := .empty) rfl dated
  refine ⟨r, stored, created.sound, ?_, ?_, dated⟩
  · rcases created.named with ⟨-, named⟩ | ⟨unchosen, -⟩
    · exact named
    · exact absurd unchosen (by decide : "wex-1" ≠ "")
  · obtain ⟨slug, id, now, -, rfl⟩ := created.made
    rfl

/-- A daemon that is asked for it creates an execution. -/
theorem reached_created : ∃ (turns : List Daemon.Turn) (r : WorkflowExecution),
    (reached {} {} stillClock sameTexts turns).store.backing = .memory (stow kind .empty r) ∧
      Sound kind r ∧ r.id = "wex-1" ∧ r.status.phase = .pending ∧
      r.metadata.updatedAt = some .epoch := by
  have left (w : DaemonWorld) (input : WorkflowExecution) :
      Daemon.Turn.take {} w (Daemon.Conditions.free.turn (.executions (.create input))) =
        ((create (Daemon.Conditions.free.served kind) input).outcome
          (Daemon.Conditions.free.meet w)).2 := congrArg Prod.snd (outcome_answer _)
  obtain ⟨r, stored, rest⟩ := created_first
  refine ⟨[Daemon.Conditions.free.turn (.executions (.create storedExecution))], r, ?_, rest⟩
  rw [reached, Daemon.run, List.foldl_cons, List.foldl_nil, left]
  exact stored

/-- A change of status that is allowed, with nothing in the way. -/
theorem moved_freely {w : DaemonWorld} {t : Table} {input old : WorkflowExecution}
    (stored : w.store.backing = .memory t) (kept : KindKept ExecutionSpec ExecutionStatus kind t)
    (meant : Meant kind t input old) (allowed : checkPhase old input.status.phase = .ok ())
    (accepted : checkKey ⟨kind.name, old.id⟩ = .ok ())
    (dated : old.metadata.updatedAt = some .epoch) :
    ∃ r, Moved t input old r ∧
      ((updateStatus (Daemon.Conditions.free.served kind) input).outcome
        (Daemon.Conditions.free.meet w)).1 = .ok r ∧
      (Daemon.Turn.take {} w (Daemon.Conditions.free.turn (.status input))).store.backing =
        .memory (stow kind t r) := by
  have timely : Timely old.metadata.updatedAt := by
    rw [dated]
    exact Timestamp.exists_next? fun before same => by
      obtain rfl := Option.some.inj same
      decide
  obtain ⟨r, w', done, moved, leads⟩ := outcome_updateStatus (w := Daemon.Conditions.free.meet w)
    rfl stored (Daemon.Conditions.free.kind_served kind) kept meant allowed accepted timely
    (Daemon.undisturbed_served kind)
  have left : Daemon.Turn.take {} w (Daemon.Conditions.free.turn (.status input)) =
      (Op.outcome (updateStatus (Daemon.Conditions.free.served kind) input)
        (Daemon.Conditions.free.meet w)).2 := congrArg Prod.snd (outcome_answer _)
  rw [left, done]
  exact ⟨r, moved, rfl, leads.stored⟩

/-- Asked for it then, the daemon completes the execution. -/
theorem completes_created : ∃ (turns : List Daemon.Turn) (t : Table) (old r : WorkflowExecution),
    let w := reached {} {} stillClock sameTexts turns
    w.store.backing = .memory t ∧ Sound kind old ∧ old.id = "wex-1" ∧ Moved t completion old r ∧
      ((updateStatus (Daemon.Conditions.free.served kind) completion).outcome
        (Daemon.Conditions.free.meet w)).1 = .ok r ∧
      (Daemon.Turn.take {} w (Daemon.Conditions.free.turn (.status completion))).store.backing =
        .memory (stow kind t r) := by
  obtain ⟨turns, old, stored, sound, named, pending, dated⟩ := reached_created
  obtain ⟨t, stored', kept⟩ := (tended_reached {} {} stillClock sameTexts turns).kept
  obtain rfl : stow kind .empty old = t := Backing.memory.inj (stored.symm.trans stored')
  have allowed : checkPhase old completion.status.phase = .ok () :=
    checkPhase_eq_ok.2 fun terminal => by rw [pending] at terminal; cases terminal
  have meant : Meant kind (stow kind .empty old) completion old :=
    .inl ⟨by decide, (holds_put sound).2 (.inl ⟨named.symm, rfl⟩)⟩
  obtain ⟨r, moved, done, stored'⟩ :=
    moved_freely stored kept.executions meant allowed (by rw [named]; decide) dated
  exact ⟨turns, _, old, r, stored, sound, named, moved, done, stored'⟩

theorem reached_completed : ∃ (turns : List Daemon.Turn) (t : Table) (old : WorkflowExecution),
    (reached {} {} stillClock sameTexts turns).store.backing = .memory t ∧
      Holds kind t "wex-1" old ∧ old.id = "wex-1" ∧ old.status.phase = .completed := by
  obtain ⟨turns, t, old, r, -, sound, named, moved, -, stored⟩ := completes_created
  have named : r.id = "wex-1" := moved.nextVersion.named.trans named
  have completed : r.status.phase = .completed := by
    obtain ⟨now, moment, -, rfl⟩ := moved.made
    rfl
  have held : Holds kind (stow kind t r) "wex-1" r :=
    (holds_put (moved.nextVersion.sound sound)).2 (.inl ⟨named.symm, rfl⟩)
  refine ⟨turns ++ [Daemon.Conditions.free.turn (.status completion)], _, r, ?_, held, named,
    completed⟩
  rw [reached, Daemon.run, List.foldl_append]
  exact stored

/-- A call with five milliseconds left, while the store takes two over everything. -/
def hurried : Daemon.Conditions :=
  { Daemon.Conditions.free with
    call := { token := 0, deadline := some 10 }
    timeline := { now := 5 }
    delay := some 2 }

theorem outlastsStore_hurried (w : DaemonWorld) :
    OutlastsStore (hurried.meet w) (hurried.served kind) := by
  show (hurried.timeline.await (hurried.served kind) (some (hurried.timeline.wake 2))).1 = .over
  decide

/-- It cannot fail any more. -/
theorem final_completed : ∃ (turns : List Daemon.Turn) (t : Table) (old : WorkflowExecution),
    let w := reached {} {} stillClock sameTexts turns
    let input : WorkflowExecution := .statusUpdate "wex-1" .failed "late"
    let turn : Turn := ⟨.write (.status input), hurried⟩
    w.store.backing = .memory t ∧ Meant kind t input old ∧ old.status.phase = .completed ∧
      (turn.take w).store.backing = .memory t ∧
      (turn.outcome w).1 = .error (.failed (.invalidArgument
        "execution wex-1 is already completed")) := by
  obtain ⟨turns, t, old, stored, held, named, completed⟩ := reached_completed
  have meant : Meant kind t (.statusUpdate "wex-1" .failed "late" : WorkflowExecution) old :=
    .inl ⟨by decide, held⟩
  have terminal : old.status.phase.isTerminal = true := by rw [completed]; rfl
  have other : Phase.failed ≠ old.status.phase := by rw [completed]; decide
  obtain ⟨same, -, refused⟩ := (final_reached {} {} stillClock sameTexts turns []).refused
    ⟨.write (.status (.statusUpdate "wex-1" .failed "late")), hurried⟩ t _ old rfl stored meant
    terminal other
  have refused := (refused rfl).2.1 (outlastsStore_hurried _)
  rw [Turn.Refused, named, completed] at refused
  exact ⟨turns, t, old, stored, meant, completed, same.trans stored, refused⟩

end Executions

end Steward
