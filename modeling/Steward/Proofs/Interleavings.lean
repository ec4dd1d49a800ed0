import Steward.Proofs.GoingThrough
import Steward.Proofs.Streams

/-!
# Subscribing while others write

Subscribing takes two moves, registering and reading the snapshot, and a write takes three, loading,
putting in place and handing on. Between the moves of one comes whatever others do, in any order.
What matters of it is kept in a log, which says what the broker was asked and what the table holds;
an update can only be missed if the log has it both before and after the snapshot. Main statements:
`Write.work_eq`, `Kept.step` and `unmissed`.
-/

namespace Steward

open Store

namespace Executions

/-! ## A write in three moves -/

abbrev WriteStep := Step WorkflowExecution WorkflowExecution WorkflowExecution

abbrev WriteRequest := Request WorkflowExecution WorkflowExecution

def Write.pipeline : Write → Pipeline WorkflowExecution WorkflowExecution WorkflowExecution
  | create _ => createPipeline
  | update _ => updatePipeline
  | status _ => statusPipeline

def Write.input : Write → WorkflowExecution
  | create execution | update execution | status execution => execution

/-- The steps up to storing. -/
def Write.draft : Write → List WriteStep
  | create _ => createDraft
  | update _ => updateDraft
  | status _ => statusDraft

/-- The request that the steps start with. -/
def Write.request (call : Call) (write : Write) : WriteRequest :=
  if write.pipeline.seeds then .seeded call write.input else { call := call, input := write.input }

/-- Goes on with a request by some steps, and hands it back. -/
def proceed (steps : List WriteStep) (request : WriteRequest) :
    Op WorkflowExecution WriteRequest := fun w =>
  match (Pipeline.runSteps steps).run ⟨w, request⟩ with
  | .ok () s => .ok s.request s.world
  | .error stop s => .error stop s.world

theorem ends_proceed {steps : List WriteStep} {request : WriteRequest} {w : DaemonWorld}
    {Q : WriteRequest → DaemonWorld → Prop} {E : Stop → DaemonWorld → Prop} :
    Ends (proceed steps request) w Q E ↔
      Ends (Pipeline.runSteps steps) ⟨w, request⟩ (fun _ s => Q s.request s.world)
        fun stop s => E stop s.world := by
  simp only [Ends, EStateM.run, proceed]
  cases Pipeline.runSteps steps ⟨w, request⟩ <;> rfl

theorem proceed_append (steps more : List WriteStep) (request : WriteRequest) :
    proceed (steps ++ more) request = proceed steps request >>= proceed more := by
  have line : Pipeline.runSteps (steps ++ more) =
      Pipeline.runSteps steps >>= fun _ => Pipeline.runSteps more := by
    induction steps with
    | nil => rfl
    | cons step steps ih =>
      rw [List.cons_append, Pipeline.runSteps, Pipeline.runSteps, ih]
      simp only [bind_assoc]
  funext w
  simp only [proceed, line, EStateM.run, bind, EStateM.bind]
  cases Pipeline.runSteps steps ⟨w, request⟩ <;> rfl

theorem execute_eq (p : Pipeline WorkflowExecution WorkflowExecution WorkflowExecution)
    (request : WriteRequest) :
    p.execute request = proceed p.steps (if p.seeds then request.seed else request) := by
  have seeded (w : DaemonWorld) : p.run ⟨w, request⟩ =
      Pipeline.runSteps p.steps ⟨w, if p.seeds then request.seed else request⟩ := by
    unfold Pipeline.run
    cases p.seeds <;> rfl
  funext w
  simp only [Pipeline.execute, proceed, EStateM.run, seeded]
  cases Pipeline.runSteps p.steps ⟨w, if p.seeds then request.seed else request⟩ <;> rfl

/-- The three moves of a write, one after another. -/
def Write.moves (call : Call) (write : Write) : Op WorkflowExecution WorkflowExecution := do
  let drafted ← proceed write.draft (write.request call)
  let stored ← proceed [Catalog.persist] drafted
  let handed ← proceed [Catalog.publish] stored
  Op.ofExcept handed.getNewState

/-- With nobody in between, the three moves are the operation. -/
theorem Write.work_eq (call : Call) (write : Write) : write.work call = write.moves call := by
  have started : write.work call =
      proceed (write.draft ++ ([Catalog.persist] ++ [Catalog.publish])) (write.request call) >>=
        fun handed => Op.ofExcept handed.getNewState := by
    cases write with
    | create execution => exact congrArg (· >>= _) (execute_eq createPipeline _)
    | update execution => exact congrArg (· >>= _) (execute_eq updatePipeline _)
    | status execution => exact congrArg (· >>= _) (execute_eq statusPipeline _)
  simp only [started, proceed_append, bind_assoc, moves]

section Moves

variable {w : DaemonWorld} {t : Table} {call : Call}

/-- Loading leaves the new state in the request, and the table as it is. -/
theorem ends_load (stored : w.store.backing = .memory t) (own : call.kind = some kind)
    (write : Write) :
    Ends (proceed write.draft (write.request call)) w
      (fun request w' => (∃ r, request.newState = some r) ∧ request.call.kind = some kind ∧
        Leads w t w')
      fun _ w' => Leads w t w' := by
  have drafts : ∃ Made : WorkflowExecution → Prop,
      Drafts write.draft t ⟨w, write.request call⟩ Made := by
    cases write with
    | create execution => exact ⟨_, drafts_create stored own rfl⟩
    | update execution => exact ⟨_, drafts_update stored own rfl⟩
    | status execution => exact ⟨_, drafts_status stored own rfl⟩
  obtain ⟨Made, drafts⟩ := drafts
  rw [ends_proceed]
  refine Ends.imp drafts ?_ fun _ _ leads => leads
  rintro _ s ⟨r, -, leads, same, filled⟩
  have called : (write.request call).call = call := by cases write <;> rfl
  exact ⟨⟨r, filled⟩, by rw [same, called, own], leads⟩

variable {request : WriteRequest} {r : WorkflowExecution}

/-- Putting in place changes the table, and nothing else. -/
theorem ends_store (stored : w.store.backing = .memory t) (own : request.call.kind = some kind)
    (filled : request.newState = some r) :
    Ends (proceed [Catalog.persist] request) w
      (fun request' w' => request'.newState = some r ∧ Leads w (stow kind t r) w')
      fun _ w' => Leads w t w' := by
  rw [ends_proceed, ends_runSteps_cons]
  refine ⟨fun _ => ?_, fun _ _ => .refl stored⟩
  refine (ends_persist (s := ⟨w, request⟩) stored own filled).imp ?_ fun _ _ leads => leads
  rintro _ s ⟨leads, same, -⟩
  rw [ends_runSteps_nil, same]
  exact ⟨filled, leads⟩

/-- Handing on tells the broker, or there is no time left for it. -/
theorem ends_hand (stored : w.store.backing = .memory t) (filled : request.newState = some r) :
    Ends (proceed [Catalog.publish] request) w
      (fun request' w' => request'.newState = some r ∧ Leads (announced w r) t w')
      fun _ w' => Leads w t w' := by
  rw [ends_proceed, ends_runSteps_cons]
  refine ⟨fun _ => ?_, fun _ _ => .refl stored⟩
  refine ends_publish (s := ⟨w, request⟩) filled ?_
  rw [ends_runSteps_nil]
  exact ⟨filled, .refl stored⟩

end Moves

/-! ## What happens -/

/-- What happens to the table, to the broker and to the one who subscribes. -/
inductive Event where
  /-- A subscription is registered. -/
  | registered (number : Nat)
  /-- A registration is undone, as there is no snapshot. -/
  | undone (number : Nat)
  /-- The snapshot is read. -/
  | snapped (snapshot : WorkflowExecution)
  /-- A writer puts a state in place. -/
  | put (writer : Nat) (r : WorkflowExecution)
  /-- A writer hands a state on. -/
  | handed (writer : Nat) (r : WorkflowExecution)
  /-- Others ask something of the broker. -/
  | aside (op : Broker.Operation WorkflowExecution)

/-- What the broker is asked, where the subscription is to `id`. -/
def Event.asks (id : String) : Event → List (Broker.Operation WorkflowExecution)
  | registered _ => [.subscribe id]
  | undone number => [.unsubscribe id number]
  | handed _ r => [.broadcast r.id r]
  | aside op => [op]
  | snapped _ | put _ _ => []

def asksOf (id : String) (log : List Event) : List (Broker.Operation WorkflowExecution) :=
  log.flatMap (Event.asks id)

/-- What becomes of a table. -/
def Event.lay (t : Table) : Event → Table
  | put _ r => stow kind t r
  | _ => t

def laid (t : Table) (log : List Event) : Table :=
  log.foldl Event.lay t

def Event.writer? : Event → Option Nat
  | put writer _ | handed writer _ => some writer
  | _ => none

/-- What one writer does. -/
def told (writer : Nat) (log : List Event) : List Event :=
  log.filter (·.writer? = some writer)

@[simp]
theorem asksOf_append (id : String) (log more : List Event) :
    asksOf id (log ++ more) = asksOf id log ++ asksOf id more :=
  List.flatMap_append

@[simp]
theorem laid_append (t : Table) (log more : List Event) :
    laid t (log ++ more) = laid (laid t log) more :=
  List.foldl_append

@[simp]
theorem told_append (writer : Nat) (log more : List Event) :
    told writer (log ++ more) = told writer log ++ told writer more :=
  List.filter_append _ _

/-- What was put under an id stays until something else is put there. -/
theorem get?_laid {id : String} {log : List Event}
    (apart : ∀ writer r, .put writer r ∈ log → r.id ≠ id) (t : Table) :
    (laid t log).get? ⟨kind.name, id⟩ = t.get? ⟨kind.name, id⟩ := by
  induction log generalizing t with
  | nil => rfl
  | cons event log ih =>
    have rest := ih (fun writer r inside => apart writer r (List.mem_cons_of_mem _ inside))
      (event.lay t)
    refine rest.trans ?_
    cases event with
    | put writer r =>
      refine Table.get?_put_of_ne fun same => ?_
      exact apart writer r List.mem_cons_self (Key.mk.inj same).2.symm
    | _ => rfl

/-- What is found under an id is what was put there last. -/
theorem eq_of_holds_laid {t : Table} {earlier later : List Event} {writer : Nat}
    {r snapshot : WorkflowExecution} (apart : ∀ other r', .put other r' ∈ later → r'.id ≠ r.id)
    (held : Holds kind (laid t (earlier ++ .put writer r :: later)) r.id snapshot) :
    r = snapshot := by
  obtain ⟨bytes, found, read⟩ := held
  have put : laid t (earlier ++ .put writer r :: later) =
      laid (stow kind (laid t earlier) r) later :=
    laid_append t earlier _
  rw [put, get?_laid apart, stow, Table.get?_put_self] at found
  rw [← Option.some.inj found, Resource.decode_encode r trivial] at read
  exact Except.ok.inj read

/-- What came of a world by some events, as far as they are about the broker and the table. -/
structure Brings (id : String) (w : DaemonWorld) (t : Table) (events : List Event)
    (w' : DaemonWorld) : Prop where
  broker : w'.broker = w.broker.after (asksOf id events)
  stored : w'.store.backing = .memory (laid t events)

section Brings

variable {id : String} {w w' w'' : DaemonWorld} {t : Table} {events more : List Event}

theorem Brings.trans (first : Brings id w t events w')
    (second : Brings id w' (laid t events) more w'') : Brings id w t (events ++ more) w'' where
  broker := by rw [second.broker, first.broker, asksOf_append, Broker.after_append]
  stored := by rw [second.stored, laid_append]

theorem Brings.refl (stored : w.store.backing = .memory t) : Brings id w t [] w :=
  ⟨rfl, stored⟩

theorem Brings.of_leads {c : Daemon.Conditions}
    (leads : Leads (asked (c.meet w) (asksOf id events)) (laid t events) w') :
    Brings id w t events w' :=
  ⟨leads.broker, leads.stored⟩

end Brings

/-! ## Parties -/

/-- How far a writer has come. -/
inductive Progress where
  | waiting (write : Write)
  | loaded (request : WriteRequest)
  | stored (request : WriteRequest)
  /-- The state is in place and was handed on. -/
  | done
  /-- The writer has stopped before anything was in place. -/
  | refused
  /-- The state is in place, and the call has ended before it was handed on. -/
  | cut

/-- All that the writer does is done. -/
def Progress.Finished : Progress → Prop
  | done | refused => True
  | _ => False

/-- The next move of a writer, and what happens in it. -/
def Progress.advance (writer : Nat) (c : Daemon.Conditions) (w : DaemonWorld) :
    Progress → Progress × List Event × DaemonWorld
  | waiting write =>
    match (proceed write.draft (write.request (c.served kind))).outcome (c.meet w) with
    | (.ok request, w) => (.loaded request, [], w)
    | (.error _, w) => (.refused, [], w)
  | loaded request =>
    match (proceed [Catalog.persist] request).outcome (c.meet w) with
    | (.ok request, w) => (.stored request, request.newState.toList.map (.put writer), w)
    | (.error _, w) => (.refused, [], w)
  | stored request =>
    match (proceed [Catalog.publish] request).outcome (c.meet w) with
    | (.ok request, w) => (.done, request.newState.toList.map (.handed writer), w)
    | (.error _, w) => (.cut, [], w)
  | settled => (settled, [], w)

/-- How far the one who subscribes has come. -/
inductive Listener where
  | outside
  | registered (number : Nat)
  | subscribed (number : Nat) (snapshot : WorkflowExecution)
  | failed

/-- The next move of the one who subscribes to `id`, and what happens in it. -/
def Listener.advance (id : String) (c : Daemon.Conditions) (w : DaemonWorld) :
    Listener → Listener × List Event × DaemonWorld
  | outside =>
    match (register id).outcome (c.meet w) with
    | (.ok number, w) => (.registered number, [.registered number], w)
    | (.error _, w) => (.failed, [], w)
  | registered number =>
    match (confirm (c.served kind) id number).outcome (c.meet w) with
    | (.ok (snapshot, number), w) => (.subscribed number snapshot, [.snapped snapshot], w)
    | (.error _, w) => (.failed, [.undone number], w)
  | settled => (settled, [], w)

/-- One who subscribes among writers, and what has happened so far. -/
structure Scene where
  world : DaemonWorld
  listener : Listener
  writers : List Progress
  log : List Event

/-- A writer that is not there never writes. -/
def Scene.writer (scene : Scene) (writer : Nat) : Progress :=
  scene.writers[writer]?.getD .refused

inductive Move where
  | listener (conditions : Daemon.Conditions)
  | writer (writer : Nat) (conditions : Daemon.Conditions)
  /-- Others subscribe, unsubscribe, receive or go away. -/
  | aside (op : Broker.Operation WorkflowExecution) (quiet : ∀ topic r, op ≠ .broadcast topic r)

/-- The scene after a move. -/
def Scene.step (id : String) (scene : Scene) : Move → Scene
  | .listener c =>
    let (listener, events, w) := scene.listener.advance id c scene.world
    { scene with world := w, listener := listener, log := scene.log ++ events }
  | .writer writer c =>
    match scene.writers[writer]? with
    | none => scene
    | some progress =>
      let (progress, events, w) := progress.advance writer c scene.world
      { scene with
        world := w, writers := scene.writers.set writer progress, log := scene.log ++ events }
  | .aside op _ =>
    { scene with world := asked scene.world [op], log := scene.log ++ [.aside op] }

/-- The scene after some moves, one after another. -/
def Scene.play (id : String) (scene : Scene) (moves : List Move) : Scene :=
  moves.foldl (Scene.step id) scene

/-- Nobody has moved yet. -/
def Scene.opening (w : DaemonWorld) (writes : List Write) : Scene where
  world := w
  listener := .outside
  writers := writes.map .waiting
  log := []

/-! ## What is known of the parties -/

/-- What a writer has done, by how far it has come. -/
inductive Progress.Tells (writer : Nat) : Progress → List Event → Prop where
  | waiting (write : Write) : Tells writer (.waiting write) []
  | loaded {request : WriteRequest} {r : WorkflowExecution} (own : request.call.kind = some kind)
    (filled : request.newState = some r) : Tells writer (.loaded request) []
  | stored {request : WriteRequest} {r : WorkflowExecution} (filled : request.newState = some r) :
    Tells writer (.stored request) [.put writer r]
  | done (r : WorkflowExecution) : Tells writer .done [.put writer r, .handed writer r]
  | refused : Tells writer .refused []
  | cut (r : WorkflowExecution) : Tells writer .cut [.put writer r]

/-- A move of a writer adds to what it has done. -/
theorem Progress.Tells.advance {writer : Nat} {progress : Progress} {before : List Event}
    (tells : progress.Tells writer before) (id : String) {w : DaemonWorld} {t : Table}
    (stored : w.store.backing = .memory t) (c : Daemon.Conditions) :
    ∃ progress' events w', progress.advance writer c w = (progress', events, w') ∧
      progress'.Tells writer (before ++ events) ∧ (∀ event ∈ events, event.writer? = some writer) ∧
      Brings id w t events w' := by
  cases tells with
  | waiting write =>
    obtain ⟨request, w', outcome, ⟨r, filled⟩, own, leads⟩ | ⟨stop, w', outcome, leads⟩ :=
      (ends_load (w := c.meet w) stored (c.kind_served kind) write).outcome_cases
    all_goals simp only [Progress.advance, outcome]
    · exact ⟨_, _, _, rfl, .loaded own filled, by simp, .of_leads (c := c) leads⟩
    · exact ⟨_, _, _, rfl, .refused, by simp, .of_leads (c := c) leads⟩
  | @loaded request r own filled =>
    obtain ⟨request', w', outcome, filled', leads⟩ | ⟨stop, w', outcome, leads⟩ :=
      (ends_store (w := c.meet w) stored own filled).outcome_cases
    all_goals simp only [Progress.advance, outcome]
    · rw [filled']
      exact ⟨_, _, _, rfl, .stored filled', by simp [Event.writer?], .of_leads (c := c) leads⟩
    · exact ⟨_, _, _, rfl, .refused, by simp, .of_leads (c := c) leads⟩
  | @stored request r filled =>
    obtain ⟨request', w', outcome, filled', leads⟩ | ⟨stop, w', outcome, leads⟩ :=
      (ends_hand (w := c.meet w) stored filled).outcome_cases
    all_goals simp only [Progress.advance, outcome]
    · rw [filled']
      exact ⟨_, _, _, rfl, .done r, by simp [Event.writer?], .of_leads (c := c) leads⟩
    · exact ⟨_, _, _, rfl, .cut r, by simp, .of_leads (c := c) leads⟩
  | done r => exact ⟨_, _, _, rfl, .done r, by simp, .refl stored⟩
  | refused => exact ⟨_, _, _, rfl, .refused, by simp, .refl stored⟩
  | cut r => exact ⟨_, _, _, rfl, .cut r, by simp, .refl stored⟩

/-- What has happened to the one who subscribes, by how far that one has come: `b` and `t` are the
broker and the table at the start. -/
inductive Listener.Tells (b : Broker WorkflowExecution) (t : Table) (id : String) :
    Listener → List Event → Prop where
  | outside (log : List Event) : Tells b t id .outside log
  | registered {number : Nat} {before : List Event} (between : List Event)
    (next : number = (b.after (asksOf id before)).nextNumber) (room : b.capacity ≤ Queue.maxRoom) :
    Tells b t id (.registered number) (before ++ .registered number :: between)
  | subscribed {number : Nat} {snapshot : WorkflowExecution} {before between : List Event}
    (after : List Event) (next : number = (b.after (asksOf id before)).nextNumber)
    (room : b.capacity ≤ Queue.maxRoom)
    (held : Holds kind (laid t (before ++ .registered number :: between)) id snapshot) :
    Tells b t id (.subscribed number snapshot)
      (before ++ .registered number :: (between ++ .snapped snapshot :: after))
  | failed (log : List Event) : Tells b t id .failed log

/-- What others do does not concern the one who subscribes. -/
theorem Listener.Tells.concern {b : Broker WorkflowExecution} {t : Table} {id : String}
    {listener : Listener} {log : List Event} (tells : listener.Tells b t id log)
    (more : List Event) : listener.Tells b t id (log ++ more) := by
  cases tells with
  | outside => exact .outside _
  | registered between next room =>
    rw [List.append_assoc, List.cons_append]
    exact .registered _ next room
  | subscribed after next room held =>
    rw [List.append_assoc, List.cons_append, List.append_assoc, List.cons_append]
    exact .subscribed _ next room held
  | failed => exact .failed _

/-- A move of the one who subscribes. -/
theorem Listener.Tells.advance {start w : DaemonWorld} {t : Table} {id : String}
    (trimmed : Text.trim id = id) {listener : Listener} {log : List Event}
    (tells : listener.Tells start.broker t id log) (brings : Brings id start t log w)
    (c : Daemon.Conditions) :
    ∃ listener' events w', listener.advance id c w = (listener', events, w') ∧
      listener'.Tells start.broker t id (log ++ events) ∧
      (∀ event ∈ events, event.writer? = none) ∧ Brings id w (laid t log) events w' := by
  have stored : (c.meet w).store.backing = .memory (laid t log) := brings.stored
  have told : (c.meet w).broker = start.broker.after (asksOf id log) := brings.broker
  cases tells with
  | outside =>
    obtain ⟨number, w', outcome, next, room, rfl⟩ | ⟨stop, w', outcome, -, rfl⟩ :=
      (ends_register id (c.meet w)).outcome_cases
    all_goals simp only [Listener.advance, outcome]
    · rw [told] at next room
      rw [Broker.capacity_after] at room
      exact ⟨_, _, _, rfl, .registered [] next room, by simp [Event.writer?],
        .of_leads (c := c) (.refl stored)⟩
    · exact ⟨_, _, _, rfl, .failed _, by simp, .of_leads (c := c) (.refl stored)⟩
  | @registered number before between next room =>
    obtain ⟨⟨snapshot, number'⟩, w', outcome, same, held, leads⟩ | ⟨stop, w', outcome, leads⟩ :=
      (ends_confirm stored (c.kind_served kind) id number).outcome_cases
    all_goals simp only [Listener.advance, outcome]
    · obtain rfl : number' = number := same
      rw [trimmed] at held
      refine ⟨_, _, _, rfl, ?_, by simp [Event.writer?], .of_leads (c := c) leads⟩
      rw [List.append_assoc, List.cons_append]
      exact .subscribed [] next room held
    · exact ⟨_, _, _, rfl, .failed _, by simp [Event.writer?], .of_leads (c := c) leads⟩
  | subscribed after next room held =>
    exact ⟨_, _, _, rfl, (Listener.Tells.subscribed after next room held).concern [], by simp,
      .refl brings.stored⟩
  | failed => exact ⟨_, _, _, rfl, .failed _, by simp, .refl brings.stored⟩

/-! ## The whole scene -/

/-- The log tells all that has happened since the start. -/
structure Kept (start : DaemonWorld) (t : Table) (id : String) (scene : Scene) : Prop where
  brings : Brings id start t scene.log scene.world
  listener : scene.listener.Tells start.broker t id scene.log
  writers : ∀ writer, (scene.writer writer).Tells writer (told writer scene.log)

theorem told_append_of_others {writer : Nat} {more : List Event}
    (others : ∀ event ∈ more, event.writer? ≠ some writer) (log : List Event) :
    told writer (log ++ more) = told writer log := by
  have none : told writer more = [] :=
    List.filter_eq_nil_iff.2 fun event inside => by simpa using others event inside
  rw [told_append, none, List.append_nil]

theorem told_append_of_own {writer : Nat} {more : List Event}
    (own : ∀ event ∈ more, event.writer? = some writer) (log : List Event) :
    told writer (log ++ more) = told writer log ++ more := by
  have all : told writer more = more :=
    List.filter_eq_self.2 fun event inside => by simpa using own event inside
  rw [told_append, all]

theorem Kept.opening {start : DaemonWorld} {t : Table} (id : String)
    (stored : start.store.backing = .memory t) (writes : List Write) :
    Kept start t id (.opening start writes) where
  brings := .refl stored
  listener := .outside []
  writers writer := by
    show ((writes.map Progress.waiting)[writer]?.getD .refused).Tells writer []
    rw [List.getElem?_map]
    cases writes[writer]? with
    | none => exact .refused
    | some write => exact .waiting write

theorem Kept.step {start : DaemonWorld} {t : Table} {id : String} (trimmed : Text.trim id = id)
    {scene : Scene} (kept : Kept start t id scene) (move : Move) :
    Kept start t id (scene.step id move) := by
  cases move with
  | listener c =>
    obtain ⟨listener, events, w, same, tells, others, brings⟩ :=
      kept.listener.advance trimmed kept.brings c
    simp only [Scene.step, same]
    refine ⟨kept.brings.trans brings, tells, fun writer => ?_⟩
    rw [told_append_of_others fun event inside => by simp [others event inside]]
    exact kept.writers writer
  | writer writer c =>
    simp only [Scene.step]
    split
    · exact kept
    · next progress there =>
      have tells := kept.writers writer
      rw [Scene.writer, there, Option.getD_some] at tells
      obtain ⟨progress', events, w, same, tells, own, brings⟩ :=
        tells.advance id kept.brings.stored c
      simp only [same]
      refine ⟨kept.brings.trans brings, kept.listener.concern events, fun other => ?_⟩
      rw [Scene.writer, List.getElem?_set]
      by_cases mine : writer = other
      · subst mine
        rw [told_append_of_own own, if_pos rfl, if_pos (List.getElem?_eq_some_iff.1 there).1]
        exact tells
      · rw [told_append_of_others fun event inside => by simpa [own event inside] using mine,
          if_neg mine]
        exact kept.writers other
  | aside op quiet =>
    refine ⟨kept.brings.trans ⟨?_, kept.brings.stored⟩, kept.listener.concern _, fun writer => ?_⟩
    · simp [Scene.step, asked, asksOf, Event.asks]
    · simp only [Scene.step]
      rw [told_append_of_others (by simp [Event.writer?])]
      exact kept.writers writer

theorem Kept.play {start : DaemonWorld} {t : Table} {id : String} (trimmed : Text.trim id = id)
    {scene : Scene} (kept : Kept start t id scene) (moves : List Move) :
    Kept start t id (scene.play id moves) := by
  induction moves generalizing scene with
  | nil => exact kept
  | cons move moves ih => exact ih (kept.step trimmed move)

/-! ## Nothing is missed -/

/-- The broker when a subscription to `id` has been registered. -/
def opened (b : Broker WorkflowExecution) (id : String) (before : List Event) :
    Broker WorkflowExecution :=
  ((b.after (asksOf id before)).subscribe id).2

@[simp]
theorem capacity_opened (b : Broker WorkflowExecution) (id : String) (before : List Event) :
    (opened b id before).capacity = b.capacity :=
  Broker.capacity_after b _

theorem after_registered {b : Broker WorkflowExecution} (room : b.capacity ≤ Queue.maxRoom)
    (id : String) (before after : List Event) (number : Nat) :
    b.after (asksOf id (before ++ .registered number :: after)) =
      (opened b id before).after (asksOf id after) := by
  have registered : asksOf id (.registered number :: after) =
      .subscribe id :: asksOf id after := rfl
  rw [asksOf_append, Broker.after_append, registered, Broker.after_cons, Broker.act,
    if_pos (by rw [Broker.capacity_after]; exact room)]
  rfl

/-- What becomes of a subscription to `id` that has been opened, where `b` is the broker at the
start and `t` the table: it was registered after the events `before`, and its snapshot was read
after those `between`. -/
structure Unmissed (b : Broker WorkflowExecution) (t : Table) (id : String) (number : Nat)
    (snapshot : WorkflowExecution) (before between after : List Event) (scene : Scene) : Prop where
  log : scene.log = before ++ .registered number :: (between ++ .snapped snapshot :: after)
  told : scene.world.broker =
    (opened b id before).after (asksOf id (between ++ .snapped snapshot :: after))
  stored : scene.world.store.backing = .memory (laid t scene.log)
  read : Holds kind (laid t (before ++ .registered number :: between)) id snapshot
  /-- Nothing is delivered before the registration: there is no such subscription. -/
  fresh : (b.after (asksOf id before)).find? number = none
  /-- Nothing is delivered but what is handed on after the registration, in this order. -/
  served : Broker.Serves (opened b id before) id number
    (asksOf id (between ++ .snapped snapshot :: after))
  /-- Each writer puts at most one state in place, and then hands this state on at most once. -/
  once : ∀ writer, Executions.told writer scene.log ≠ [] →
    ∃ r, Executions.told writer scene.log <+: [.put writer r, .handed writer r]
  /-- A state that is handed on after the registration, as all are that are put in place after the
  snapshot was read, comes into the queue if there is room for it. -/
  delivered : ∀ passed writer r rest s,
    between ++ .snapped snapshot :: after = passed ++ .handed writer r :: rest → r.id = id →
    ((opened b id before).after (asksOf id passed)).Listens id number s →
    ((opened b id before).after (asksOf id (passed ++ [.handed writer r]))).queue number =
      s.pending ++ if s.pending.length < b.capacity then [r] else []
  /-- When all writers have finished and the subscription is still registered, the state that was
  put in place last is that of the snapshot, or it was offered to the queue. -/
  last : (∀ progress ∈ scene.writers, progress.Finished) →
    (∃ s, scene.world.broker.find? number = some s ∧ s.listensTo id = true) →
    ∀ earlier writer r later, scene.log = earlier ++ .put writer r :: later → r.id = id →
      (∀ other r', .put other r' ∈ later → r'.id ≠ id) →
      r = snapshot ∨ ∃ passed rest s,
        between ++ .snapped snapshot :: after = passed ++ .handed writer r :: rest ∧
        ((opened b id before).after (asksOf id passed)).find? number = some s ∧
        s.listensTo id = true

theorem Progress.Tells.once {writer : Nat} {progress : Progress} {events : List Event}
    (tells : progress.Tells writer events) (some : events ≠ []) :
    ∃ r, events <+: [.put writer r, .handed writer r] := by
  cases tells with
  | waiting | loaded | refused => exact absurd rfl some
  | stored filled => exact ⟨_, _, rfl⟩
  | done r => exact ⟨r, List.prefix_rfl⟩
  | cut r => exact ⟨r, _, rfl⟩

/-- A writer that has finished has handed on what it has put in place, after that. -/
theorem Kept.handed_of_put {start : DaemonWorld} {t : Table} {id : String} {scene : Scene}
    (kept : Kept start t id scene) (finished : ∀ progress ∈ scene.writers, progress.Finished)
    {writer : Nat} {r : WorkflowExecution} {earlier later : List Event}
    (put : scene.log = earlier ++ .put writer r :: later) :
    ∃ passed rest, later = passed ++ .handed writer r :: rest := by
  have arrived : (scene.writer writer).Finished := by
    unfold Scene.writer
    cases there : scene.writers[writer]? with
    | none => trivial
    | some progress => exact finished progress (List.mem_of_getElem? there)
  have tells := kept.writers writer
  have split : told writer scene.log =
      told writer earlier ++ .put writer r :: told writer later := by
    rw [put, told_append]
    simp [told, Event.writer?]
  rw [split] at tells
  generalize scene.writer writer = progress at tells arrived
  generalize events : told writer earlier ++ Event.put writer r :: told writer later = all at tells
  cases tells with
  | waiting | loaded | stored | cut => exact arrived.elim
  | refused => simp at events
  | done r' =>
    -- What was put is the first of two, so what was handed on comes after it.
    obtain ⟨rfl, handed⟩ : r = r' ∧ told writer later = [.handed writer r'] := by
      generalize told writer earlier = first at events
      rcases first with _ | ⟨first, _ | ⟨second, others⟩⟩ <;> simp_all
    have inside : .handed writer r ∈ told writer later := by rw [handed]; simp
    exact List.append_of_mem (List.mem_filter.1 inside).1

theorem Kept.unmissed_of_subscribed {start : DaemonWorld} {t : Table} {id : String} {scene : Scene}
    (kept : Kept start t id scene) (numbered : start.broker.Numbered) {number : Nat}
    {snapshot : WorkflowExecution} (subscribed : scene.listener = .subscribed number snapshot) :
    ∃ before between after,
      Unmissed start.broker t id number snapshot before between after scene := by
  have listener := kept.listener
  rw [subscribed] at listener
  generalize same : scene.log = log at listener
  obtain _ | _ | @⟨number, snapshot, before, between, after, next, room, held⟩ | _ := listener
  have numbered' := numbered.after (asksOf id before)
  have made : (opened start.broker id before).find? number =
      some { number := number, topic := id } :=
    next ▸ numbered'.find?_subscribe id
  have told : scene.world.broker = (opened start.broker id before).after
      (asksOf id (between ++ .snapped snapshot :: after)) := by
    rw [kept.brings.broker, same, after_registered room]
  refine ⟨before, between, after, same, told, kept.brings.stored, held, ?_, Broker.serves made _,
    fun writer some => (kept.writers writer).once some, ?_, ?_⟩
  · rw [← Option.not_isSome_iff_eq_none, numbered'.isSome_find?, next]
    simp
  · rintro passed writer r rest s - rfl listens
    have asked : asksOf r.id [.handed writer r] = [.broadcast r.id r] := rfl
    rw [asksOf_append, asked, Broker.after_concat, Broker.act, listens.queue_broadcast,
      Broker.capacity_after, capacity_opened]
  · rintro finished ⟨s, found, listens⟩ earlier writer r later put rfl apart
    have whole : (before ++ .registered number :: between) ++ .snapped snapshot :: after =
        earlier ++ .put writer r :: later := by
      rw [← put, same]
      simp
    obtain ⟨others, -, tail⟩ | ⟨others, split, tail⟩ := List.append_eq_append_iff.1 whole
    · -- The state was put in place after the snapshot was read, so it was handed on after that.
      refine Or.inr ?_
      obtain ⟨passed, rest, rfl⟩ := kept.handed_of_put finished put
      have since : between ++ .snapped snapshot :: after =
          (between ++ (others ++ .put writer r :: passed)) ++ .handed writer r :: rest := by
        rw [tail]
        simp
      rw [told, since, asksOf_append] at found
      obtain ⟨s', found', listens'⟩ := Broker.listensTo_of_after made found listens
      exact ⟨_, rest, s', since, found', listens'⟩
    · -- The snapshot was read after the state was put in place, so it is this state.
      refine Or.inl ?_
      rcases others with _ | ⟨_, others⟩
      · cases tail
      · obtain ⟨rfl, rfl⟩ := List.cons.inj tail
        rw [split] at held
        exact eq_of_holds_laid (fun other r' inside => apart other r' (by simp [inside])) held

/-- With nobody in between, the moves of the parties are the operations of the service. -/
structure MovesTogether (id : String) : Prop where
  write : ∀ call (write : Write), write.work call = write.moves call
  subscribe : ∀ call, Executions.subscribe call id = register id >>= confirm call id

theorem movesTogether (id : String) : MovesTogether id :=
  ⟨Write.work_eq, fun call => subscribe_eq call id⟩

/-- In whatever order the moves come of the one who subscribes, of the writers and of others,
nothing is missed by a subscription that is opened. -/
theorem unmissed {start : DaemonWorld} (streaming : Streaming start) (writes : List Write)
    (moves : List Move) {id : String} (trimmed : Text.trim id = id) {number : Nat}
    {snapshot : WorkflowExecution}
    (subscribed :
      ((Scene.opening start writes).play id moves).listener = .subscribed number snapshot) :
    MovesTogether id ∧ ∃ t before between after, start.store.backing = .memory t ∧
      Unmissed start.broker t id number snapshot before between after
        ((Scene.opening start writes).play id moves) := by
  refine ⟨movesTogether id, ?_⟩
  obtain ⟨t, stored⟩ := streaming.stored
  have kept := (Kept.opening id stored writes).play trimmed moves
  obtain ⟨before, between, after, unmissed⟩ :=
    kept.unmissed_of_subscribed streaming.numbered subscribed
  exact ⟨t, before, between, after, stored, unmissed⟩

/-- A stored execution is answered to one who is registered, if the store does not fail and nothing
is in store for the call. -/
theorem ends_confirm_held {w : DaemonWorld} {t : Table} {call : Call}
    (faultless : w.store.faults = {}) (stored : w.store.backing = .memory t)
    (own : call.kind = some kind) (still : w.timeline.Undisturbed call) {id : String}
    (named : Text.trim id ≠ "")
    {r : WorkflowExecution} (held : Holds kind t (Text.trim id) r) (number : Nat) :
    Ends (confirm call id number) w (fun answer _ => answer = (r, number)) fun _ _ => False := by
  have goes : Goes call (get call id) w := goes_get faultless stored own named held
  unfold confirm
  rw [ends_tryCatch, ends_bind]
  refine (Ends.and goes (ends_getById stored own id)).imp ?_ ?_
  · rintro snapshot w' ⟨-, held', -⟩
    rw [held.unique held', ends_pure]
  · exact fun stop w' ⟨halts, _⟩ => absurd still halts.disturbed

/-! ## Moves with nothing in the way -/

/-- A change of status is loaded if the execution is stored under the id given, and its phase allows
the change. -/
theorem passes_statusDraft {w : DaemonWorld} {t : Table} {call : Call}
    {input old : WorkflowExecution} (faultless : w.store.faults = {})
    (stored : w.store.backing = .memory t) (own : call.kind = some kind) (chosen : input.id ≠ "")
    (held : Holds kind t input.id old) (allowed : checkPhase old input.status.phase = .ok ())
    (timely : Timely old.metadata.updatedAt) :
    Passes (Pipeline.runSteps statusDraft) ⟨w, { call := call, input := input }⟩ := by
  refine passes_cons (passes_loadExisting faultless stored own chosen held)
    (looks_loadExisting stored own) ?_
  rintro s₁ leads₁ ⟨newState, old', meant, same₁⟩
  obtain rfl : old' = old := meant.eq_of_chosen chosen held
  refine ⟨by rw [same₁], passes_last (passes_mergeStatus ?_ ?_ timely)⟩
  · rw [same₁]
  · rw [same₁]
    exact allowed

section Free

variable {start : DaemonWorld} {t : Table} {id : String} {scene : Scene} {c : Daemon.Conditions}
  {n : Nat} {request : WriteRequest} {r : WorkflowExecution}

/-- The scene after a writer has moved on. -/
theorem Scene.step_writer {progress progress' : Progress} {events : List Event} {w : DaemonWorld}
    (there : scene.writers[n]? = some progress)
    (moves : progress.advance n c scene.world = (progress', events, w)) :
    scene.step id (.writer n c) =
      ⟨w, scene.listener, scene.writers.set n progress', scene.log ++ events⟩ := by
  simp only [Scene.step, there, moves]

/-- Handing on needs no more than a call that is alive. -/
theorem Scene.hands (id : String) (scene : Scene)
    (there : scene.writers[n]? = some (.stored request)) (filled : request.newState = some r)
    (still : c.timeline.Undisturbed request.call) :
    ∃ w, scene.step id (.writer n c) =
      ⟨w, scene.listener, scene.writers.set n .done, scene.log ++ [.handed n r]⟩ := by
  have ends : Ends (proceed [Catalog.publish] request) (c.meet scene.world)
      (fun request' _ => request'.newState = some r)
      fun stop _ => Halts request.call (c.meet scene.world) stop := by
    rw [ends_proceed, ends_runSteps_cons]
    refine ⟨fun _ => ?_, fun _ failed => halts_of_check failed⟩
    exact ends_publish (s := ⟨c.meet scene.world, request⟩) filled filled
  obtain ⟨request', w, outcome, filled'⟩ | ⟨stop, w, -, halts⟩ := ends.outcome_cases
  · refine ⟨w, Scene.step_writer there ?_⟩
    simp only [Progress.advance, outcome, filled', Option.toList_some, List.map_cons, List.map_nil]
  · exact absurd still halts.disturbed

variable (kept : Kept start t id scene) (faultless : c.faults = {})
include kept faultless

/-- A writer that has not begun loads what is stored. -/
theorem Kept.loads (input : WorkflowExecution) {old : WorkflowExecution}
    (there : scene.writers[n]? = some (.waiting (.status input))) (chosen : input.id ≠ "")
    (held : Holds kind (laid t scene.log) input.id old)
    (allowed : checkPhase old input.status.phase = .ok ()) (timely : Timely old.metadata.updatedAt)
    (still : c.timeline.Undisturbed (c.served kind)) :
    ∃ request r w, request.call = c.served kind ∧ request.newState = some r ∧
      Moved (laid t scene.log) input old r ∧ scene.step id (.writer n c) =
        ⟨w, scene.listener, scene.writers.set n (.loaded request), scene.log⟩ := by
  have stored : (c.meet scene.world).store.backing = .memory (laid t scene.log) :=
    kept.brings.stored
  have own := c.kind_served kind
  have ends : Ends (proceed statusDraft (Write.request (c.served kind) (.status input)))
      (c.meet scene.world)
      (fun request _ => request.call = c.served kind ∧
        ∃ r, request.newState = some r ∧ Moved (laid t scene.log) input old r)
      fun stop _ => Halts (c.served kind) (c.meet scene.world) stop := by
    rw [ends_proceed]
    refine (Ends.and (passes_statusDraft faultless stored own chosen held allowed timely)
      (drafts_status stored own rfl)).imp ?_ fun _ _ ⟨halts, _⟩ => halts
    rintro _ s ⟨-, r, ⟨old', moved⟩, -, same, filled⟩
    obtain rfl : old' = old := moved.meant.eq_of_chosen chosen held
    exact ⟨same, r, filled, moved⟩
  obtain ⟨request, w, outcome, same, r, filled, moved⟩ | ⟨stop, w, -, halts⟩ := ends.outcome_cases
  · refine ⟨request, r, w, same, filled, moved, ?_⟩
    have moves : (Progress.waiting (.status input)).advance n c scene.world =
        (.loaded request, [], w) := by
      simp only [Progress.advance, Write.draft, outcome]
    rw [Scene.step_writer there moves, List.append_nil]
  · exact absurd still halts.disturbed

/-- A writer that has loaded puts in place what it has made. -/
theorem Kept.puts (there : scene.writers[n]? = some (.loaded request))
    (filled : request.newState = some r) (own : request.call.kind = some kind)
    (accepted : checkKey ⟨kind.name, r.id⟩ = .ok ())
    (still : c.timeline.Undisturbed request.call) :
    ∃ request' w, request'.call = request.call ∧ request'.newState = some r ∧
      scene.step id (.writer n c) =
        ⟨w, scene.listener, scene.writers.set n (.stored request'),
          scene.log ++ [.put n r]⟩ := by
  have stored : (c.meet scene.world).store.backing = .memory (laid t scene.log) :=
    kept.brings.stored
  have ends : Ends (proceed [Catalog.persist] request) (c.meet scene.world)
      (fun request' _ => request' = request)
      fun stop _ => Halts request.call (c.meet scene.world) stop := by
    rw [ends_proceed, ends_runSteps_cons]
    refine ⟨fun _ => ?_, fun _ failed => halts_of_check failed⟩
    exact (Ends.and (passes_persist (s := ⟨c.meet scene.world, request⟩) faultless stored own filled
      accepted) (ends_persist stored own filled)).imp (fun _ _ ⟨_, _, same, _⟩ => same)
      fun _ _ ⟨halts, _⟩ => halts
  obtain ⟨_, w, outcome, rfl⟩ | ⟨stop, w, -, halts⟩ := ends.outcome_cases
  · refine ⟨_, w, rfl, filled, Scene.step_writer there ?_⟩
    simp only [Progress.advance, outcome, filled, Option.toList_some, List.map_cons, List.map_nil]
  · exact absurd still halts.disturbed

/-- A writer that has loaded puts in place and hands on, if nobody comes between. -/
theorem Kept.writes (there : scene.writers[n]? = some (.loaded request))
    (filled : request.newState = some r) (own : request.call.kind = some kind)
    (accepted : checkKey ⟨kind.name, r.id⟩ = .ok ())
    (still : c.timeline.Undisturbed request.call) :
    ∃ w, (scene.step id (.writer n c)).step id (.writer n c) =
      ⟨w, scene.listener, scene.writers.set n .done, scene.log ++ [.put n r, .handed n r]⟩ := by
  obtain ⟨request', w, same, filled', puts⟩ := kept.puts faultless there filled own accepted still
  have inside : n < scene.writers.length := (List.getElem?_eq_some_iff.1 there).1
  obtain ⟨w', hands⟩ := Scene.hands id ⟨w, scene.listener, scene.writers.set n (.stored request'),
    scene.log ++ [.put n r]⟩ (List.getElem?_set_self inside) filled' (same.symm ▸ still)
  refine ⟨w', ?_⟩
  rw [puts, hands, List.set_set, List.append_assoc]
  rfl

omit faultless in
/-- Who listens is registered under the next number. -/
theorem Kept.registers (outside : scene.listener = .outside)
    (room : start.broker.capacity ≤ Queue.maxRoom) :
    ∃ w, scene.step id (.listener c) =
      ⟨w, .registered (start.broker.after (asksOf id scene.log)).nextNumber, scene.writers,
        scene.log ++ [.registered (start.broker.after (asksOf id scene.log)).nextNumber]⟩ := by
  have told : (c.meet scene.world).broker = start.broker.after (asksOf id scene.log) :=
    kept.brings.broker
  obtain ⟨number, w, outcome, next, -, -⟩ | ⟨stop, w, -, narrow, -⟩ :=
    (ends_register id (c.meet scene.world)).outcome_cases
  · rw [told] at next
    subst next
    exact ⟨w, by simp only [Scene.step, outside, Listener.advance, outcome]⟩
  · rw [told, Broker.capacity_after] at narrow
    exact absurd room narrow

/-- Who is registered is answered what is stored. -/
theorem Kept.subscribes (trimmed : Text.trim id = id) (named : id ≠ "") {number : Nat}
    (registered : scene.listener = .registered number) (held : Holds kind (laid t scene.log) id r)
    (still : c.timeline.Undisturbed (c.served kind)) :
    ∃ w, scene.step id (.listener c) =
      ⟨w, .subscribed number r, scene.writers, scene.log ++ [.snapped r]⟩ := by
  have stored : (c.meet scene.world).store.backing = .memory (laid t scene.log) :=
    kept.brings.stored
  have ends := ends_confirm_held (w := c.meet scene.world) faultless stored (c.kind_served kind)
    still (by rw [trimmed]; exact named) (by rw [trimmed]; exact held) number
  obtain ⟨answer, w, outcome, rfl⟩ | ⟨stop, w, -, never⟩ := ends.outcome_cases
  · exact ⟨w, by simp only [Scene.step, registered, Listener.advance, outcome]⟩
  · exact never.elim

end Free

/-- An execution, stored before anybody subscribes to it. -/
def storedExecution : WorkflowExecution where
  metadata := { id := "wex-1", name := "Run" }
  spec := { workflowInstanceId := "wfi-1" }
  status := {}

/-- A daemon that has stored this execution. -/
def worldWithExecution : DaemonWorld :=
  Daemon.world {} (.memory (stow kind .empty storedExecution)) {} Daemon.Conditions.free.clock
    ⟨fun _ => "0", 0⟩

/-- The execution has begun. -/
def beginning : WorkflowExecution :=
  .statusUpdate "wex-1" .inProgress "begun"

/-- The execution is done. -/
def completion : WorkflowExecution :=
  .statusUpdate "wex-1" .completed "done"

/-- Two writers, of which one begins the execution and the other completes it. -/
def busyWrites : List Write :=
  [.status beginning, .status completion]

/-- Both writers load before the registration. The first one puts in place and hands on between it
and the snapshot, and the second one after the snapshot. -/
def busyMoves : List Move :=
  [.writer 0 .free, .writer 1 .free, .listener .free, .writer 0 .free, .writer 0 .free,
    .listener .free, .writer 1 .free, .writer 1 .free]

/-- What the two writers make, and what happens. -/
theorem play_busyMoves : ∃ (begun completed : WorkflowExecution) (w : DaemonWorld),
    begun.status = beginning.status ∧ completed.status = completion.status ∧
      w.broker.queue 1 = [begun, completed] ∧
      (Scene.opening worldWithExecution busyWrites).play "wex-1" busyMoves =
        ⟨w, .subscribed 1 begun, [.done, .done], [.registered 1, .put 0 begun, .handed 0 begun,
          .snapped begun, .put 1 completed, .handed 1 completed]⟩ := by
  have trimmed : Text.trim "wex-1" = "wex-1" := by decide
  have accepted : checkKey ⟨kind.name, "wex-1"⟩ = .ok () := by decide
  have faultless : Daemon.Conditions.free.faults = {} := rfl
  have still {call : Call} (same : call = Daemon.Conditions.free.served kind) :
      Timeline.Undisturbed {} call := by
    subst same
    exact ⟨rfl, by simp, by simp, by simp⟩
  have timely : Timely storedExecution.metadata.updatedAt := fun now => ⟨now, rfl⟩
  have held (t : Table) {r : WorkflowExecution} (named : r.id = "wex-1") :
      Holds kind (stow kind t r) "wex-1" r :=
    named ▸ ⟨_, Table.get?_put_self, Resource.decode_encode r trivial⟩
  have kept₀ : Kept worldWithExecution (stow kind .empty storedExecution) "wex-1"
      ⟨worldWithExecution, .outside, [.waiting (.status beginning), .waiting (.status completion)],
        []⟩ := .opening "wex-1" rfl busyWrites
  -- Both writers load what is stored at first.
  obtain ⟨q₀, r₀, w₁, call₀, filled₀, moved₀, step₁⟩ := kept₀.loads faultless beginning
    (n := 0) rfl (by decide) (held .empty rfl) (by decide) timely (still rfl)
  replace step₁ : _ =
    (⟨w₁, .outside, [.loaded q₀, .waiting (.status completion)], []⟩ : Scene) := step₁
  have kept₁ := step₁ ▸ kept₀.step trimmed (.writer 0 .free)
  obtain ⟨q₁, r₁, w₂, call₁, filled₁, moved₁, step₂⟩ := kept₁.loads faultless completion
    (n := 1) rfl (by decide) (held .empty rfl) (by decide) timely (still rfl)
  replace step₂ : _ = (⟨w₂, .outside, [.loaded q₀, .loaded q₁], []⟩ : Scene) := step₂
  have kept₂ := step₂ ▸ kept₁.step trimmed (.writer 1 .free)
  obtain ⟨now₀, moment₀, -, made₀⟩ := moved₀.made
  obtain ⟨now₁, moment₁, -, made₁⟩ := moved₁.made
  have named₀ : r₀.id = "wex-1" := by rw [made₀]; rfl
  have named₁ : r₁.id = "wex-1" := by rw [made₁]; rfl
  -- The subscription is registered, and then the first writer goes through.
  obtain ⟨w₃, step₃⟩ : ∃ w, _ = (⟨w, .registered 1, [.loaded q₀, .loaded q₁],
    [.registered 1]⟩ : Scene) := kept₂.registers (c := .free) rfl (by decide)
  have kept₃ := step₃ ▸ kept₂.step trimmed (.listener .free)
  obtain ⟨w₄, step₄⟩ : ∃ w, _ = (⟨w, .registered 1, [.done, .loaded q₁],
      [.registered 1, .put 0 r₀, .handed 0 r₀]⟩ : Scene) :=
    kept₃.writes faultless (n := 0) rfl filled₀ (by rw [call₀]; rfl)
      (by rw [named₀]; exact accepted) (still call₀)
  have kept₄ := step₄ ▸ (kept₃.step trimmed (.writer 0 .free)).step trimmed (.writer 0 .free)
  -- The snapshot is read, and then the second writer goes through.
  obtain ⟨w₅, step₅⟩ : ∃ w, _ = (⟨w, .subscribed 1 r₀, [.done, .loaded q₁],
      [.registered 1, .put 0 r₀, .handed 0 r₀, .snapped r₀]⟩ : Scene) :=
    kept₄.subscribes faultless trimmed (by decide) rfl (held _ named₀) (still rfl)
  have kept₅ := step₅ ▸ kept₄.step trimmed (.listener .free)
  obtain ⟨w₆, step₆⟩ : ∃ w, _ = (⟨w, .subscribed 1 r₀, [.done, .done],
      [.registered 1, .put 0 r₀, .handed 0 r₀, .snapped r₀, .put 1 r₁, .handed 1 r₁]⟩ : Scene) :=
    kept₅.writes faultless (n := 1) rfl filled₁ (by rw [call₁]; rfl)
      (by rw [named₁]; exact accepted) (still call₁)
  have kept₆ := step₆ ▸ (kept₅.step trimmed (.writer 1 .free)).step trimmed (.writer 1 .free)
  have queued : w₆.broker.queue 1 = [r₀, r₁] := by
    have told : w₆.broker = _ := kept₆.brings.broker
    simp only [asksOf, List.flatMap_cons, List.flatMap_nil, Event.asks, named₀, named₁] at told
    rw [told]
    rfl
  refine ⟨r₀, r₁, w₆, by rw [made₀], by rw [made₁], queued, ?_⟩
  have opened : Scene.opening worldWithExecution busyWrites = ⟨worldWithExecution, .outside,
    [.waiting (.status beginning), .waiting (.status completion)], []⟩ := rfl
  simp only [Scene.play, busyMoves, List.foldl_cons, List.foldl_nil, opened, step₁, step₂, step₃,
    step₄, step₅, step₆]

/-- What was put in place before the snapshot is read is the snapshot, and is in the queue as well;
what was put in place after it is in the queue. -/
theorem unmissed_busy : ∃ begun completed : WorkflowExecution,
    let scene := (Scene.opening worldWithExecution busyWrites).play "wex-1" busyMoves
    Streaming worldWithExecution ∧ Text.trim "wex-1" = "wex-1" ∧
      begun.status = ⟨.inProgress, "begun"⟩ ∧ completed.status = ⟨.completed, "done"⟩ ∧
      scene.listener = .subscribed 1 begun ∧
      scene.log = [.registered 1, .put 0 begun, .handed 0 begun, .snapped begun,
        .put 1 completed, .handed 1 completed] ∧
      scene.world.broker.queue 1 = [begun, completed] ∧
      MovesTogether "wex-1" ∧
      ∃ t before between after, worldWithExecution.store.backing = .memory t ∧
        Unmissed worldWithExecution.broker t "wex-1" 1 begun before between after scene := by
  have streaming : Streaming worldWithExecution := streaming_world _ _ _ _ _
  have trimmed : Text.trim "wex-1" = "wex-1" := by decide
  obtain ⟨begun, completed, w, begins, completes, queued, played⟩ := play_busyMoves
  have subscribed : ((Scene.opening worldWithExecution busyWrites).play "wex-1"
      busyMoves).listener = .subscribed 1 begun := by rw [played]
  refine ⟨begun, completed, streaming, trimmed, begins, completes, subscribed, ?_, ?_,
    unmissed streaming busyWrites busyMoves trimmed subscribed⟩
  · rw [played]
  · rw [played]
    exact queued

end Executions

end Steward
