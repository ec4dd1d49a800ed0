import Steward.Proofs.Runs
import Steward.Proofs.Fanout

/-!
# Streams of executions

The service of workflow executions with those who listen to it: operations one after another over a
store in memory, with whatever each of them meets. An execution that is written is handed on once,
as it is stored and answered; nothing else is. So what a subscription gets is what is stored for its
id from then on. Main statements: `leaves_work`, `Streaming.delivers` and `streams_world`.
-/

namespace Steward

open Store

namespace Executions

/-! ## Turns -/

/-- The operations that write. -/
inductive Write where
  | create (execution : WorkflowExecution)
  | update (execution : WorkflowExecution)
  | status (execution : WorkflowExecution)

/-- What can be asked of the service, and of the subscriptions to it. -/
inductive Operation where
  | write (write : Write)
  | delete (id : String)
  | get (id : String)
  | subscribe (id : String)
  | unsubscribe (id : String) (number : Nat)
  /-- A listener receives what waits for it. -/
  | receive (number : Nat)
  /-- A listener goes away. -/
  | dismiss (number : Nat)

inductive Answer where
  | state (execution : WorkflowExecution)
  | opened (snapshot : WorkflowExecution) (number : Nat)
  | ended (known : Bool)
  | received (found : Received WorkflowExecution)
  | gone

def Write.work (call : Call) : Write → Op WorkflowExecution WorkflowExecution
  | create execution => Executions.create call execution
  | update execution => Executions.update call execution
  | status execution => Executions.updateStatus call execution

/-- The work on an operation. -/
def Operation.work (call : Call) : Operation → Op WorkflowExecution Answer
  | .write request => return .state (← request.work call)
  | .delete id => return .state (← controller.delete call id)
  | .get id => return .state (← controller.get call id)
  | .subscribe id => do
    let (snapshot, number) ← Executions.subscribe call id
    return .opened snapshot number
  | .unsubscribe id number => return .ended (← Executions.unsubscribe id number)
  | .receive number => modifyGet fun w =>
    (.received (w.broker.receive number).1, { w with broker := (w.broker.receive number).2 })
  | .dismiss number => modifyGet fun w => (.gone, { w with broker := w.broker.dismiss number })

structure Turn where
  operation : Operation
  conditions : Daemon.Conditions

/-- The outcome of a turn, with the world after it. -/
def Turn.outcome (turn : Turn) (w : DaemonWorld) : Except Stop Answer × DaemonWorld :=
  Op.outcome (turn.operation.work (turn.conditions.served kind)) (turn.conditions.meet w)

/-- The world after a turn, whatever its outcome. -/
def Turn.take (w : DaemonWorld) (turn : Turn) : DaemonWorld :=
  (turn.outcome w).2

/-- The world after turns one after another. -/
def run (w : DaemonWorld) (turns : List Turn) : DaemonWorld :=
  turns.foldl Turn.take w

/-- The execution that an operation writes, if it writes one: a write that succeeds writes its
answer. -/
def Operation.written? : Operation → Except Stop Answer → Option WorkflowExecution
  | .write _, .ok (.state r) => some r
  | _, _ => none

/-- The execution that a listener receives by an operation. -/
def Operation.received? (number : Nat) : Operation → Except Stop Answer → Option WorkflowExecution
  | .receive other, .ok (.received found) => if other = number then Broker.item? found else none
  | _, _ => none

/-- What an operation asks of the broker. A subscription that is made for nothing is undone. -/
def Operation.asks (b : Broker WorkflowExecution) :
    Operation → Except Stop Answer → List (Broker.Operation WorkflowExecution)
  | .write _, .ok (.state r) => [.broadcast r.id r]
  | .subscribe id, .ok _ => [.subscribe id]
  | .subscribe id, .error _ =>
    if b.capacity ≤ Queue.maxRoom then [.subscribe id, .unsubscribe id b.nextNumber] else []
  | .unsubscribe id number, _ => [.unsubscribe id number]
  | .receive number, _ => [.receive number]
  | .dismiss number, _ => [.dismiss number]
  | _, _ => []

def Turn.written? (turn : Turn) (w : DaemonWorld) : Option WorkflowExecution :=
  turn.operation.written? (turn.outcome w).1

/-- What is written under an id in some turns, in their order. -/
def written (id : String) : DaemonWorld → List Turn → List WorkflowExecution
  | _, [] => []
  | w, turn :: turns =>
    (turn.written? w).toList.filter (·.id = id) ++ written id (turn.take w) turns

/-- What a listener receives in some turns, in their order. -/
def received (number : Nat) : DaemonWorld → List Turn → List WorkflowExecution
  | _, [] => []
  | w, turn :: turns =>
    (turn.operation.received? number (turn.outcome w).1).toList ++
      received number (turn.take w) turns

/-- The world in which the broker was asked for something. -/
def asked (w : DaemonWorld) (operations : List (Broker.Operation WorkflowExecution)) :
    DaemonWorld :=
  { w with broker := w.broker.after operations }

/-! ## One operation -/

section Work

variable {w : DaemonWorld} {t : Table} {call : Call}

/-- A write puts in place and hands on what it answers, or leaves the table and the broker as they
are. -/
theorem ends_write (stored : w.store.backing = .memory t) (own : call.kind = some kind)
    (write : Write) :
    Ends (write.work call) w (fun r w' => Leads (announced w r) (stow kind t r) w')
      fun _ w' => Leads w t w' := by
  cases write with
  | create execution =>
    exact Ends.imp (announces_create execution stored own) (fun _ _ ⟨_, leads, _⟩ => leads)
      fun _ _ leads => leads
  | update execution =>
    exact Ends.imp (announces_update execution stored own) (fun _ _ ⟨_, leads, _⟩ => leads)
      fun _ _ leads => leads
  | status execution =>
    exact Ends.imp (announces_updateStatus execution stored own) (fun _ _ ⟨_, leads, _⟩ => leads)
      fun _ _ leads => leads

/-- Reading leaves the table and the broker as they are. -/
theorem ends_getById (stored : w.store.backing = .memory t) (own : call.kind = some kind)
    (id : String) :
    Ends (get call id) w (fun r w' => Holds kind t (Text.trim id) r ∧ Leads w t w')
      fun _ w' => Leads w t w' :=
  (reads_get stored own).ends (fun _ _ leads held => ⟨held, leads⟩) fun _ _ leads => leads

/-- Registering makes a subscription, unless a queue cannot have the room. -/
theorem ends_register (id : String) (w : DaemonWorld) :
    Ends (register id) w
      (fun number w' => number = w.broker.nextNumber ∧ w.broker.capacity ≤ Queue.maxRoom ∧
        w' = asked w [.subscribe id])
      fun _ w' => ¬ w.broker.capacity ≤ Queue.maxRoom ∧ w' = w := by
  unfold register
  rw [ends_bind, Steward.ends_get, ends_bind, Queue.checkRoom]
  split
  · next room =>
    rw [Op.ofOutcome, ends_pure, ends_modifyGet]
    exact ⟨rfl, room, by simp [asked, Broker.act, room]⟩
  · next narrow => exact ⟨narrow, rfl⟩

/-- What subscribing does once there is a subscription: it answers the execution, or undoes the
registration. -/
def confirm (call : Call) (id : String) (number : Nat) :
    Op WorkflowExecution (WorkflowExecution × Nat) :=
  tryCatch (get call id >>= fun snapshot => pure (snapshot, number)) fun stop =>
    unsubscribe id number >>= fun _ => throw stop

theorem subscribe_eq (call : Call) (id : String) :
    subscribe call id = register id >>= confirm call id := by
  unfold subscribe
  congr 1
  funext number w
  unfold confirm
  simp only [bind, tryCatch, tryCatchThe, MonadExceptOf.tryCatch]
  delta EStateM.tryCatch EStateM.bind
  cases get call id w <;> rfl

theorem ends_confirm (stored : w.store.backing = .memory t) (own : call.kind = some kind)
    (id : String) (number : Nat) :
    Ends (confirm call id number) w
      (fun opened w' => opened.2 = number ∧ Holds kind t (Text.trim id) opened.1 ∧ Leads w t w')
      fun _ w' => Leads (asked w [.unsubscribe id number]) t w' := by
  unfold confirm
  rw [ends_tryCatch, ends_bind]
  refine (ends_getById stored own id).imp ?_ ?_
  · exact fun snapshot w' ⟨held, leads⟩ => ⟨rfl, held, leads⟩
  · intro stop w' leads
    rw [ends_bind]
    unfold unsubscribe
    rw [ends_modifyGet, ends_throw]
    exact leads.announce fun b => (b.unsubscribe id number).2

/-- Subscribing registers a subscription, and undoes this if there is no snapshot to answer. -/
theorem ends_subscribe (stored : w.store.backing = .memory t) (own : call.kind = some kind)
    (id : String) :
    Ends (subscribe call id) w
      (fun opened w' => opened.2 = w.broker.nextNumber ∧ w.broker.capacity ≤ Queue.maxRoom ∧
        Holds kind t (Text.trim id) opened.1 ∧ Leads (asked w [.subscribe id]) t w')
      fun _ w' => Leads (asked w (if w.broker.capacity ≤ Queue.maxRoom then
        [.subscribe id, .unsubscribe id w.broker.nextNumber] else [])) t w' := by
  rw [subscribe_eq, ends_bind]
  refine (ends_register id w).imp ?_ ?_
  · rintro _ _ ⟨rfl, room, rfl⟩
    rw [if_pos room]
    refine (ends_confirm (w := asked w [.subscribe id]) stored own id _).imp ?_ ?_
    · exact fun opened w' ⟨same, held, leads⟩ => ⟨same, room, held, leads⟩
    · exact fun _ _ leads => leads
  · rintro _ _ ⟨narrow, rfl⟩
    rw [if_neg narrow]
    exact .refl stored

/-- What an operation leaves behind, as its outcome says: what it writes is in place and handed on
once; everything else hands nothing on, and leaves the table as it is unless it deletes. -/
structure Leaves (w : DaemonWorld) (t : Table) (operation : Operation)
    (outcome : Except Stop Answer) (t' : Table) (w' : DaemonWorld) : Prop where
  leads : Leads (asked w (operation.asks w.broker outcome)) t' w'
  stored : ∀ r, operation.written? outcome = some r → t' = stow kind t r
  kept : operation.written? outcome = none → (∀ id, operation ≠ .delete id) → t' = t

theorem Leaves.of_unwritten {operation : Operation} {outcome : Except Stop Answer} {t' : Table}
    {w' : DaemonWorld} (unwritten : operation.written? outcome = none)
    (leads : Leads (asked w (operation.asks w.broker outcome)) t' w')
    (kept : (∀ id, operation ≠ .delete id) → t' = t) : Leaves w t operation outcome t' w' where
  leads := leads
  stored r same := by
    rw [unwritten] at same
    cases same
  kept _ := kept

theorem leaves_work (stored : w.store.backing = .memory t) (own : call.kind = some kind)
    (operation : Operation) :
    Ends (operation.work call) w (fun answer w' => ∃ t', Leaves w t operation (.ok answer) t' w')
      fun stop w' => ∃ t', Leaves w t operation (.error stop) t' w' := by
  cases operation with
  | write write =>
    refine Iff.mpr ends_bind ((ends_write stored own write).imp (fun r w' leads => ?_)
      fun _ w' leads => ⟨t, .of_unwritten rfl leads fun _ => rfl⟩)
    refine ⟨_, leads, fun r' same => ?_, fun unwritten => ?_⟩
    · obtain rfl : r = r' := Option.some.inj same
      rfl
    · cases unwritten
  | delete id =>
    refine Iff.mpr ends_bind ((changes_delete own id w t stored).imp ?_ ?_)
    all_goals
      rintro _ w' ⟨t', -, leads⟩
      exact ⟨t', .of_unwritten rfl leads fun other => absurd rfl (other id)⟩
  | get id =>
    refine Iff.mpr ends_bind ((ends_getById stored own id).imp ?_ ?_)
    · exact fun _ w' ⟨_, leads⟩ => ⟨t, .of_unwritten rfl leads fun _ => rfl⟩
    · exact fun _ w' leads => ⟨t, .of_unwritten rfl leads fun _ => rfl⟩
  | subscribe id =>
    refine Iff.mpr ends_bind ((ends_subscribe stored own id).imp ?_ ?_)
    · exact fun _ w' ⟨_, _, _, leads⟩ => ⟨t, .of_unwritten rfl leads fun _ => rfl⟩
    · exact fun _ w' leads => ⟨t, .of_unwritten rfl leads fun _ => rfl⟩
  | unsubscribe id number => exact ⟨t, .of_unwritten rfl (.refl stored) fun _ => rfl⟩
  | receive number => exact ⟨t, .of_unwritten rfl (.refl stored) fun _ => rfl⟩
  | dismiss number => exact ⟨t, .of_unwritten rfl (.refl stored) fun _ => rfl⟩

/-- What a turn leaves behind. -/
theorem leaves_take (stored : w.store.backing = .memory t) (turn : Turn) :
    ∃ t', Leaves (turn.conditions.meet w) t turn.operation (turn.outcome w).1 t' (turn.take w) := by
  have ends := leaves_work (w := turn.conditions.meet w) stored
    (turn.conditions.kind_served kind) turn.operation
  cases outcome : (turn.outcome w).1 with
  | ok answer => exact ends.of_outcome_ok outcome
  | error stop => exact ends.of_outcome_error outcome

/-- What a turn asks is all that happens to the broker in it. -/
theorem broker_take (stored : w.store.backing = .memory t) (turn : Turn) :
    (turn.take w).broker =
      w.broker.after (turn.operation.asks w.broker (turn.outcome w).1) := by
  obtain ⟨t', leaves⟩ := leaves_take stored turn
  exact leaves.leads.broker

end Work

/-! ## Runs -/

/-- The broker numbers its subscriptions, and the values are in memory. -/
structure Streaming (w : DaemonWorld) : Prop where
  numbered : w.broker.Numbered
  stored : ∃ t, w.store.backing = .memory t

theorem streaming_world (config : Config) (t : Table) (timeline : Timeline)
    (clock : Supply Timestamp) (ids : Supply String) :
    Streaming (Daemon.world config (.memory t) timeline clock ids) :=
  ⟨Broker.numbered_ofCapacity _, t, rfl⟩

theorem Streaming.take {w : DaemonWorld} (streaming : Streaming w) (turn : Turn) :
    Streaming (turn.take w) := by
  obtain ⟨t, stored⟩ := streaming.stored
  obtain ⟨t', leaves⟩ := leaves_take stored turn
  refine ⟨?_, t', leaves.leads.stored⟩
  rw [broker_take stored turn]
  exact streaming.numbered.after _

theorem Streaming.runs {w : DaemonWorld} (streaming : Streaming w) (turns : List Turn) :
    Streaming (run w turns) := by
  induction turns generalizing w with
  | nil => exact streaming
  | cons turn turns ih => exact ih (streaming.take turn)

/-- A turn that does not take a listener away gives it what is written under its id, if there is
room. -/
theorem Streaming.listens_take {w : DaemonWorld} (streaming : Streaming w) {id : String}
    {number : Nat} {s : Subscription WorkflowExecution} (listens : w.broker.Listens id number s)
    {turn : Turn} (kept : turn.operation ≠ .unsubscribe id number)
    (there : turn.operation ≠ .dismiss number)
    (roomy : ∀ r, turn.written? w = some r → r.id = id → s.pending.length < w.broker.capacity) :
    ∃ s', (turn.take w).broker.Listens id number s' ∧
      s.pending ++ (turn.written? w).toList.filter (·.id = id) =
        (turn.operation.received? number (turn.outcome w).1).toList ++ s'.pending := by
  obtain ⟨t, stored⟩ := streaming.stored
  obtain ⟨operation, conditions⟩ := turn
  rw [broker_take stored]
  have quiet : ∃ s', w.broker.Listens id number s' ∧ s.pending ++ [] = [] ++ s'.pending :=
    ⟨s, listens, by simp⟩
  have earlier : number ≠ w.broker.nextNumber := by
    have inside := List.mem_of_find?_eq_some listens.found
    exact Broker.find?_number listens.found ▸ (streaming.numbered.lt inside).ne
  cases operation with
  | write write =>
    unfold Turn.written? at roomy ⊢
    generalize (Turn.outcome ⟨.write write, conditions⟩ w).1 = outcome at roomy ⊢
    rcases outcome with stop | (r | _ | _ | _ | _)
    case ok.state =>
      have room (news : (Broker.Operation.broadcast r.id r).news id ≠ []) :
          s.pending.length < w.broker.capacity := by
        by_cases own : r.id = id
        · exact roomy r rfl own
        · simp [Broker.Operation.news, own] at news
      obtain ⟨s', listens', same⟩ := listens.act (.broadcast r.id r) rfl rfl room
      refine ⟨s', listens', ?_⟩
      by_cases own : r.id = id <;>
        simpa [Operation.written?, Operation.received?, Broker.Operation.news,
          Broker.Operation.got, own] using same
    all_goals exact quiet
  | delete id' => exact quiet
  | get id' => exact quiet
  | subscribe id' =>
    obtain ⟨s₁, listens₁, same₁⟩ := listens.act (.subscribe id') rfl rfl (absurd rfl)
    unfold Turn.written?
    rcases (Turn.outcome ⟨.subscribe id', conditions⟩ w).1 with stop | answer
    · simp only [Operation.asks]
      split
      · -- The subscription that is undone is another one.
        have apart : (Broker.Operation.unsubscribe id' w.broker.nextNumber :
            Broker.Operation WorkflowExecution).unsubscribes id number = false := by
          simp [Broker.Operation.unsubscribes, Ne.symm earlier]
        obtain ⟨s₂, listens₂, same₂⟩ := listens₁.act _ apart rfl (absurd rfl)
        exact ⟨s₂, listens₂, same₁.trans ((List.append_nil s₁.pending).symm.trans same₂)⟩
      · exact quiet
    · exact ⟨s₁, listens₁, same₁⟩
  | unsubscribe id' number' =>
    have apart : (Broker.Operation.unsubscribe id' number' :
        Broker.Operation WorkflowExecution).unsubscribes id number = false := by
      simp only [Broker.Operation.unsubscribes, Bool.and_eq_false_iff, beq_eq_false_iff_ne]
      refine not_and_or.1 ?_
      rintro ⟨rfl, rfl⟩
      exact kept rfl
    exact listens.act _ apart rfl (absurd rfl)
  | receive number' =>
    obtain ⟨s', listens', same⟩ := listens.act (.receive number') rfl rfl (absurd rfl)
    refine ⟨s', listens', same.trans (congrArg (· ++ s'.pending) ?_)⟩
    show (if number' = number then s.pending.head?.toList else []) =
      (if number' = number then Broker.item? (w.broker.receive number').1 else none).toList
    by_cases own : number' = number
    · rw [if_pos own, if_pos own, own, Broker.item?_receive listens.found]
    · rw [if_neg own, if_neg own]
      rfl
  | dismiss number' =>
    have apart : (Broker.Operation.dismiss number' :
        Broker.Operation WorkflowExecution).dismisses number = false := by
      simpa [Broker.Operation.dismisses] using fun own => there (congrArg _ own)
    exact listens.act _ rfl apart (absurd rfl)

/-- While a listener is there and its queue has room, it gets what is written under its id. -/
theorem Streaming.delivers {w : DaemonWorld} (streaming : Streaming w) {id : String}
    {number : Nat} {s : Subscription WorkflowExecution} (listens : w.broker.Listens id number s)
    {turns : List Turn} (kept : ∀ turn ∈ turns, turn.operation ≠ .unsubscribe id number)
    (there : ∀ turn ∈ turns, turn.operation ≠ .dismiss number)
    (roomy : ∀ earlier turn later r, turns = earlier ++ turn :: later →
      turn.written? (run w earlier) = some r → r.id = id →
      ((run w earlier).broker.queue number).length < w.broker.capacity) :
    s.pending ++ written id w turns =
      received number w turns ++ (run w turns).broker.queue number := by
  induction turns generalizing w s with
  | nil =>
    rw [show (run w []).broker.queue number = s.pending from Broker.queue_of_find? listens.found]
    simp [written, received]
  | cons turn turns ih =>
    obtain ⟨t, stored⟩ := streaming.stored
    have queued := Broker.queue_of_find? listens.found
    obtain ⟨s', listens', same⟩ := streaming.listens_take listens (kept turn List.mem_cons_self)
      (there turn List.mem_cons_self) fun r wrote own =>
        queued ▸ roomy [] turn turns r rfl wrote own
    have capacity : (turn.take w).broker.capacity = w.broker.capacity := by
      rw [broker_take stored, Broker.capacity_after]
    have rest := ih (streaming.take turn) listens'
      (fun turn' inside => kept turn' (List.mem_cons_of_mem _ inside))
      (fun turn' inside => there turn' (List.mem_cons_of_mem _ inside))
      fun earlier turn' later r split wrote own => by
        rw [capacity]
        exact roomy (turn :: earlier) turn' later r (by rw [split]; rfl) wrote own
    rw [written, received, ← List.append_assoc, same, List.append_assoc, rest, List.append_assoc]
    rfl

/-! ## What is streamed -/

/-- What the service does with what is written, from a start on. -/
structure Streams (start : DaemonWorld) : Prop where
  /-- A write that succeeds hands its answer on once, and this is what is stored under its id. -/
  handedOn : ∀ turns (turn : Turn) r, turn.written? (run start turns) = some r →
    (turn.take (run start turns)).broker = ((run start turns).broker.broadcast r.id r).2 ∧
      ∃ t, (turn.take (run start turns)).store.backing = .memory t ∧ Holds kind t r.id r
  /-- Nothing else hands anything on. -/
  silent : ∀ turns (turn : Turn), turn.written? (run start turns) = none →
    ∃ operations, (turn.take (run start turns)).broker =
        (run start turns).broker.after operations ∧
      ∀ topic r, .broadcast topic r ∉ operations
  /-- Nothing else stores anything, and only deleting takes something away. -/
  kept : ∀ turns (turn : Turn), turn.written? (run start turns) = none →
    (∀ id, turn.operation ≠ .delete id) →
    (turn.take (run start turns)).store.backing = (run start turns).store.backing
  /-- From when a subscription is opened, its listener gets what is written under its id, in the
  same order, or has it waiting in the queue, if there is always room. -/
  delivered : ∀ before (opening : Turn) id snapshot number later,
    opening.operation = .subscribe id →
    (opening.outcome (run start before)).1 = .ok (.opened snapshot number) →
    let w := opening.take (run start before)
    (∀ turn ∈ later, turn.operation ≠ .unsubscribe id number ∧ turn.operation ≠ .dismiss number) →
    (∀ earlier (turn : Turn) rest r, later = earlier ++ turn :: rest →
      turn.written? (run w earlier) = some r → r.id = id →
      ((run w earlier).broker.queue number).length < w.broker.capacity) →
    received number w later ++ (run w later).broker.queue number = written id w later

theorem outcome_of_written? {turn : Turn} {w : DaemonWorld} {r : WorkflowExecution}
    (wrote : turn.written? w = some r) :
    turn.operation.asks w.broker (turn.outcome w).1 = [.broadcast r.id r] := by
  unfold Turn.written? Operation.written? at wrote
  split at wrote
  · next same done =>
    rw [same, done]
    cases wrote
    rfl
  · cases wrote

theorem broadcast_not_mem_asks {operation : Operation} {outcome : Except Stop Answer}
    (none : operation.written? outcome = none) (b : Broker WorkflowExecution) (topic : String)
    (r : WorkflowExecution) : .broadcast topic r ∉ operation.asks b outcome := by
  unfold Operation.asks
  split <;> first | (cases none; done) | simp

/-- A turn that opens a subscription is one in which subscribing succeeds. -/
theorem outcome_of_opened {w : DaemonWorld} {turn : Turn} {id : String}
    (asked : turn.operation = .subscribe id) {snapshot : WorkflowExecution} {number : Nat}
    (opened : (turn.outcome w).1 = .ok (.opened snapshot number)) :
    (subscribe (turn.conditions.served kind) id).outcome (turn.conditions.meet w) =
      (.ok (snapshot, number), turn.take w) := by
  obtain ⟨operation, conditions⟩ := turn
  obtain rfl : operation = .subscribe id := asked
  have same : Turn.outcome ⟨.subscribe id, conditions⟩ w =
      (((subscribe (conditions.served kind) id).outcome (conditions.meet w)).1.map
          fun opened => .opened opened.1 opened.2,
        ((subscribe (conditions.served kind) id).outcome (conditions.meet w)).2) :=
    outcome_answer _
  rw [same] at opened
  rw [Turn.take, same]
  cases done : ((subscribe (conditions.served kind) id).outcome (conditions.meet w)).1 with
  | ok answer =>
    rw [done] at opened
    obtain ⟨rfl, rfl⟩ := Answer.opened.inj (Except.ok.inj opened)
    exact Prod.ext done rfl
  | error stop =>
    rw [done] at opened
    cases opened

/-- A subscription that is opened is a new one, with a snapshot of what is stored. -/
theorem opened_take {w : DaemonWorld} {t : Table} (stored : w.store.backing = .memory t)
    {turn : Turn} {id : String} (asked : turn.operation = .subscribe id)
    {snapshot : WorkflowExecution} {number : Nat}
    (opened : (turn.outcome w).1 = .ok (.opened snapshot number)) :
    number = w.broker.nextNumber ∧ w.broker.capacity ≤ Queue.maxRoom ∧
      Holds kind t (Text.trim id) snapshot ∧
      (turn.take w).broker = (w.broker.subscribe id).2 := by
  have done := outcome_of_opened asked opened
  obtain ⟨next, room, held, leads⟩ :=
    (ends_subscribe (w := turn.conditions.meet w) stored (turn.conditions.kind_served kind)
      id).of_outcome_ok (congrArg Prod.fst done)
  have room : w.broker.capacity ≤ Queue.maxRoom := room
  have told := leads.broker
  rw [done] at told
  refine ⟨next, room, held, told.trans ?_⟩
  show w.broker.act (.subscribe id) = _
  rw [Broker.act, if_pos room]

/-- From every start of the daemon over a store in memory. -/
theorem streams_world (config : Config) (t : Table) (timeline : Timeline)
    (clock : Supply Timestamp) (ids : Supply String) :
    Streams (Daemon.world config (.memory t) timeline clock ids) := by
  have start := streaming_world config t timeline clock ids
  constructor
  · intro turns turn r wrote
    obtain ⟨t, stored⟩ := (start.runs turns).stored
    obtain ⟨t', leaves⟩ := leaves_take stored turn
    refine ⟨?_, t', leaves.leads.stored, ?_⟩
    · rw [broker_take stored, outcome_of_written? wrote]
      rfl
    · rw [leaves.stored r wrote]
      exact ⟨_, Table.get?_put_self, Resource.decode_encode r trivial⟩
  · intro turns turn unwritten
    obtain ⟨t, stored⟩ := (start.runs turns).stored
    exact ⟨_, broker_take stored turn, broadcast_not_mem_asks unwritten _⟩
  · intro turns turn unwritten other
    obtain ⟨t, stored⟩ := (start.runs turns).stored
    obtain ⟨t', leaves⟩ := leaves_take stored turn
    rw [leaves.leads.stored, leaves.kept unwritten other, stored]
  · intro before opening id snapshot number later asked opened w stays roomy
    have streaming := start.runs before
    obtain ⟨t, stored⟩ := streaming.stored
    obtain ⟨rfl, room, -, broker⟩ := opened_take stored asked opened
    have made := streaming.numbered.find?_subscribe id
    rw [← broker] at made
    have delivered := (streaming.take opening).delivers ⟨made, rfl, rfl, rfl⟩
      (fun turn inside => (stays turn inside).1) (fun turn inside => (stays turn inside).2) roomy
    exact delivered.symm

end Executions

end Steward
