import Steward.Proofs.Finality
import Steward.Proofs.Silence

/-!
# Which execution a subscription listens to

A subscription is registered under the id as it is given, while the execution that it is opened on
is looked up without the blanks around this id. Over every store a subscription that is opened gets
what is written to this execution if, and only if, the id was given without them, and one that
cannot be opened leaves no registration behind. Main statements: `broker_turn`,
`Broker.Numbered.registry_undone` and `listening_world`.
-/

namespace Steward

/-! ## The registry of a broker -/

namespace Broker

variable {α : Type} {b : Broker α}

/-- The subscriptions that broadcasts still reach. -/
def registry (b : Broker α) : List (Subscription α) :=
  b.subscriptions.filter (·.registered)

theorem subscriberCount_eq_registry (b : Broker α) (topic : String) :
    b.subscriberCount topic = (b.registry.filter (·.topic == topic)).length := by
  rw [subscriberCount, registry, List.filter_filter]
  congr 2
  funext s
  exact Bool.and_comm _ _

/-- Nothing is registered under the number that comes next. -/
theorem Numbered.map_unsubscribe (numbered : b.Numbered) (topic : String) :
    b.subscriptions.map ((Operation.unsubscribe topic b.nextNumber).change b.capacity) =
      b.subscriptions := by
  have same : ∀ s ∈ b.subscriptions,
      (Operation.unsubscribe topic b.nextNumber).change b.capacity s = id s := by
    intro s inside
    simp [Operation.change, isRegistered, (numbered.lt inside).ne]
  rw [List.map_congr_left same, List.map_id]

/-- A registration that is undone at once leaves the registry as it was. -/
theorem Numbered.registry_undone (numbered : b.Numbered) (topic : String) :
    (b.after [.subscribe topic, .unsubscribe topic b.nextNumber]).registry = b.registry := by
  show ((b.act (.subscribe topic)).subscriptions.map
    ((Operation.unsubscribe topic b.nextNumber).change b.capacity)).filter (·.registered) = _
  rw [act]
  split
  · rw [subscribe, List.map_append, numbered.map_unsubscribe, List.filter_append]
    simp [Operation.change, isRegistered, Subscription.listensTo, registry]
  · rw [numbered.map_unsubscribe, registry]

/-- A registered queue with somebody to receive from it and with room takes what is broadcast on its
topic, and nothing else. -/
theorem queue_broadcast_of_room {number : Nat} {s : Subscription α}
    (found : b.find? number = some s) (registered : s.registered = true)
    (attended : s.attended = true) (room : s.pending.length < b.capacity) (topic : String)
    (value : α) :
    (b.broadcast topic value).2.queue number =
      s.pending ++ if topic = s.topic then [value] else [] := by
  rw [queue_broadcast, takes_eq, found, queue_of_find? found]
  by_cases own : s.topic = topic
  · simp [Subscription.listensTo, Subscription.accepts, registered, attended, room, own]
  · simp [Subscription.listensTo, registered, own, Ne.symm own]

end Broker

namespace Executions

/-! ## What is asked of the broker, over any store -/

theorem write_tells (call : Call) (write : Write) (w : DaemonWorld) :
    Ends (write.work call) w (fun r w' => w'.broker = (w.broker.broadcast r.id r).2)
      fun _ w' => w'.broker = w.broker := by
  cases write with
  | create input =>
    exact ends_tells (p := createPipeline) rfl silent_guarantee.createSteps call input w
  | update input =>
    exact ends_tells (p := updatePipeline) rfl silent_guarantee.updateSteps call input w
  | status input =>
    -- This pipeline is not given as a line of steps that ends with handing on.
    have published : statusPipeline.steps =
        [Catalog.loadExisting, mergeStatus, Catalog.persist] ++ [Catalog.publish] := rfl
    refine ends_tells published ?_ call input w
    simp only [List.forall_mem_cons]
    exact ⟨silent_guarantee.loadExisting, silent_guarantee.mergeStatus, silent_guarantee.persist,
      nofun⟩

/-- Once there is a subscription it stays, or its registration is undone. -/
theorem confirm_tells (call : Call) (id : String) (number : Nat) (w : DaemonWorld) :
    Ends (confirm call id number) w
      (fun opened w' => opened.2 = number ∧ w'.broker = w.broker)
      fun _ w' => w'.broker = w.broker.after [.unsubscribe id number] := by
  unfold confirm
  rw [ends_tryCatch, ends_bind]
  refine (silent_guarantee.query kind call id w).imp (fun _ _ same => ⟨rfl, same⟩)
    fun stop w' same => ?_
  rw [ends_bind]
  unfold unsubscribe
  rw [ends_modifyGet, ends_throw, same]
  rfl

theorem subscribe_tells (call : Call) (id : String) (w : DaemonWorld) :
    Ends (subscribe call id) w
      (fun opened w' => opened.2 = w.broker.nextNumber ∧ w.broker.capacity ≤ Queue.maxRoom ∧
        w'.broker = w.broker.after [.subscribe id])
      fun _ w' => w'.broker = w.broker.after (if w.broker.capacity ≤ Queue.maxRoom then
        [.subscribe id, .unsubscribe id w.broker.nextNumber] else []) := by
  rw [subscribe_eq, ends_bind]
  refine (ends_register id w).imp ?_ ?_
  · rintro _ _ ⟨rfl, room, rfl⟩
    rw [if_pos room]
    exact (confirm_tells call id _ (asked w [.subscribe id])).imp
      (fun _ _ ⟨same, told⟩ => ⟨same, room, told⟩) fun _ _ told => told
  · rintro _ _ ⟨narrow, rfl⟩
    rw [if_neg narrow]
    rfl

theorem work_tells (call : Call) (operation : Operation) (w : DaemonWorld) :
    Ends (operation.work call) w
      (fun answer w' => w'.broker = w.broker.after (operation.asks w.broker (.ok answer)))
      fun stop w' => w'.broker = w.broker.after (operation.asks w.broker (.error stop)) := by
  cases operation with
  | write write => exact Iff.mpr ends_bind (write_tells call write w)
  | delete id => exact Iff.mpr ends_bind (silent_guarantee.remove kind call id w)
  | get id => exact Iff.mpr ends_bind (silent_guarantee.query kind call id w)
  | subscribe id =>
    exact Iff.mpr ends_bind ((subscribe_tells call id w).imp (fun _ _ ⟨_, _, told⟩ => told)
      fun _ _ told => told)
  | unsubscribe id number => exact rfl
  | receive number => exact rfl
  | dismiss number => exact rfl

/-- What a turn asks is all that happens to the broker in it, whatever the store is. -/
theorem broker_turn (w : DaemonWorld) (turn : Turn) :
    (turn.take w).broker = w.broker.after (turn.operation.asks w.broker (turn.outcome w).1) := by
  have tells := work_tells (turn.conditions.served kind) turn.operation (turn.conditions.meet w)
  cases outcome : (turn.outcome w).1 with
  | ok answer => exact tells.of_outcome_ok outcome
  | error stop => exact tells.of_outcome_error outcome

theorem broker_run (w : DaemonWorld) (turns : List Turn) :
    ∃ operations, (run w turns).broker = w.broker.after operations := by
  induction turns generalizing w with
  | nil => exact ⟨[], rfl⟩
  | cons turn turns ih =>
    obtain ⟨operations, told⟩ := ih (turn.take w)
    exact ⟨_, by rw [Broker.after_append, ← broker_turn]; exact told⟩

/-! ## Subscriptions that are opened, and such as are not -/

section Opening

variable {w : DaemonWorld} {opening : Turn} {id : String}

/-- A subscription that is opened is a new one under the id as it was given, and nothing waits in
its queue. -/
theorem found_opening (numbered : w.broker.Numbered) (asked : opening.operation = .subscribe id)
    {snapshot : WorkflowExecution} {number : Nat}
    (opened : (opening.outcome w).1 = .ok (.opened snapshot number)) :
    w.broker.find? number = none ∧
      (opening.take w).broker.find? number = some { number := number, topic := id } := by
  have done := outcome_of_opened asked opened
  obtain ⟨next, room, told⟩ := (subscribe_tells _ id (opening.conditions.meet w)).of_outcome_ok
    (congrArg Prod.fst done)
  obtain rfl : number = w.broker.nextNumber := next
  have room : w.broker.capacity ≤ Queue.maxRoom := room
  have told : (opening.take w).broker = (w.broker.subscribe id).2 := by
    rw [done] at told
    refine told.trans ?_
    show w.broker.act (.subscribe id) = _
    rw [Broker.act, if_pos room]
  refine ⟨?_, told ▸ numbered.find?_subscribe id⟩
  -- What is found has a number that has been given out already.
  by_contra there
  have known := numbered.isSome_find?.1 (Option.isSome_iff_ne_none.2 there)
  exact absurd known.2 (lt_irrefl _)

/-- It keeps its id, whatever is asked of the service from then on. -/
theorem topic_run (numbered : w.broker.Numbered) (asked : opening.operation = .subscribe id)
    {snapshot : WorkflowExecution} {number : Nat}
    (opened : (opening.outcome w).1 = .ok (.opened snapshot number)) (later : List Turn)
    {s : Subscription WorkflowExecution}
    (found : (run (opening.take w) later).broker.find? number = some s) : s.topic = id := by
  obtain ⟨operations, told⟩ := broker_run (opening.take w) later
  obtain ⟨s', found', same⟩ :=
    Broker.find?_after (found_opening numbered asked opened).2 operations
  rw [told, found'] at found
  rw [← Option.some.inj found, same]

theorem numbered_run (numbered : w.broker.Numbered) (turns : List Turn) :
    (run w turns).broker.Numbered := by
  obtain ⟨operations, told⟩ := broker_run w turns
  exact told ▸ numbered.after operations

theorem capacity_run (w : DaemonWorld) (turns : List Turn) :
    (run w turns).broker.capacity = w.broker.capacity := by
  obtain ⟨operations, told⟩ := broker_run w turns
  rw [told, Broker.capacity_after]

/-- A subscription that cannot be opened leaves no registration behind. -/
theorem registry_opening (numbered : w.broker.Numbered) (asked : opening.operation = .subscribe id)
    {stop : Stop} (stopped : (opening.outcome w).1 = .error stop) :
    (opening.take w).broker.registry = w.broker.registry := by
  rw [broker_turn, asked, stopped, Operation.asks]
  split
  · exact numbered.registry_undone id
  · rfl

end Opening

/-- Who gets what of the subscriptions that are asked for here. -/
structure Listening (w : DaemonWorld) : Prop where
  /-- A subscription that is opened is a new one under the id as it was given. -/
  registered : ∀ (opening : Turn) id snapshot number, opening.operation = .subscribe id →
    (opening.outcome w).1 = .ok (.opened snapshot number) →
    w.broker.find? number = none ∧
      (opening.take w).broker.find? number = some { number := number, topic := id }
  /-- As long as it is registered and its queue has room, it gets what is written to the execution
  that it was opened on if it was asked for by the very id of this execution, and only then. -/
  delivered : ∀ (opening : Turn) id snapshot number later (turn : Turn) r s,
    opening.operation = .subscribe id →
    (opening.outcome w).1 = .ok (.opened snapshot number) →
    let w' := run (opening.take w) later
    w'.broker.find? number = some s → s.registered = true → s.attended = true →
    s.pending.length < w'.broker.capacity →
    turn.written? w' = some r → r.id = snapshot.id →
    (turn.take w').broker.queue number = s.pending ++ if snapshot.id = id then [r] else []
  /-- In a store in memory in which every execution stands under its own id, this is the id that was
  given, without the blanks around it. -/
  named : ∀ (opening : Turn) id snapshot number t, opening.operation = .subscribe id →
    (opening.outcome w).1 = .ok (.opened snapshot number) →
    w.store.backing = .memory t → KindKept ExecutionSpec ExecutionStatus kind t →
    snapshot.id = Text.trim id
  /-- A subscription that cannot be opened is not registered, nor is any other one touched. -/
  undone : ∀ (opening : Turn) id stop, opening.operation = .subscribe id →
    (opening.outcome w).1 = .error stop →
    (opening.take w).broker.registry = w.broker.registry ∧
      ∀ topic, (opening.take w).broker.subscriberCount topic = w.broker.subscriberCount topic

theorem Listening.of_numbered {w : DaemonWorld} (numbered : w.broker.Numbered) : Listening w where
  registered opening id snapshot number asked opened := found_opening numbered asked opened
  delivered opening id snapshot number later turn r s asked opened := by
    intro w' found registered attended room wrote own
    have told : (turn.take w').broker = (w'.broker.broadcast r.id r).2 := by
      rw [broker_turn, outcome_of_written? wrote]
      rfl
    rw [told, Broker.queue_broadcast_of_room found registered attended room, own,
      topic_run numbered asked opened later found]
  named opening id snapshot number t asked opened stored kept :=
    (kept.of_holds (opened_take stored asked opened).2.2.1).1
  undone opening id stop asked stopped := by
    have same := registry_opening numbered asked stopped
    refine ⟨same, fun topic => ?_⟩
    rw [Broker.subscriberCount_eq_registry, Broker.subscriberCount_eq_registry, same]

/-- Whatever the store is, and whatever was asked of the service before. -/
theorem listening_world (config : Config) (backing : Store.Backing) (timeline : Timeline)
    (clock : Supply Timestamp) (ids : Supply String) (before : List Turn) :
    Listening (run (Daemon.world config backing timeline clock ids) before) :=
  .of_numbered (numbered_run (Broker.numbered_ofCapacity _) before)

/-! ## A subscription that is told nothing -/

/-- A subscription to a stored execution is opened, if there can be a queue for it, the store does
not fail and nothing is in store for the call. -/
theorem outcome_subscribe {w : DaemonWorld} {t : Store.Table} {c : Daemon.Conditions} {id : String}
    (faultless : c.faults = {}) (stored : w.store.backing = .memory t)
    (still : c.timeline.Undisturbed (c.served kind)) (room : w.broker.capacity ≤ Queue.maxRoom)
    (named : Text.trim id ≠ "") {r : WorkflowExecution} (held : Holds kind t (Text.trim id) r) :
    (Turn.outcome ⟨.subscribe id, c⟩ w).1 = .ok (.opened r w.broker.nextNumber) := by
  have ends : Ends (subscribe (c.served kind) id) (c.meet w)
      (fun opened _ => opened = (r, w.broker.nextNumber)) fun _ _ => False := by
    rw [subscribe_eq, ends_bind]
    refine (ends_register id (c.meet w)).imp ?_ fun _ _ ⟨narrow, _⟩ => narrow room
    rintro _ _ ⟨rfl, -, rfl⟩
    exact ends_confirm_held (w := asked (c.meet w) [.subscribe id]) faultless stored
      (c.kind_served kind) still named held _
  have opens : Ends ((Operation.subscribe id).work (c.served kind)) (c.meet w)
      (fun answer _ => answer = .opened r w.broker.nextNumber) fun _ _ => False := by
    refine Iff.mpr ends_bind (ends.imp ?_ fun _ _ never => never)
    rintro _ _ rfl
    rfl
  obtain ⟨answer, w', outcome, rfl⟩ | ⟨stop, w', -, never⟩ := opens.outcome_cases
  · exact congrArg Prod.fst outcome
  · exact never.elim

theorem written?_write {write : Write} {c : Daemon.Conditions} {w : DaemonWorld}
    {r : WorkflowExecution}
    (done : ((write.work (c.served kind)).outcome (c.meet w)).1 = .ok r) :
    Turn.written? ⟨.write write, c⟩ w = some r := by
  rw [Turn.written?, Turn.outcome_write, done]
  rfl

/-- What the service has done for one who gave the id of an execution with blanks around it: the
subscription is opened, and does not get what is written to the execution then. -/
structure Unheard (w : DaemonWorld) (id : String) (opening turn : Turn)
    (snapshot r : WorkflowExecution) (s : Subscription WorkflowExecution) : Prop where
  asked : opening.operation = .subscribe id
  opened : (opening.outcome w).1 = .ok (.opened snapshot s.number)
  found : (opening.take w).broker.find? s.number = some s
  registered : s.registered = true
  attended : s.attended = true
  room : s.pending.length < (opening.take w).broker.capacity
  wrote : turn.written? (opening.take w) = some r
  own : r.id = snapshot.id
  missed : r ∉ (turn.take (opening.take w)).broker.queue s.number

theorem unheard_of_held (id : String) (input : WorkflowExecution) {w : DaemonWorld}
    {t : Store.Table} {old : WorkflowExecution} (numbered : w.broker.Numbered)
    (room : w.broker.capacity ≤ Queue.maxRoom) (roomy : 0 < w.broker.capacity)
    (stored : w.store.backing = .memory t) (kept : KindKept ExecutionSpec ExecutionStatus kind t)
    (held : Holds kind t (Text.trim id) old) (named : Text.trim id ≠ "")
    (padded : Text.trim id ≠ id) (meant : Meant kind t input old)
    (allowed : checkPhase old input.status.phase = .ok ())
    (accepted : Store.checkKey ⟨kind.name, old.id⟩ = .ok ())
    (dated : old.metadata.updatedAt = some .epoch) :
    ∃ r s, Unheard w id ⟨.subscribe id, .free⟩ ⟨.write (.status input), .free⟩ old r s := by
  have opened : (Turn.outcome ⟨.subscribe id, .free⟩ w).1 =
      .ok (.opened old w.broker.nextNumber) :=
    outcome_subscribe rfl stored (Daemon.undisturbed_served kind) room named held
  have found := (found_opening numbered rfl opened).2
  obtain ⟨t', leaves⟩ := leaves_take stored ⟨.subscribe id, .free⟩
  obtain rfl : t' = t := leaves.kept rfl nofun
  have roomy : 0 < (Turn.take w ⟨.subscribe id, .free⟩).broker.capacity := by
    rw [broker_turn, Broker.capacity_after]
    exact roomy
  obtain ⟨r, moved, done, -⟩ := moved_freely leaves.leads.stored kept meant allowed accepted dated
  have wrote : Turn.written? ⟨.write (.status input), .free⟩
      (Turn.take w ⟨.subscribe id, .free⟩) = some r := written?_write done
  have own : r.id = old.id := moved.nextVersion.named
  have other : old.id ≠ id := (kept.of_holds held).1 ▸ padded
  have missed : (Turn.take (Turn.take w ⟨.subscribe id, .free⟩)
      ⟨.write (.status input), .free⟩).broker.queue w.broker.nextNumber =
      [] ++ if old.id = id then [r] else [] :=
    (Listening.of_numbered numbered).delivered _ id old _ [] _ r _ rfl opened found rfl rfl roomy
      wrote own
  refine ⟨r, { number := w.broker.nextNumber, topic := id }, rfl, opened, found, rfl, rfl, roomy,
    wrote, own, ?_⟩
  rw [missed, if_neg other]
  simp

/-- A daemon creates an execution and is asked for a subscription to it, with blanks around its id.
The subscription is opened, with a snapshot of this execution. When the execution is completed then,
nothing comes into the empty queue. -/
theorem unheard_padded : ∃ (before : List Turn) (snapshot r : WorkflowExecution)
    (s : Subscription WorkflowExecution), snapshot.id = "wex-1" ∧
      Unheard (run (Daemon.world {} (.memory .empty) {} stillClock sameTexts) before) " wex-1 "
        ⟨.subscribe " wex-1 ", .free⟩ ⟨.write (.status completion), .free⟩ snapshot r s := by
  obtain ⟨old, stored, sound, named, pending, dated⟩ := created_first
  obtain ⟨before, stored⟩ : ∃ before : List Turn,
      (run (Daemon.world {} (.memory .empty) {} stillClock sameTexts) before).store.backing =
        .memory (stow kind .empty old) := by
    refine ⟨[⟨.write (.create storedExecution), .free⟩], ?_⟩
    rw [run, List.foldl_cons, List.foldl_nil, take_write, Write.work]
    exact stored
  have capacity := capacity_run (Daemon.world {} (.memory .empty) {} stillClock sameTexts) before
  obtain ⟨t, stored', kept⟩ :=
    (tended_run (tended_reached {} {} stillClock sameTexts []) before).kept
  obtain rfl : stow kind .empty old = t := Store.Backing.memory.inj (stored.symm.trans stored')
  have held : Holds kind (stow kind .empty old) "wex-1" old :=
    (holds_put sound).2 (.inl ⟨named.symm, rfl⟩)
  have trimmed : Text.trim " wex-1 " = "wex-1" := by decide
  have allowed : checkPhase old completion.status.phase = .ok () :=
    checkPhase_eq_ok.2 fun terminal => by rw [pending] at terminal; cases terminal
  obtain ⟨r, s, unheard⟩ := unheard_of_held " wex-1 " completion
    (numbered_run (Broker.numbered_ofCapacity _) before) (by rw [capacity]; decide)
    (by rw [capacity]; decide) stored kept.executions (trimmed ▸ held) (by decide) (by decide)
    (.inl ⟨by decide, held⟩) allowed (by rw [named]; decide) dated
  exact ⟨before, old, r, s, named, unheard⟩

end Executions

end Steward
