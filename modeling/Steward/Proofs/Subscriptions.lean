import Mathlib.Data.List.Basic
import Mathlib.Data.List.Nodup
import Mathlib.Data.List.Range
import Steward.Broker
import Steward.Queue

/-!
# One subscription among others

What is asked of a broker, in any order, is an operation on all of its subscriptions. Each of them
changes in a way of its own, `Operation.change`, which depends on no other one: this is what a
broker comes to, seen from one of its queues (`find?_act`). Main statements: `find?_after`,
`numbered_after`, `subscribed_act` and `queue_apart`.
-/

namespace Steward.Broker

variable {α : Type}

/-- What is asked of a broker, and of the queues of its subscriptions. -/
inductive Operation (α : Type) where
  | subscribe (topic : String)
  | unsubscribe (topic : String) (number : Nat)
  | broadcast (topic : String) (value : α)
  /-- Receiving from a queue without waiting. -/
  | receive (number : Nat)
  /-- The listener of a subscription goes away. -/
  | dismiss (number : Nat)

/-- The broker after an operation. There is no subscribing where a queue cannot have the room. -/
def act (b : Broker α) : Operation α → Broker α
  | .subscribe topic => if b.capacity ≤ Queue.maxRoom then (b.subscribe topic).2 else b
  | .unsubscribe topic number => (b.unsubscribe topic number).2
  | .broadcast topic value => (b.broadcast topic value).2
  | .receive number => (b.receive number).2
  | .dismiss number => b.dismiss number

/-- The broker after some operations, one after another. -/
def after (b : Broker α) (operations : List (Operation α)) : Broker α :=
  operations.foldl act b

@[simp]
theorem after_nil (b : Broker α) : b.after [] = b :=
  rfl

@[simp]
theorem after_cons (b : Broker α) (op : Operation α) (later : List (Operation α)) :
    b.after (op :: later) = (b.act op).after later :=
  rfl

theorem after_append (b : Broker α) (earlier later : List (Operation α)) :
    b.after (earlier ++ later) = (b.after earlier).after later :=
  List.foldl_append

@[simp]
theorem after_concat (b : Broker α) (earlier : List (Operation α)) (op : Operation α) :
    b.after (earlier ++ [op]) = (b.after earlier).act op :=
  after_append b earlier [op]

/-- What is in the queue of a subscription. -/
def queue (b : Broker α) (number : Nat) : List α :=
  ((b.find? number).map (·.pending)).getD []

theorem queue_of_find? {b : Broker α} {number : Nat} {s : Subscription α}
    (found : b.find? number = some s) : b.queue number = s.pending := by
  simp [queue, found]

theorem capacity_act (b : Broker α) (op : Operation α) : (b.act op).capacity = b.capacity := by
  cases op with
  | subscribe topic => simp only [act]; split <;> rfl
  | receive number => simp only [act, receive]; split <;> first | rfl | (split <;> rfl)
  | _ => rfl

@[simp]
theorem capacity_after (b : Broker α) (operations : List (Operation α)) :
    (b.after operations).capacity = b.capacity := by
  induction operations generalizing b with
  | nil => rfl
  | cons op later ih => rw [after_cons, ih, capacity_act]

/-! ## The change of one subscription -/

/-- What an operation does to a subscription that is there already. -/
def Operation.change (capacity : Nat) : Operation α → Subscription α → Subscription α
  | .subscribe _, s => s
  | .unsubscribe topic number, s =>
    if isRegistered topic number s then { s with registered := false } else s
  | .broadcast topic value, s => if s.listensTo topic then s.offer capacity value else s
  | .receive number, s => if s.number == number then { s with pending := s.pending.tail } else s
  | .dismiss number, s =>
    if s.number == number then { s with pending := [], attended := false } else s

@[simp]
theorem offer_number (capacity : Nat) (value : α) (s : Subscription α) :
    (s.offer capacity value).number = s.number := by
  unfold Subscription.offer
  split
  · rfl
  · split <;> rfl

@[simp]
theorem offer_topic (capacity : Nat) (value : α) (s : Subscription α) :
    (s.offer capacity value).topic = s.topic := by
  unfold Subscription.offer
  split
  · rfl
  · split <;> rfl

@[simp]
theorem change_number (capacity : Nat) (op : Operation α) (s : Subscription α) :
    (op.change capacity s).number = s.number := by
  cases op <;> simp only [Operation.change] <;> split <;> simp

@[simp]
theorem change_topic (capacity : Nat) (op : Operation α) (s : Subscription α) :
    (op.change capacity s).topic = s.topic := by
  cases op <;> simp only [Operation.change] <;> split <;> simp

/-- A registration that is over does not come back. -/
theorem change_over {capacity : Nat} {op : Operation α} {s : Subscription α}
    (ended : s.registered = false) : (op.change capacity s).registered = false := by
  cases op <;> simp only [Operation.change] <;>
    first
      | exact ended
      | split <;> simp_all [Subscription.listensTo]

theorem change_unsubscribe (capacity : Nat) (s : Subscription α) :
    (Operation.unsubscribe s.topic s.number).change capacity s =
      { s with registered := false } := by
  cases s with
  | mk number topic pending registered attended =>
    cases registered <;> simp [Operation.change, isRegistered, Subscription.listensTo]

theorem find?_number {b : Broker α} {number : Nat} {s : Subscription α}
    (found : b.find? number = some s) : s.number = number := by
  simpa using List.find?_some found

/-- A change of each subscription for itself is seen in each of them. -/
theorem find?_map (f : Subscription α → Subscription α) (same : ∀ s, (f s).number = s.number)
    (subscriptions : List (Subscription α)) (number : Nat) :
    (subscriptions.map f).find? (·.number == number) =
      (subscriptions.find? (·.number == number)).map f := by
  rw [List.find?_map]
  congr 2
  funext s
  simp [same]

theorem find?_modify (b : Broker α) (number other : Nat) {f : Subscription α → Subscription α}
    (same : ∀ s, (f s).number = s.number) :
    (b.modify other f).find? number =
      (b.find? number).map fun s => if s.number == other then f s else s :=
  find?_map _ (fun s => by split <;> simp [same]) _ _

/-! What is found when receiving, as the queue says. -/

section Receiving

variable {b : Broker α} {number : Nat} {s : Subscription α}

theorem receive_unknown (unknown : b.find? number = none) : b.receive number = (.closed, b) := by
  simp [receive, unknown]

theorem receive_drained (found : b.find? number = some s) (drained : s.pending = []) :
    b.receive number = (if s.registered then .empty else .closed, b) := by
  simp [receive, found, drained]

theorem receive_waiting (found : b.find? number = some s) {value : α} {rest : List α}
    (waiting : s.pending = value :: rest) :
    b.receive number = (.item value, b.modify number fun s => { s with pending := rest }) := by
  simp [receive, found, waiting]

end Receiving

theorem find?_broadcast (b : Broker α) (topic : String) (value : α) (number : Nat) :
    (b.broadcast topic value).2.find? number =
      (b.find? number).map ((Operation.broadcast topic value).change b.capacity) :=
  find?_map ((Operation.broadcast topic value).change b.capacity) (change_number _ _)
    b.subscriptions number

theorem find?_unsubscribe (b : Broker α) (topic : String) (number other : Nat) :
    (b.unsubscribe topic other).2.find? number =
      (b.find? number).map ((Operation.unsubscribe topic other).change b.capacity) :=
  find?_map ((Operation.unsubscribe topic other).change b.capacity) (change_number _ _)
    b.subscriptions number

/-- A subscription that is there changes with each operation in its own way, whatever the others
are. -/
theorem find?_act {b : Broker α} {number : Nat} {s : Subscription α}
    (found : b.find? number = some s) (op : Operation α) :
    (b.act op).find? number = some (op.change b.capacity s) := by
  have named := find?_number found
  cases op with
  | subscribe topic =>
    simp only [act, Operation.change]
    split
    · unfold find? at found ⊢
      simp [subscribe, found]
    · exact found
  | unsubscribe topic other => simp [act, find?_unsubscribe, found]
  | broadcast topic value => simp [act, find?_broadcast, found]
  | receive other =>
    simp only [act, Operation.change]
    by_cases own : s.number = other
    · subst own named
      cases waiting : s.pending with
      | nil =>
        have still : { s with pending := [] } = s := by cases s; simp_all
        simpa [receive_drained found waiting, found] using still.symm
      | cons value rest => simp [receive_waiting found waiting, find?_modify, found]
    · cases elsewhere : b.find? other with
      | none => simp [receive_unknown elsewhere, own, found]
      | some s' =>
        cases waiting : s'.pending with
        | nil => simp [receive_drained elsewhere waiting, own, found]
        | cons value rest => simp [receive_waiting elsewhere waiting, find?_modify, found, own]
  | dismiss other =>
    simp [act, dismiss, Operation.change, find?_modify, found]

/-- Whatever is asked of the broker, the subscription that has a number keeps it, and its topic. -/
theorem find?_after {b : Broker α} {number : Nat} {s : Subscription α}
    (found : b.find? number = some s) (operations : List (Operation α)) :
    ∃ s', (b.after operations).find? number = some s' ∧ s'.topic = s.topic := by
  induction operations generalizing b s with
  | nil => exact ⟨s, found, rfl⟩
  | cons op later ih =>
    obtain ⟨s', found', same⟩ := ih (find?_act found op)
    exact ⟨s', found', by rw [same, change_topic]⟩

/-! ## The numbers of all subscriptions -/

/-- The subscriptions have the numbers that have been given out, in their order. -/
def Numbered (b : Broker α) : Prop :=
  List.range b.nextNumber = 0 :: b.subscriptions.map (·.number)

theorem numbered_ofCapacity (capacity : Nat) : (ofCapacity capacity : Broker α).Numbered :=
  rfl

theorem numbered_map {b : Broker α} (numbered : b.Numbered)
    {f : Subscription α → Subscription α} (same : ∀ s, (f s).number = s.number) :
    Numbered { b with subscriptions := b.subscriptions.map f } := by
  have kept : ((·.number) ∘ f : Subscription α → Nat) = (·.number) := funext same
  rw [Numbered, List.map_map, kept]
  exact numbered

theorem numbered_act {b : Broker α} (numbered : b.Numbered) (op : Operation α) :
    (b.act op).Numbered := by
  cases op with
  | subscribe topic =>
    simp only [act]
    split
    · unfold Numbered at numbered ⊢
      simp [subscribe, List.range_succ, numbered]
    · exact numbered
  | unsubscribe topic number =>
    exact numbered_map numbered fun s => by split <;> rfl
  | broadcast topic value =>
    exact numbered_map numbered fun s => by split <;> simp
  | receive number =>
    simp only [act, receive]
    split
    · exact numbered
    · split
      · exact numbered_map numbered fun s => by split <;> rfl
      · exact numbered
  | dismiss number =>
    exact numbered_map numbered fun s => by split <;> rfl

theorem Numbered.after {b : Broker α} (numbered : b.Numbered) (operations : List (Operation α)) :
    (b.after operations).Numbered := by
  induction operations generalizing b with
  | nil => exact numbered
  | cons op later ih => exact ih (numbered_act numbered op)

theorem numbered_after (capacity : Nat) (operations : List (Operation α)) :
    ((ofCapacity capacity).after operations).Numbered :=
  (numbered_ofCapacity capacity).after operations

theorem Numbered.nodup {b : Broker α} (numbered : b.Numbered) :
    (b.subscriptions.map (·.number)).Nodup := by
  have all : (List.range b.nextNumber).Nodup := List.nodup_range
  rw [numbered] at all
  exact (List.nodup_cons.1 all).2

theorem Numbered.lt {b : Broker α} (numbered : b.Numbered) {s : Subscription α}
    (inside : s ∈ b.subscriptions) : s.number < b.nextNumber := by
  rw [← List.mem_range, numbered]
  exact List.mem_cons_of_mem _ (List.mem_map_of_mem inside)

/-- There are no two subscriptions with one number. -/
theorem Numbered.find?_eq_some {b : Broker α} (numbered : b.Numbered) {number : Nat}
    {s : Subscription α} :
    b.find? number = some s ↔ s ∈ b.subscriptions ∧ s.number = number := by
  constructor
  · exact fun found => ⟨List.mem_of_find?_eq_some found, find?_number found⟩
  · rintro ⟨inside, rfl⟩
    have some : (b.find? s.number).isSome := by
      unfold find?
      rw [List.find?_isSome]
      exact ⟨s, inside, by simp⟩
    obtain ⟨s', found⟩ := Option.isSome_iff_exists.1 some
    have same : s' = s := List.inj_on_of_nodup_map numbered.nodup
      (List.mem_of_find?_eq_some found) inside (find?_number found)
    rwa [same] at found

/-- A subscription that is made now has an empty queue, and the number that comes next. -/
theorem Numbered.find?_subscribe {b : Broker α} (numbered : b.Numbered) (topic : String) :
    (b.subscribe topic).2.find? b.nextNumber = some { number := b.nextNumber, topic := topic } := by
  have before : b.subscriptions.find? (·.number == b.nextNumber) = none := by
    rw [List.find?_eq_none]
    intro s inside
    simpa using (numbered.lt inside).ne
  simp [find?, subscribe, before]

/-- A subscription that is found when one more could have been made is that one, or was there
before. -/
theorem find?_subscribe_cases {b : Broker α} {topic : String} {number : Nat} {s : Subscription α}
    (found : (b.subscribe topic).2.find? number = some s) :
    b.find? number = some s ∨ b.nextNumber = number ∧ s = { number := number, topic := topic } := by
  simp only [find?, subscribe, List.find?_append, Option.or_eq_some_iff] at found
  obtain old | ⟨-, new⟩ := found
  · exact .inl old
  · rw [List.find?_singleton] at new
    split at new
    · next own =>
      obtain rfl : b.nextNumber = number := by simpa using own
      exact .inr ⟨rfl, (Option.some.inj new).symm⟩
    · cases new

/-- The numbers that have been given out are those of subscriptions. -/
theorem Numbered.isSome_find? {b : Broker α} (numbered : b.Numbered) {number : Nat} :
    (b.find? number).isSome ↔ number ≠ 0 ∧ number < b.nextNumber := by
  have nonzero : number ∈ b.subscriptions.map (·.number) → number ≠ 0 := by
    rintro inside rfl
    have all : (List.range b.nextNumber).Nodup := List.nodup_range
    rw [numbered] at all
    exact (List.nodup_cons.1 all).1 inside
  have inside : (b.find? number).isSome ↔ number ∈ b.subscriptions.map (·.number) := by
    simp [find?, List.find?_isSome]
  rw [inside, ← List.mem_range, numbered, List.mem_cons]
  tauto

/-- A subscription that is found after an operation was there before, with the same topic, or has
been made by it. -/
theorem Numbered.find?_act_cases {b : Broker α} (numbered : b.Numbered) {op : Operation α}
    {number : Nat} {s : Subscription α} (found : (b.act op).find? number = some s) :
    (∃ s', b.find? number = some s' ∧ s'.topic = s.topic) ∨
      op = .subscribe s.topic ∧ b.nextNumber = number ∧ b.capacity ≤ Queue.maxRoom := by
  have there : ((b.act op).find? number).isSome := by rw [found]; rfl
  rw [(numbered_act numbered op).isSome_find?] at there
  have old (same : (b.act op).nextNumber = b.nextNumber) :
      ∃ s', b.find? number = some s' ∧ s'.topic = s.topic := by
    rw [same, ← numbered.isSome_find?] at there
    obtain ⟨s', found'⟩ := Option.isSome_iff_exists.1 there
    obtain rfl : op.change b.capacity s' = s :=
      Option.some.inj ((find?_act found' op).symm.trans found)
    exact ⟨s', found', (change_topic _ _ _).symm⟩
  cases op with
  | subscribe topic =>
    by_cases room : b.capacity ≤ Queue.maxRoom
    · rw [act, if_pos room] at found
      obtain before | ⟨next, rfl⟩ := find?_subscribe_cases found
      · exact .inl ⟨s, before, rfl⟩
      · exact .inr ⟨rfl, next, room⟩
    · exact .inl (old (by rw [act, if_neg room]))
  | receive other =>
    refine .inl (old ?_)
    simp only [act, receive]
    split
    · rfl
    · split <;> rfl
  | _ => exact .inl (old rfl)

/-- How many subscriptions there are of which something holds is counted on their numbers as
well. -/
theorem Numbered.countP_eq {b : Broker α} (numbered : b.Numbered) (p : Subscription α → Bool) :
    b.subscriptions.countP p =
      (List.range b.nextNumber).countP fun number => (b.find? number).any p := by
  have zero : b.find? 0 = none := by
    rw [← Option.not_isSome_iff_eq_none, numbered.isSome_find?]
    simp
  rw [numbered, List.countP_cons, List.countP_map, zero]
  refine List.countP_congr fun s inside => ?_
  simp [(numbered.find?_eq_some (s := s)).2 ⟨inside, rfl⟩]

/-! ## Topics -/

/-- The topic that an operation is about: its own, or that of the queue it is asked of. -/
def topic? (b : Broker α) : Operation α → Option String
  | .subscribe topic | .unsubscribe topic _ | .broadcast topic _ => some topic
  | .receive number | .dismiss number => (b.find? number).map (·.topic)

/-- The subscriptions to a topic. -/
def subscribed (b : Broker α) (topic : String) : List (Subscription α) :=
  b.subscriptions.filter (·.topic == topic)

/-- A change of each subscription for itself that is none on a topic leaves those on it as they
are. -/
theorem subscribed_map {b : Broker α} {topic : String} {f : Subscription α → Subscription α}
    (same : ∀ s, (f s).topic = s.topic) (still : ∀ s ∈ b.subscriptions, s.topic = topic → f s = s) :
    subscribed { b with subscriptions := b.subscriptions.map f } topic = b.subscribed topic := by
  have kept : (fun s : Subscription α => s.topic == topic) ∘ f = (·.topic == topic) :=
    funext fun s => by simp [same]
  unfold subscribed
  rw [List.filter_map, kept]
  calc ((b.subscriptions.filter (·.topic == topic)).map f)
    _ = (b.subscriptions.filter (·.topic == topic)).map id :=
        List.map_congr_left fun s inside => by
          obtain ⟨there, own⟩ := List.mem_filter.1 inside
          exact still s there (by simpa using own)
    _ = b.subscriptions.filter (·.topic == topic) := List.map_id _

theorem not_listensTo {s : Subscription α} {topic other : String} (own : s.topic = topic)
    (apart : other ≠ topic) : s.listensTo other = false := by
  simp [Subscription.listensTo, own, apart.symm]

/-- What is asked about one topic leaves the subscriptions to all others as they are. -/
theorem subscribed_act {b : Broker α} (numbered : b.Numbered) {op : Operation α}
    {topic other : String} (about : b.topic? op = some other) (apart : other ≠ topic) :
    (b.act op).subscribed topic = b.subscribed topic := by
  have elsewhere {number : Nat} {s : Subscription α}
      (about : (b.find? number).map (·.topic) = some other) (inside : s ∈ b.subscriptions)
      (own : s.topic = topic) : s.number ≠ number := by
    rintro rfl
    rw [numbered.find?_eq_some.2 ⟨inside, rfl⟩] at about
    exact apart ((Option.some.inj about).symm.trans own)
  cases op with
  | subscribe new =>
    obtain rfl : new = other := Option.some.inj about
    simp only [act]
    split
    · simp [subscribed, subscribe, apart]
    · rfl
  | unsubscribe told number =>
    obtain rfl : told = other := Option.some.inj about
    refine subscribed_map (fun s => by split <;> rfl) fun s _ own => ?_
    simp [isRegistered, not_listensTo own apart]
  | broadcast told value =>
    obtain rfl : told = other := Option.some.inj about
    refine subscribed_map (fun s => by split <;> simp) fun s _ own => ?_
    simp [not_listensTo own apart]
  | receive number =>
    simp only [act, receive]
    split
    · rfl
    · split
      · refine subscribed_map (fun s => by split <;> rfl) fun s inside own => ?_
        simp [elsewhere about inside own]
      · rfl
  | dismiss number =>
    refine subscribed_map (fun s => by split <;> rfl) fun s inside own => ?_
    simp [elsewhere about inside own]

theorem subscriberCount_eq (b : Broker α) (topic : String) :
    b.subscriberCount topic = (b.subscribed topic).countP (·.registered) := by
  rw [subscribed, List.countP_filter, subscriberCount, List.countP_eq_length_filter]
  rfl

theorem mem_subscribed {b : Broker α} (numbered : b.Numbered) {number : Nat}
    {s : Subscription α} {topic : String} :
    s ∈ b.subscribed topic ∧ s.number = number ↔ b.find? number = some s ∧ s.topic = topic := by
  rw [numbered.find?_eq_some]
  simp only [subscribed, List.mem_filter, beq_iff_eq]
  tauto

/-- A queue is left as it is by what is asked about other topics. -/
theorem queue_apart {b : Broker α} (numbered : b.Numbered) {op : Operation α}
    {topic other : String} (about : b.topic? op = some other) (apart : other ≠ topic) {number : Nat}
    (own : (b.find? number).map (·.topic) = some topic) :
    (b.act op).queue number = b.queue number := by
  obtain ⟨s, found, told⟩ := Option.map_eq_some_iff.1 own
  have inside := (mem_subscribed numbered).2 ⟨found, told⟩
  rw [← subscribed_act numbered about apart] at inside
  rw [queue_of_find? found, queue_of_find? ((mem_subscribed (numbered_act numbered op)).1 inside).1]

/-- A subscription can be unsubscribed while it is registered under the topic. -/
theorem Numbered.unsubscribe_eq {b : Broker α} (numbered : b.Numbered) (topic : String)
    (number : Nat) :
    (b.unsubscribe topic number).1 = (b.find? number).any (·.listensTo topic) := by
  rw [Bool.eq_iff_iff]
  simp only [unsubscribe, List.any_eq_true, Option.any_eq_true, numbered.find?_eq_some,
    isRegistered, Bool.and_eq_true, beq_iff_eq]
  tauto

/-- The subscribers of a topic are the subscriptions that can be unsubscribed from it. -/
theorem Numbered.subscriberCount_eq_unsubscribe {b : Broker α} (numbered : b.Numbered)
    (topic : String) :
    b.subscriberCount topic =
      (List.range b.nextNumber).countP fun number => (b.unsubscribe topic number).1 := by
  simp only [numbered.unsubscribe_eq]
  rw [← numbered.countP_eq, List.countP_eq_length_filter]
  rfl

end Steward.Broker
