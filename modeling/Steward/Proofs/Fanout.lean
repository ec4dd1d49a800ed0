import Steward.Proofs.Subscriptions

/-!
# What a broker does for each subscription

A history of operations says what each subscription is to get: what is broadcast on its topic while
it is listening and has room. The broker keeps no history, only queues and registrations; that
these come to the same is shown along the history, operation by operation, for one subscription at
a time. Main statements: `story` and `fansOut`.
-/

namespace Steward

/-! ## Moments -/

/-- Each entry of a history with those that came before it, after some first ones. -/
def momentsFrom {ε : Type} (first : List ε) : List ε → List (List ε × ε)
  | [] => []
  | entry :: later => (first, entry) :: momentsFrom (first ++ [entry]) later

/-- Each entry of a history with those that came before it. -/
def moments {ε : Type} (history : List ε) : List (List ε × ε) :=
  momentsFrom [] history

theorem momentsFrom_concat {ε : Type} (first history : List ε) (entry : ε) :
    momentsFrom first (history ++ [entry]) =
      momentsFrom first history ++ [(first ++ history, entry)] := by
  induction history generalizing first with
  | nil => simp [momentsFrom]
  | cons other later ih => simp [momentsFrom, ih]

theorem moments_concat {ε : Type} (history : List ε) (entry : ε) :
    moments (history ++ [entry]) = moments history ++ [(history, entry)] :=
  momentsFrom_concat [] history entry

namespace Broker

variable {α : Type}

/-! ## Histories -/

/-- The operation unsubscribes a subscription. -/
def Operation.unsubscribes (topic : String) (number : Nat) : Operation α → Bool
  | .unsubscribe told other => told == topic && other == number
  | _ => false

/-- With the operation, the listener of a subscription goes away. -/
def Operation.dismisses (number : Nat) : Operation α → Bool
  | .dismiss other => other == number
  | _ => false

/-- What a registration ends by: it is unsubscribed, or a broadcast finds that the listener has
gone. -/
def Operation.ends (topic : String) (number : Nat) (earlier : List (Operation α)) :
    Operation α → Bool
  | .broadcast told _ => told == topic && earlier.any (·.dismisses number)
  | op => op.unsubscribes topic number

/-- Nothing in a history ends the registration of a subscription. -/
def remains (topic : String) (number : Nat) (history : List (Operation α)) : Bool :=
  (moments history).all fun moment => !moment.2.ends topic number moment.1

/-- Somebody listens to a subscription: it was not unsubscribed, nor has its listener gone. -/
def listening (topic : String) (number : Nat) (history : List (Operation α)) : Bool :=
  !history.any fun op => op.unsubscribes topic number || op.dismisses number

/-- What a subscription is to get from an operation: an update on its topic that comes while it is
listening and has room. -/
def due (start : Broker α) (topic : String) (number : Nat) :
    List (Operation α) × Operation α → Option α
  | (earlier, .broadcast told value) =>
    if told = topic ∧ listening topic number earlier ∧
        ((start.after earlier).queue number).length < start.capacity then some value
    else none
  | _ => none

/-- All that a subscription is to get, in the order in which it is broadcast. -/
def accepted (start : Broker α) (topic : String) (number : Nat) (history : List (Operation α)) :
    List α :=
  (moments history).filterMap (due start topic number)

/-- The update that an answer brings. -/
def item? : Received α → Option α
  | .item value => some value
  | .empty | .closed => none

/-- What a listener gets by an operation, as the broker answers it. -/
def taken (start : Broker α) (number : Nat) : List (Operation α) × Operation α → Option α
  | (earlier, .receive other) =>
    if other = number then item? ((start.after earlier).receive number).1 else none
  | _ => none

/-- All that a listener gets, in the order in which it is received. -/
def received (start : Broker α) (number : Nat) (history : List (Operation α)) : List α :=
  (moments history).filterMap (taken start number)

section Concat

variable (start : Broker α) (topic : String) (number : Nat) (history : List (Operation α))
  (op : Operation α)

theorem filterMap_moments_concat (f : List (Operation α) × Operation α → Option α) :
    (moments (history ++ [op])).filterMap f =
      (moments history).filterMap f ++ (f (history, op)).toList := by
  rw [moments_concat, List.filterMap_append]
  cases found : f (history, op) <;> simp [found]

theorem accepted_concat :
    accepted start topic number (history ++ [op]) =
      accepted start topic number history ++ (due start topic number (history, op)).toList :=
  filterMap_moments_concat history op _

theorem received_concat :
    received start number (history ++ [op]) =
      received start number history ++ (taken start number (history, op)).toList :=
  filterMap_moments_concat history op _

theorem remains_concat :
    remains topic number (history ++ [op]) =
      (remains topic number history && !op.ends topic number history) := by
  simp [remains, moments_concat]

theorem listening_concat :
    listening topic number (history ++ [op]) =
      (listening topic number history &&
        !(op.unsubscribes topic number || op.dismisses number)) := by
  simp [listening]

end Concat

/-! ## The story of one subscription -/

/-- A subscription is in the state that its history calls for. -/
structure Story (start : Broker α) (topic : String) (number : Nat) (history : List (Operation α))
    (s : Subscription α) : Prop where
  named : s.number = number
  told : s.topic = topic
  registered : s.registered = remains topic number history
  attended : s.attended = !history.any (·.dismisses number)
  heard : (s.registered && s.attended) = listening topic number history
  /-- What came into the queue has been received or is still there. -/
  delivered : s.attended = true →
    received start number history ++ s.pending = accepted start topic number history
  /-- What has been received came into the queue. -/
  begun : received start number history <+: accepted start topic number history
  /-- With the listener goes what is in the queue. -/
  deserted : s.attended = false → s.pending = []

theorem item?_receive {b : Broker α} {number : Nat} {s : Subscription α}
    (found : b.find? number = some s) : item? (b.receive number).1 = s.pending.head? := by
  cases waiting : s.pending with
  | nil =>
    rw [receive_drained found waiting]
    cases s.registered <;> rfl
  | cons value rest =>
    rw [receive_waiting found waiting]
    rfl

theorem taken_receive {start : Broker α} {number : Nat} {history : List (Operation α)}
    {s : Subscription α} (found : (start.after history).find? number = some s) :
    taken start number (history, .receive number) = s.pending.head? := by
  simp only [taken, if_true]
  exact item?_receive found

section Steps

variable {start : Broker α} {topic : String} {number : Nat} {history : List (Operation α)}
  {s : Subscription α}

/-- What is of no concern to a subscription leaves its story as it is. -/
theorem Story.still (story : Story start topic number history s) {op : Operation α}
    (goesOn : remains topic number history = true → op.ends topic number history = false)
    (kept : op.unsubscribes topic number = false) (there : op.dismisses number = false)
    (none : due start topic number (history, op) = none)
    (untouched : taken start number (history, op) = Option.none) :
    Story start topic number (history ++ [op]) s where
  named := story.named
  told := story.told
  registered := by
    rw [remains_concat, story.registered]
    cases remained : remains topic number history with
    | true => simp [goesOn remained]
    | false => rfl
  attended := by rw [story.attended]; simp [there]
  heard := by rw [listening_concat, kept, there, story.heard]; simp
  delivered := by simpa [received_concat, accepted_concat, none, untouched] using story.delivered
  begun := by simpa [received_concat, accepted_concat, none, untouched] using story.begun
  deserted := story.deserted

theorem Story.unsubscribed (story : Story start topic number history s) :
    Story start topic number (history ++ [.unsubscribe topic number])
      { s with registered := false } where
  named := story.named
  told := story.told
  registered := by simp [remains_concat, Operation.ends, Operation.unsubscribes]
  attended := by rw [story.attended]; simp [Operation.dismisses]
  heard := by simp [listening_concat, Operation.unsubscribes]
  delivered := by simpa [received_concat, accepted_concat, taken, due] using story.delivered
  begun := by simpa [received_concat, accepted_concat, taken, due] using story.begun
  deserted := story.deserted

theorem Story.dismissed (story : Story start topic number history s) :
    Story start topic number (history ++ [.dismiss number])
      { s with pending := [], attended := false } where
  named := story.named
  told := story.told
  registered := by
    rw [remains_concat, story.registered]
    simp [Operation.ends, Operation.unsubscribes]
  attended := by simp [Operation.dismisses]
  heard := by simp [listening_concat, Operation.dismisses]
  delivered := nofun
  begun := by simpa [received_concat, accepted_concat, taken, due] using story.begun
  deserted := fun _ => rfl

theorem Story.received_own (found : (start.after history).find? number = some s)
    (story : Story start topic number history s) :
    Story start topic number (history ++ [.receive number])
      { s with pending := s.pending.tail } where
  named := story.named
  told := story.told
  registered := by
    rw [remains_concat, story.registered]
    simp [Operation.ends, Operation.unsubscribes]
  attended := by rw [story.attended]; simp [Operation.dismisses]
  heard := by
    rw [listening_concat, story.heard]
    simp [Operation.unsubscribes, Operation.dismisses]
  delivered := fun there => by
    have all := story.delivered there
    rw [received_concat, accepted_concat, taken_receive found, ← all]
    cases s.pending <;> simp [due]
  begun := by
    rw [received_concat, accepted_concat, taken_receive found]
    cases there : s.attended with
    | true =>
      rw [← story.delivered there]
      cases s.pending <;> simp [due]
    | false => simpa [story.deserted there, due] using story.begun
  deserted := fun gone => by rw [story.deserted gone]; rfl

/-- A registered subscription is offered an update on its topic: it takes it, has no room for it,
or turns out to be deserted. -/
theorem Story.offered (found : (start.after history).find? number = some s)
    (story : Story start topic number history s) (registered : s.registered = true) (value : α) :
    Story start topic number (history ++ [.broadcast topic value])
      (s.offer start.capacity value) := by
  have remained : remains topic number history = true := story.registered.symm.trans registered
  have heard : listening topic number history = s.attended := by
    rw [← story.heard, registered, Bool.true_and]
  have deserted : history.any (·.dismisses number) = !s.attended := by simp [story.attended]
  have offer : due start topic number (history, .broadcast topic value) =
      if s.accepts start.capacity then some value else none := by
    simp [due, heard, queue_of_find? found, Subscription.accepts]
  have ended : remains topic number (history ++ [.broadcast topic value]) = s.attended := by
    simp [remains_concat, remained, Operation.ends, deserted]
  have same : listening topic number (history ++ [.broadcast topic value]) = s.attended := by
    simp [listening_concat, heard, Operation.unsubscribes, Operation.dismisses]
  have any : s.attended =
      !(history ++ [Operation.broadcast topic value]).any (·.dismisses number) := by
    simp [story.attended, Operation.dismisses]
  have all : accepted start topic number (history ++ [.broadcast topic value]) =
      accepted start topic number history ++
        (if s.accepts start.capacity then [value] else []) := by
    rw [accepted_concat, offer]
    split <;> rfl
  have got : received start number (history ++ [.broadcast topic value]) =
      received start number history := by
    simp [received_concat, taken]
  unfold Subscription.offer
  split
  · next room =>
    have there : s.attended = true := by
      simp only [Subscription.accepts, Bool.and_eq_true] at room
      exact room.1
    refine ⟨story.named, story.told, ?_, any, ?_, fun _ => ?_, ?_, fun gone => ?_⟩
    · rw [ended, there, registered]
    · rw [same, registered, Bool.true_and]
    · rw [got, all, if_pos room, ← story.delivered there, List.append_assoc]
    · rw [got, all]
      exact story.begun.trans (List.prefix_append _ _)
    · exact absurd (there.symm.trans gone) (by simp)
  · next full =>
    rw [if_neg full, List.append_nil] at all
    split
    · next there =>
      refine ⟨story.named, story.told, ?_, any, ?_, fun _ => ?_, ?_, story.deserted⟩
      · rw [ended, there, registered]
      · rw [same, registered, Bool.true_and]
      · rw [got, all, story.delivered there]
      · rw [got, all]
        exact story.begun
    · next gone =>
      refine ⟨story.named, story.told, ?_, any, ?_, fun there => absurd there gone, ?_,
        story.deserted⟩
      · rw [ended]
        simpa using gone
      · rw [same]
        simpa using gone
      · rw [got, all]
        exact story.begun

/-- One operation takes the story of a subscription one step further. -/
theorem Story.step (found : (start.after history).find? number = some s)
    (story : Story start topic number history s) (op : Operation α) :
    Story start topic number (history ++ [op]) (op.change start.capacity s) := by
  have named := story.named
  have told := story.told
  cases op with
  | subscribe other => exact story.still (fun _ => rfl) rfl rfl rfl rfl
  | unsubscribe other number' =>
    by_cases own : other = topic ∧ number' = number
    · obtain ⟨rfl, rfl⟩ := own
      subst named told
      rw [change_unsubscribe]
      exact story.unsubscribed
    · have apart : (Operation.unsubscribe other number' : Operation α).unsubscribes topic number =
          false := by
        simpa [Operation.unsubscribes] using own
      rw [Operation.change,
        if_neg (by simp [isRegistered, Subscription.listensTo, named, told]; tauto)]
      exact story.still (fun _ => apart) apart rfl rfl rfl
  | broadcast other value =>
    simp only [Operation.change, Subscription.listensTo, told]
    by_cases own : other = topic
    · subst own
      cases registered : s.registered with
      | true => simpa using story.offered found registered value
      | false =>
        have ended : remains other number history = false := story.registered.symm.trans registered
        have unheard : listening other number history = false := by
          rw [← story.heard, registered, Bool.false_and]
        refine story.still (fun remained => ?_) rfl rfl (by simp [due, unheard]) rfl
        rw [ended] at remained
        cases remained
    · rw [if_neg (by simp [Ne.symm own])]
      exact story.still (fun _ => by simp [Operation.ends, own]) rfl rfl (by simp [due, own]) rfl
  | receive other =>
    simp only [Operation.change]
    by_cases own : other = number
    · subst own
      rw [if_pos (by simpa using named)]
      exact story.received_own found
    · rw [if_neg (by simpa [named] using Ne.symm own)]
      exact story.still (fun _ => rfl) rfl rfl rfl (by simp [taken, own])
  | dismiss other =>
    simp only [Operation.change]
    by_cases own : other = number
    · subst own
      rw [if_pos (by simpa using named)]
      exact story.dismissed
    · rw [if_neg (by simpa [named] using Ne.symm own)]
      exact story.still (fun _ => rfl) rfl (by simpa [Operation.dismisses] using own) rfl rfl

end Steps

/-- Every subscription is at all times in the state that its history calls for. -/
theorem story {start : Broker α} {topic : String} {number : Nat}
    (made : start.find? number = some { number := number, topic := topic })
    (history : List (Operation α)) :
    ∃ s, (start.after history).find? number = some s ∧ Story start topic number history s := by
  induction history using List.reverseRecOn with
  | nil => exact ⟨_, made, rfl, rfl, rfl, rfl, rfl, fun _ => rfl, List.prefix_rfl, nofun⟩
  | append_singleton history op ih =>
    obtain ⟨s, found, story⟩ := ih
    have changed := find?_act found op
    rw [capacity_after] at changed
    exact ⟨_, by rw [after_concat]; exact changed, story.step found op⟩

/-- A subscription that is not registered gets nothing more, and loses nothing that it has. -/
theorem find?_after_over {b : Broker α} {number : Nat} {s : Subscription α}
    (found : b.find? number = some s) (ended : s.registered = false)
    (more : List (Operation α)) :
    ∃ s', (b.after more).find? number = some s' ∧ s'.registered = false ∧
      (more.any (·.dismisses number) = false →
        received b number more ++ s'.pending = s.pending) := by
  induction more using List.reverseRecOn with
  | nil => exact ⟨s, found, ended, fun _ => rfl⟩
  | append_singleton more op ih =>
    obtain ⟨s', found', ended', all⟩ := ih
    have named := find?_number found'
    refine ⟨_, by rw [after_concat]; exact find?_act found' op, change_over ended', fun there => ?_⟩
    simp only [List.any_append, List.any_cons, List.any_nil, Bool.or_false,
      Bool.or_eq_false_iff] at there
    rw [received_concat, ← all there.1, List.append_assoc, List.append_cancel_left_eq]
    cases op with
    | subscribe topic => rfl
    | unsubscribe topic other =>
      simp [taken, Operation.change, isRegistered, Subscription.listensTo, ended']
    | broadcast topic value => simp [taken, Operation.change, Subscription.listensTo, ended']
    | receive other =>
      by_cases own : other = number
      · subst own
        rw [taken_receive found', Operation.change, if_pos (by simpa using named)]
        cases s'.pending <;> rfl
      · rw [Operation.change, if_neg (by simpa [named] using Ne.symm own)]
        simp [taken, own]
    | dismiss other =>
      have apart : other ≠ number := by simpa [Operation.dismisses] using there.2
      rw [Operation.change, if_neg (by simpa [named] using apart.symm)]
      rfl

/-- A subscription that is registered has been so all the time. -/
theorem listensTo_of_after {b : Broker α} {topic : String} {number : Nat} {made s : Subscription α}
    (there : b.find? number = some made) {passed rest : List (Operation α)}
    (found : (b.after (passed ++ rest)).find? number = some s)
    (listens : s.listensTo topic = true) :
    ∃ s', (b.after passed).find? number = some s' ∧ s'.listensTo topic = true := by
  obtain ⟨s₁, found₁, -⟩ := find?_after there passed
  obtain ⟨s₂, found₂, told⟩ := find?_after found₁ rest
  rw [after_append] at found
  obtain rfl : s₂ = s := Option.some.inj (found₂.symm.trans found)
  simp only [Subscription.listensTo, Bool.and_eq_true, beq_iff_eq] at listens ⊢
  refine ⟨s₁, found₁, ?_, told ▸ listens.2⟩
  by_contra ended
  obtain ⟨s₃, found₃, ended', -⟩ := find?_after_over found₁ (by simpa using ended) rest
  obtain rfl : s₃ = s₂ := Option.some.inj (found₃.symm.trans found)
  exact absurd (ended'.symm.trans listens.1) (by simp)

/-! ## A subscription with room -/

/-- Somebody listens to a subscription of the broker. -/
structure Listens (b : Broker α) (topic : String) (number : Nat) (s : Subscription α) : Prop where
  found : b.find? number = some s
  told : s.topic = topic
  registered : s.registered = true
  attended : s.attended = true

/-- What an operation broadcasts on a topic. -/
def Operation.news (topic : String) : Operation α → List α
  | .broadcast told value => if told = topic then [value] else []
  | _ => []

/-- What an operation takes out of a queue. -/
def Operation.got (number : Nat) (pending : List α) : Operation α → List α
  | .receive other => if other = number then pending.head?.toList else []
  | _ => []

/-- While it is kept and has room, a subscription gets all news of its topic. -/
theorem Listens.act {b : Broker α} {topic : String} {number : Nat} {s : Subscription α}
    (listens : b.Listens topic number s) (op : Operation α)
    (kept : op.unsubscribes topic number = false) (there : op.dismisses number = false)
    (roomy : op.news topic ≠ [] → s.pending.length < b.capacity) :
    ∃ s', (b.act op).Listens topic number s' ∧
      s.pending ++ op.news topic = op.got number s.pending ++ s'.pending := by
  obtain ⟨found, rfl, registered, attended⟩ := listens
  obtain rfl := find?_number found
  have changed := find?_act found op
  have still (same : op.change b.capacity s = s) : (b.act op).Listens s.topic s.number s :=
    ⟨by rw [changed, same], rfl, registered, attended⟩
  cases op with
  | subscribe other => exact ⟨s, still rfl, by simp [Operation.news, Operation.got]⟩
  | unsubscribe other number' =>
    refine ⟨s, still (if_neg ?_), by simp [Operation.news, Operation.got]⟩
    simp only [Operation.unsubscribes, Bool.and_eq_false_iff, beq_eq_false_iff_ne] at kept
    simp only [isRegistered, Subscription.listensTo, Bool.and_eq_true, beq_iff_eq]
    tauto
  | broadcast other value =>
    by_cases own : other = s.topic
    · subst own
      have room : s.accepts b.capacity = true := by
        simpa [Subscription.accepts, attended] using roomy (by simp [Operation.news])
      have offered : (Operation.broadcast s.topic value).change b.capacity s =
          { s with pending := s.pending ++ [value] } := by
        simp [Operation.change, Subscription.listensTo, registered, Subscription.offer, room]
      refine ⟨{ s with pending := s.pending ++ [value] }, ⟨?_, rfl, registered, attended⟩, ?_⟩
      · rw [changed, offered]
      · simp [Operation.news, Operation.got]
    · refine ⟨s, still (if_neg ?_), by simp [Operation.news, Operation.got, own]⟩
      simp [Subscription.listensTo, Ne.symm own]
  | receive other =>
    by_cases own : other = s.number
    · subst own
      refine ⟨{ s with pending := s.pending.tail }, ⟨?_, rfl, registered, attended⟩, ?_⟩
      · rw [changed, Operation.change, if_pos (by simp)]
      · cases s.pending <;> simp [Operation.news, Operation.got]
    · refine ⟨s, still (if_neg (by simpa using Ne.symm own)), ?_⟩
      simp [Operation.news, Operation.got, own]
  | dismiss other =>
    have apart : other ≠ s.number := by simpa [Operation.dismisses] using there
    refine ⟨s, still (if_neg (by simpa using apart.symm)), ?_⟩
    simp [Operation.news, Operation.got]

/-! ## All subscriptions -/

/-- A subscription that is found was made at some point of the history. -/
theorem made_of_find? {capacity : Nat} {history : List (Operation α)} {number : Nat}
    {s : Subscription α}
    (found : ((ofCapacity capacity).after history).find? number = some s) :
    ∃ earlier later, history = earlier ++ .subscribe s.topic :: later ∧
      ((ofCapacity capacity : Broker α).after earlier).nextNumber = number ∧
      max capacity 1 ≤ Queue.maxRoom := by
  induction history using List.reverseRecOn generalizing s with
  | nil => cases found
  | append_singleton history op ih =>
    rw [after_concat] at found
    obtain ⟨s', before, same⟩ | ⟨rfl, next, room⟩ :=
      (numbered_after capacity history).find?_act_cases found
    · obtain ⟨earlier, later, rfl, next, room⟩ := ih before
      exact ⟨earlier, later ++ [op], by simp [same], next, room⟩
    · exact ⟨history, [], rfl, next, by simpa [ofCapacity] using room⟩

/-- What a broker does for one subscription in the time after it was made. -/
structure Serves (start : Broker α) (topic : String) (number : Nat)
    (history : List (Operation α)) : Prop where
  /-- The listener gets what it is to get, in the same order, each update once. -/
  inOrder : received start number history <+: accepted start topic number history
  /-- What a listener that has not gone has not got yet waits in the queue, and nothing else. -/
  complete : history.any (·.dismisses number) = false →
    received start number history ++ (start.after history).queue number =
      accepted start topic number history
  /-- Receiving finds the oldest update in the queue; an empty queue is closed once the
  registration is over. -/
  answered : ((start.after history).receive number).1 =
    match (start.after history).queue number with
    | value :: _ => .item value
    | [] => if remains topic number history then .empty else .closed
  /-- After unsubscribing, what is in the queue is still received, and nothing more; then the queue
  is closed. -/
  drained : ∀ more : List (Operation α), more.any (·.dismisses number) = false →
    let closing := ((start.after history).unsubscribe topic number).2
    received closing number more ++ (closing.after more).queue number =
        (start.after history).queue number ∧
      ((closing.after more).queue number = [] →
        ((closing.after more).receive number).1 = .closed)

theorem serves {start : Broker α} {topic : String} {number : Nat}
    (made : start.find? number = some { number := number, topic := topic })
    (history : List (Operation α)) : Serves start topic number history := by
  obtain ⟨s, found, story⟩ := story made history
  have queued : (start.after history).queue number = s.pending := queue_of_find? found
  refine ⟨story.begun, fun there => ?_, ?_, fun more there => ?_⟩
  · rw [queued, story.delivered (by rw [story.attended, there]; rfl)]
  · rw [queued, ← story.registered]
    cases waiting : s.pending with
    | nil => rw [receive_drained found waiting]
    | cons value rest => rw [receive_waiting found waiting]
  · have closing : ((start.after history).unsubscribe topic number).2.find? number =
        some { s with registered := false } := by
      rw [find?_unsubscribe, found, Option.map_some, ← story.told, ← story.named,
        change_unsubscribe]
    obtain ⟨s', found', ended, all⟩ := find?_after_over closing rfl more
    show _ ++ Broker.queue _ _ = _ ∧ (Broker.queue _ _ = _ → _)
    rw [queue_of_find? found']
    refine ⟨by rw [all there, queued], fun empty => ?_⟩
    rw [receive_drained found' empty, ended]
    rfl

/-- The queue of a subscription takes an update when it is broadcast. -/
def takes (b : Broker α) (topic : String) (value : α) (number : Nat) : Bool :=
  (b.queue number).length < ((b.broadcast topic value).2.queue number).length

theorem pending_broadcast (capacity : Nat) (topic : String) (value : α) (s : Subscription α) :
    ((Operation.broadcast topic value).change capacity s).pending =
      s.pending ++ if s.listensTo topic && s.accepts capacity then [value] else [] := by
  simp only [Operation.change, Subscription.offer]
  cases s.listensTo topic with
  | false => simp
  | true =>
    cases s.accepts capacity with
    | true => simp
    | false => cases attended : s.attended <;> simp

theorem takes_eq (b : Broker α) (topic : String) (value : α) (number : Nat) :
    b.takes topic value number =
      (b.find? number).any fun s => s.listensTo topic && s.accepts b.capacity := by
  simp only [takes, queue, find?_broadcast]
  cases b.find? number with
  | none => simp
  | some s =>
    simp only [Option.map_some, Option.getD_some, Option.any_some, pending_broadcast]
    cases s.listensTo topic && s.accepts b.capacity <;> simp

/-- A broadcast puts the update at the end of the queues that take it, and leaves the others. -/
theorem queue_broadcast (b : Broker α) (topic : String) (value : α) (number : Nat) :
    (b.broadcast topic value).2.queue number =
      b.queue number ++ if b.takes topic value number then [value] else [] := by
  rw [takes_eq]
  simp only [queue, find?_broadcast]
  cases b.find? number with
  | none => simp
  | some s =>
    rw [Option.map_some, Option.map_some, pending_broadcast]
    rfl

/-- The answer to a broadcast is the number of queues that take the update. -/
theorem Numbered.broadcast_eq {b : Broker α} (numbered : b.Numbered) (topic : String) (value : α) :
    (b.broadcast topic value).1 = (List.range b.nextNumber).countP (b.takes topic value) := by
  rw [List.countP_congr fun number _ => by rw [takes_eq], ← numbered.countP_eq,
    List.countP_eq_length_filter]
  rfl

/-- What was unsubscribed is not there to be unsubscribed again. -/
theorem Numbered.unsubscribe_once {b : Broker α} (numbered : b.Numbered) {topic : String}
    {number : Nat} (there : (b.unsubscribe topic number).1 = true) (more : List (Operation α))
    (other : String) :
    (((b.unsubscribe topic number).2.after more).unsubscribe other number).1 = false := by
  have again : (b.unsubscribe topic number).2.Numbered :=
    numbered_act numbered (.unsubscribe topic number)
  rw [numbered.unsubscribe_eq, Option.any_eq_true] at there
  obtain ⟨s, found, listens⟩ := there
  obtain rfl : s.topic = topic := by
    simp only [Subscription.listensTo, Bool.and_eq_true, beq_iff_eq] at listens
    exact listens.2
  obtain rfl := find?_number found
  have closed : (b.unsubscribe s.topic s.number).2.find? s.number =
      some { s with registered := false } := by
    rw [find?_unsubscribe, found, Option.map_some, change_unsubscribe]
  obtain ⟨s', found', ended, -⟩ := find?_after_over closed rfl more
  rw [(again.after more).unsubscribe_eq, found', Option.any_some, Subscription.listensTo, ended,
    Bool.false_and]

/-- An update on its topic comes into the queue of one who listens if there is room. -/
theorem Listens.queue_broadcast {b : Broker α} {topic : String} {number : Nat} {s : Subscription α}
    (listens : b.Listens topic number s) (value : α) :
    (b.broadcast topic value).2.queue number =
      s.pending ++ if s.pending.length < b.capacity then [value] else [] := by
  obtain ⟨found, told, registered, attended⟩ := listens
  rw [Broker.queue_broadcast, takes_eq, found, queue_of_find? found]
  simp [Subscription.listensTo, Subscription.accepts, told, registered, attended]

/-- A subscription that was made in a history is found after it, with its story. -/
theorem story_of_made {capacity number : Nat} (topic : String) {earlier : List (Operation α)}
    (next : ((ofCapacity capacity : Broker α).after earlier).nextNumber = number)
    (room : max capacity 1 ≤ Queue.maxRoom) (later : List (Operation α)) :
    ∃ s start, ((ofCapacity capacity).after (earlier ++ .subscribe topic :: later)).find? number =
      some s ∧ Story start topic number later s := by
  subst next
  obtain ⟨s, found, story⟩ :=
    story ((numbered_after capacity earlier).find?_subscribe topic) later
  refine ⟨s, _, ?_, story⟩
  rw [after_append, after_cons, act, if_pos (by rw [capacity_after]; exact room)]
  exact found

/-- What a broker does, with room for `capacity` updates in its queues. -/
structure FansOut (α : Type) (capacity : Nat) : Prop where
  /-- A queue has room for one update at least. -/
  roomy : ∀ history, ((ofCapacity capacity : Broker α).after history).capacity = max capacity 1
  /-- Each subscription is served from when it is made. -/
  served : max capacity 1 ≤ Queue.maxRoom → ∀ earlier later (topic : String),
    let b : Broker α := (ofCapacity capacity).after earlier
    Serves (b.subscribe topic).2 topic (b.subscribe topic).1 later
  /-- The answer to a broadcast is the number of queues that take the update, at their end. -/
  counted : ∀ history topic (value : α),
    let b : Broker α := (ofCapacity capacity).after history
    (b.broadcast topic value).1 = (List.range b.nextNumber).countP (b.takes topic value) ∧
      ∀ number, (b.broadcast topic value).2.queue number =
        b.queue number ++ if b.takes topic value number then [value] else []
  /-- A subscription can be unsubscribed if it has been made under the topic and nothing has ended
  its registration since. -/
  present : ∀ history topic number,
    (((ofCapacity capacity : Broker α).after history).unsubscribe topic number).1 = true ↔
      ∃ earlier later, history = earlier ++ .subscribe topic :: later ∧
        ((ofCapacity capacity : Broker α).after earlier).nextNumber = number ∧
        max capacity 1 ≤ Queue.maxRoom ∧ remains topic number later = true
  /-- It is unsubscribed once at most. -/
  once : ∀ history topic number,
    let b : Broker α := (ofCapacity capacity).after history
    (b.unsubscribe topic number).1 = true → ∀ more other,
      (((b.unsubscribe topic number).2.after more).unsubscribe other number).1 = false
  /-- The subscribers of a topic are the subscriptions that can be unsubscribed from it. -/
  subscribers : ∀ history topic,
    let b : Broker α := (ofCapacity capacity).after history
    b.subscriberCount topic =
      (List.range b.nextNumber).countP fun number => (b.unsubscribe topic number).1
  /-- What is asked about one topic changes no queue and no count of another. -/
  apart : ∀ history op topic other,
    let b : Broker α := (ofCapacity capacity).after history
    b.topic? op = some other → other ≠ topic →
      (b.act op).subscriberCount topic = b.subscriberCount topic ∧
        ∀ number, (b.find? number).map (·.topic) = some topic →
          (b.act op).queue number = b.queue number

/-- The broker of every capacity does, in every history, what its subscriptions call for. -/
theorem fansOut (α : Type) (capacity : Nat) : FansOut α capacity where
  roomy history := capacity_after _ history
  served room earlier later topic :=
    serves ((numbered_after capacity earlier).find?_subscribe topic) later
  counted history topic value :=
    ⟨(numbered_after capacity history).broadcast_eq topic value, queue_broadcast _ topic value⟩
  present history topic number := by
    rw [(numbered_after capacity history).unsubscribe_eq, Option.any_eq_true]
    simp only [Subscription.listensTo, Bool.and_eq_true, beq_iff_eq]
    constructor
    · rintro ⟨s, found, registered, rfl⟩
      obtain ⟨earlier, later, rfl, next, room⟩ := made_of_find? found
      obtain ⟨s', start, found', story⟩ := story_of_made s.topic next room later
      obtain rfl : s = s' := Option.some.inj (found.symm.trans found')
      exact ⟨earlier, later, rfl, next, room, story.registered ▸ registered⟩
    · rintro ⟨earlier, later, rfl, next, room, remained⟩
      obtain ⟨s, start, found, story⟩ := story_of_made topic next room later
      exact ⟨s, found, story.registered.trans remained, story.told⟩
  once history topic number there more other :=
    (numbered_after capacity history).unsubscribe_once there more other
  subscribers history topic :=
    (numbered_after capacity history).subscriberCount_eq_unsubscribe topic
  apart history op topic other about apart := by
    have numbered := numbered_after capacity history
    refine ⟨?_, fun number own => queue_apart numbered about apart own⟩
    rw [subscriberCount_eq, subscriberCount_eq, subscribed_act numbered about apart]

/-- With room for one update, the second of two is lost, and what comes after the first has been
received is not. -/
theorem fansOut_narrow :
    let start : Broker Nat := ((ofCapacity 0).subscribe "a").2
    let history : List (Operation Nat) :=
      [.broadcast "a" 1, .broadcast "a" 2, .receive 1, .broadcast "b" 3, .broadcast "a" 4]
    received start 1 history ++ (start.after history).queue 1 = [1, 4] :=
  (((fansOut Nat 0).served (by decide) [] _ "a").complete (by decide)).trans (by decide)

end Broker

end Steward
