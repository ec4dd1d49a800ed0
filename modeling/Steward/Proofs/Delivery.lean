import Steward.Proofs.DefaultInstances
import Steward.Proofs.Overwrites
import Mathlib.Data.List.Nodup

/-!
# Delivery

What an exchange makes of the requests that are sent through it, in whatever order its events
happen. A history keeps apart what callers have sent, what the channel has accepted, what the
service has taken out of it and what the work on it has ended with; the invariant `Tally` relates
these lists to the exchange, one lemma for each kind of event. Main statements: `Tally.step`,
`tally` and `runs_deliver`.
-/

namespace Steward

/-! ## What work may end with -/

/-- What each operation of a service may end with, for a call and an argument. Nothing is said of
how long it takes or what else happens meanwhile. -/
structure Conduct (R : Type) where
  create : Call → R → Reply R → Prop
  update : Call → R → Reply R → Prop
  apply : Call → R → Reply R → Prop
  delete : Call → String → Reply R → Prop
  get : Call → String → Reply R → Prop
  getByReference : Call → Reference → Reply R → Prop

/-- What the operation that a request asks for may end with. -/
def Conduct.MayEnd {R : Type} (conduct : Conduct R) (call : Call) : Message R → Reply R → Prop
  | .create resource => conduct.create call resource
  | .update resource => conduct.update call resource
  | .apply resource => conduct.apply call resource
  | .delete id => conduct.delete call id
  | .get id => conduct.get call id
  | .getByReference reference => conduct.getByReference call reference

/-- What a caller is sent of an outcome: nothing if the work broke off. -/
def Reply.ofOutcome {R : Type} : Except Stop R → Reply R
  | .ok resource => some (.ok resource)
  | .error (.failed failure) => some (.error failure)
  | .error (.broken _) => none

/-- In some world the operation ends with the reply. -/
def Op.EndsWith {Item R : Type} (op : Op Item R) (reply : Reply R) : Prop :=
  ∃ w, Reply.ofOutcome (op.outcome w).1 = reply

/-- What the operations of a controller end with when nothing else happens meanwhile. -/
def Controller.conduct {Item R : Type} (c : Controller Item R) : Conduct R where
  create call resource := (c.create call resource).EndsWith
  update call resource := (c.update call resource).EndsWith
  apply call resource := (c.apply call resource).EndsWith
  delete call id := (c.delete call id).EndsWith
  get call id := (c.get call id).EndsWith
  getByReference call reference := (c.getByReference call reference).EndsWith

/-- The work on a request is what the controller does for it. -/
theorem Controller.mayEnd_conduct {Item R : Type} (c : Controller Item R) (call : Call)
    (message : Message R) (reply : Reply R) :
    c.conduct.MayEnd call message reply ↔ (c.handle call message).EndsWith reply := by
  cases message <;> rfl

/-! ## Interceptors -/

namespace Interceptor

/-- What was found for a service no longer counts once it is declared again. -/
theorem Agrees.declare {i : Interceptor} (agrees : i.Agrees) (service tag : String) :
    (i.declare service tag).Agrees := by
  intro other kind known
  rw [Interceptor.declare, lookup_filter_ne] at known
  split at known
  · cases known
  · next apart =>
    rw [agrees other kind known]
    simp only [lookUp, Interceptor.declare, lookup_assign, if_neg apart]

/-- The kind that is declared for the service of a method. -/
def declaredKind (i : Interceptor) (method : String) : Option Kind :=
  (serviceOf? method).bind i.lookUp

/-- A call gets the kind that is declared, whatever kind it had, and keeps its own if none is. -/
theorem Agrees.intercept_fst {i : Interceptor} (agrees : i.Agrees) (method : String) (call : Call) :
    (i.intercept method call).1 = { call with kind := (i.declaredKind method).or call.kind } := by
  have found := (agrees.resolve method).1
  unfold Interceptor.intercept declaredKind
  rw [← found]
  split
  · next kind i' resolved => rw [resolved]; rfl
  · next i' resolved => rw [resolved]; rfl

theorem Agrees.intercept_snd {i : Interceptor} (agrees : i.Agrees) (method : String) (call : Call) :
    (i.intercept method call).2.Agrees := by
  have kept := (agrees.resolve method).2.1
  unfold Interceptor.intercept
  split
  · next kind i' resolved => rwa [resolved] at kept
  · next i' resolved => rwa [resolved] at kept

theorem serviceOf?_methodOf {R : Type} {service : String} (message : Message R)
    (named : service ≠ "") (plain : '/' ∉ service.toList) :
    serviceOf? (Exchange.methodOf service message) = some service := by
  have called : message.method ≠ "" := by
    cases message <;> simp [Message.method]
  exact serviceOf?_eq_some_iff.2 ⟨message.method, rfl, named, plain, called⟩

/-- For a service whose name can stand in a method it is the kind that this service was declared
with. -/
theorem declaredKind_methodOf {R : Type} (i : Interceptor) {service : String} (message : Message R)
    (named : service ≠ "") (plain : '/' ∉ service.toList) :
    i.declaredKind (Exchange.methodOf service message) = i.lookUp service := by
  rw [declaredKind, serviceOf?_methodOf message named plain, Option.bind_some]

end Interceptor

namespace Exchange

variable {R : Type}

/-! ## What happens, and what is remembered of it -/

/-- What a caller asks for: its number and its call, and the moment by which its client wants an
answer, if it has a timeout. -/
structure Order (R : Type) where
  caller : Nat
  call : Call
  limit : Option Nat
  message : Message R

/-- A request that was taken out of the channel, and what it was when the work on it began. -/
structure Dispatch (R : Type) where
  /-- The interceptor as it was then. -/
  interceptor : Interceptor
  sent : Envelope R
  served : Envelope R

/-- All that has happened to the requests of an exchange. -/
structure History (R : Type) where
  orders : List (Order R) := []
  accepted : List (Envelope R) := []
  dispatched : List (Dispatch R) := []
  finished : List (Envelope R × Reply R) := []
  gaveUp : List (Nat × Failure) := []

/-- What can happen in an exchange and around it. -/
inductive Move (R : Type) where
  /-- A caller sends a request through a client that may have a timeout. -/
  | send (timeline : Timeline) (timeout : Option Nat) (call : Call) (message : Message R)
  | event (event : ExchangeEvent R)
  | declare (service tag : String)
  /-- Another service looks up a method of its own. -/
  | resolve (method : String)

/-- What a move makes of an exchange; nothing if it cannot be made. -/
def move? (x : Exchange R) : Move R → Option (Exchange R)
  | .send timeline timeout call message => x.step? (.issue (timeline.outbound timeout call) message)
  | .event event => x.step? event
  | .declare service tag => some { x with interceptor := x.interceptor.declare service tag }
  | .resolve method => some { x with interceptor := (x.interceptor.resolve method).2 }

/-- The work on a request ends with what the service's operation for it may end with. -/
def Permitted (conduct : Conduct R) (x : Exchange R) : Move R → Prop
  | .event (.finish caller reply) =>
    ∀ task ∈ x.tasks, task.caller = caller → conduct.MayEnd task.call task.message reply
  | _ => True

/-- The request as the service takes it out of the channel. -/
def dispatch (x : Exchange R) (sent : Envelope R) : Dispatch R where
  interceptor := x.interceptor
  sent := sent
  served := { sent with
    call := (x.interceptor.intercept (methodOf x.service sent.message) sent.call).1 }

/-- What is remembered after a move, with what the exchange was before it. -/
def History.note (h : History R) (x : Exchange R) : Move R → History R
  | .send timeline timeout call message =>
    { h with orders :=
        h.orders ++ [⟨x.callers.length, call, timeout.map (timeline.now + ·), message⟩] }
  | .event (.issue call message) =>
    { h with orders := h.orders ++ [⟨x.callers.length, call, none, message⟩] }
  | .event (.accept caller) =>
    match x.serving, x.callers[caller]? with
    | true, some (.sending call message) =>
      { h with accepted := h.accepted ++ [⟨caller, call, message⟩] }
    | _, _ => h
  | .event .dispatch => { h with dispatched := h.dispatched ++ (x.queue.take 1).map x.dispatch }
  | .event (.finish caller reply) =>
    { h with finished :=
        h.finished ++ (x.tasks.filter (·.caller == caller)).map fun task => (task, reply) }
  | .event (.giveUp caller failure) => { h with gaveUp := h.gaveUp ++ [(caller, failure)] }
  | _ => h

/-- An exchange before anything has happened in it. -/
structure Fresh (x : Exchange R) : Prop where
  callers : x.callers = []
  queue : x.queue = []
  tasks : x.tasks = []
  replies : x.replies = []
  running : x.ended = false
  agrees : x.interceptor.Agrees

/-- The runs of an exchange, with all that has happened in them. -/
inductive Run (conduct : Conduct R) (start : Exchange R) : History R → Exchange R → Prop where
  | start : Run conduct start {} start
  | step {h : History R} {x x' : Exchange R} (before : Run conduct start h x) (move : Move R)
    (permitted : Permitted conduct x move) (made : x.move? move = some x') :
    Run conduct start (h.note x move) x'

/-! ## The invariant -/

/-- The envelope is what becomes of the order when it leaves the client: the call has its caller's
tokens and the earlier of the two deadlines. -/
structure Order.Sends (o : Order R) (e : Envelope R) : Prop where
  caller : e.caller = o.caller
  message : e.message = o.message
  tokens : e.call.tokens = o.call.tokens
  deadline : e.call.deadline = Timeline.earlier o.call.deadline o.limit
  kind : e.call.kind = o.call.kind

/-- A caller has got the answer, and rightly so. -/
inductive Answered (h : History R) (x : Exchange R) (caller : Nat) : Except Failure R → Prop where
  /-- The service was not there when the request was sent. -/
  | refused (absent : x.serving = false) : Answered h x caller (.error x.closedFailure)
  | gaveUp {failure : Failure} (left : (caller, failure) ∈ h.gaveUp) :
    Answered h x caller (.error failure)
  /-- The work on its request has ended with a reply. -/
  | replied {task : Envelope R} {reply : Reply R} (done : (task, reply) ∈ h.finished)
    (own : task.caller = caller) :
    Answered h x caller (reply.getD (.error x.droppedFailure))

/-- The call of a request with the kind that is declared for the service, if there is one. -/
def Dispatch.kinded (d : Dispatch R) (service : String) : Call :=
  { d.sent.call with
    kind := (d.interceptor.declaredKind (methodOf service d.sent.message)).or d.sent.call.kind }

/-- The history fits the exchange. -/
structure Tally (conduct : Conduct R) (start : Exchange R) (h : History R) (x : Exchange R) :
    Prop where
  settings : x.service = start.service ∧ x.capacity = start.capacity ∧ x.serving = start.serving
  agrees : x.interceptor.Agrees
  /-- Callers are numbered as they come. -/
  numbered : h.orders.map (·.caller) = List.range x.callers.length
  /-- What has not found room yet is what its caller asks for. -/
  sending : ∀ caller call message, x.callers[caller]? = some (.sending call message) →
    ∃ o ∈ h.orders, o.Sends ⟨caller, call, message⟩
  ordered : ∀ e ∈ h.accepted, ∃ o ∈ h.orders, o.Sends e
  once : (h.accepted.map (·.caller)).Nodup
  /-- Whoever's request was accepted has nothing to send any more. -/
  past : ∀ e ∈ h.accepted, ∃ state, x.callers[e.caller]? = some state ∧ isSending state = false
  bounded : x.queue.length ≤ x.capacity
  queued : h.accepted = h.dispatched.map (·.sent) ++ x.queue
  served : ∀ d ∈ h.dispatched, d.served = { d.sent with call := d.kinded x.service }
  working : (h.dispatched.map (·.served)).Perm (h.finished.map (·.1) ++ x.tasks)
  worked : ∀ task reply, (task, reply) ∈ h.finished →
    conduct.MayEnd task.call task.message reply
  replies : ∀ caller reply, (caller, reply) ∈ x.replies →
    ∃ task, (task, reply) ∈ h.finished ∧ task.caller = caller
  settled : ∀ caller answer, x.callers[caller]? = some (.settled answer) →
    Answered h x caller answer
  /-- Once the service has ended, nobody can send and nothing is left to be done. -/
  ended : x.ended = true → x.clients = 0 ∧ x.callers.any isSending = false ∧ x.queue = [] ∧
    x.tasks = []

/-! ## One step -/

section Steps

variable {conduct : Conduct R} {start x x' : Exchange R} {h h' : History R}

/-- More may have happened since a caller has got its answer. -/
theorem Answered.mono {caller : Nat} {answer : Except Failure R}
    (answered : Answered h x caller answer) (service : x'.service = x.service)
    (serving : x'.serving = x.serving) (finished : h.finished ⊆ h'.finished)
    (gaveUp : h.gaveUp ⊆ h'.gaveUp) : Answered h' x' caller answer := by
  cases answered with
  | refused absent =>
    have refused : Answered h' x' caller (.error x'.closedFailure) := .refused (serving ▸ absent)
    rwa [closedFailure, service] at refused
  | gaveUp left => exact .gaveUp (gaveUp left)
  | replied done own =>
    have replied := Answered.replied (x := x') (finished done) own
    rwa [droppedFailure, service] at replied

/-- What does not concern the work, those who have given up or the service concerns no answer. -/
theorem Answered.still {caller : Nat} {answer : Except Failure R}
    (answered : Answered h x caller answer) (service : x'.service = x.service)
    (serving : x'.serving = x.serving) (finished : h'.finished = h.finished)
    (gaveUp : h'.gaveUp = h.gaveUp) : Answered h' x' caller answer :=
  answered.mono service serving (finished ▸ List.Subset.refl _) (gaveUp ▸ List.Subset.refl _)

/-- A caller that begins has the next number. -/
theorem Tally.issue (tally : Tally conduct start h x) {o : Order R} {call : Call}
    {message : Message R} (held : x.clients ≠ 0) (number : o.caller = x.callers.length)
    (sends : o.Sends ⟨x.callers.length, call, message⟩) :
    Tally conduct start { h with orders := h.orders ++ [o] }
      { x with callers := x.callers ++ [.sending call message] } := by
  have found {caller : Nat} {state : Caller R}
      (there : (x.callers ++ [.sending call message])[caller]? = some state) :
      x.callers[caller]? = some state ∨
        caller = x.callers.length ∧ state = .sending call message := by
    rw [List.getElem?_append] at there
    split at there
    · exact .inl there
    · next beyond =>
      rw [List.getElem?_singleton] at there
      split at there
      · exact .inr ⟨by omega, (Option.some.inj there).symm⟩
      · cases there
  refine { tally with
    numbered := ?_, sending := ?_, ordered := ?_, past := ?_, settled := ?_, ended := ?_ }
  · rw [List.map_append, tally.numbered, List.length_append, List.length_singleton,
      List.range_succ, List.map_singleton, number]
  · intro caller call' message' there
    rcases found there with before | ⟨rfl, same⟩
    · obtain ⟨o', ordered, sends'⟩ := tally.sending caller call' message' before
      exact ⟨o', List.mem_append_left _ ordered, sends'⟩
    · cases same
      exact ⟨o, by simp, sends⟩
  · intro e accepted
    obtain ⟨o', ordered, sends'⟩ := tally.ordered e accepted
    exact ⟨o', List.mem_append_left _ ordered, sends'⟩
  · intro e accepted
    obtain ⟨state, there, done⟩ := tally.past e accepted
    have inside := (List.getElem?_eq_some_iff.1 there).1
    exact ⟨state, by rw [List.getElem?_append_left inside, there], done⟩
  · intro caller answer there
    rcases found there with before | ⟨-, same⟩
    · exact (tally.settled caller answer before).still rfl rfl rfl rfl
    · cases same
  · exact fun stopped => absurd (tally.ended stopped).1 held

theorem getElem?_set_cases {callers : List (Caller R)} {caller other : Nat}
    {new state : Caller R} (there : (callers.set caller new)[other]? = some state) :
    other = caller ∧ state = new ∨ other ≠ caller ∧ callers[other]? = some state := by
  rw [List.getElem?_set] at there
  split at there
  · next same =>
    split at there
    · exact .inl ⟨same.symm, (Option.some.inj there).symm⟩
    · cases there
  · next apart => exact .inr ⟨fun same => apart same.symm, there⟩

/-- A caller that has nothing to send any more, and is answered rightly if it is answered. -/
theorem Tally.turn (tally : Tally conduct start h x) {caller : Nat} {new : Caller R}
    (silent : isSending new = false)
    (right : ∀ answer, new = .settled answer → Answered h x caller answer) :
    Tally conduct start h { x with callers := x.callers.set caller new } := by
  refine { tally with numbered := ?_, sending := ?_, past := ?_, settled := ?_, ended := ?_ }
  · rw [List.length_set]
    exact tally.numbered
  · intro other call message there
    rcases getElem?_set_cases there with ⟨-, same⟩ | ⟨-, before⟩
    · rw [← same] at silent
      cases silent
    · exact tally.sending other call message before
  · intro e accepted
    obtain ⟨state, there, done⟩ := tally.past e accepted
    by_cases same : caller = e.caller
    · have inside := (List.getElem?_eq_some_iff.1 there).1
      exact ⟨new, by rw [same, List.getElem?_set_self inside], silent⟩
    · exact ⟨state, by rw [List.getElem?_set_ne same, there], done⟩
  · intro other answer there
    rcases getElem?_set_cases there with ⟨rfl, same⟩ | ⟨-, before⟩
    · exact (right answer same.symm).still rfl rfl rfl rfl
    · exact (tally.settled other answer before).still rfl rfl rfl rfl
  · intro stopped
    obtain ⟨closed, quiet, drained⟩ := tally.ended stopped
    refine ⟨closed, ?_, drained⟩
    rw [List.any_eq_false] at quiet ⊢
    intro state inside
    rcases List.mem_or_eq_of_mem_set inside with before | rfl
    · exact quiet state before
    · simp [silent]

/-- A request finds room: it is the first of its caller, who now waits. -/
theorem Tally.accept (tally : Tally conduct start h x) {caller : Nat} {call : Call}
    {message : Message R} (there : x.callers[caller]? = some (.sending call message))
    (room : x.queue.length < x.capacity) :
    Tally conduct start { h with accepted := h.accepted ++ [⟨caller, call, message⟩] }
      { x with
        callers := x.callers.set caller .waiting
        queue := x.queue ++ [⟨caller, call, message⟩] } := by
  have turned : Tally conduct start h { x with callers := x.callers.set caller .waiting } :=
    tally.turn rfl nofun
  refine { turned with
    ordered := ?_, once := ?_, past := ?_, bounded := ?_, queued := ?_, settled := ?_, ended := ?_ }
  · intro e accepted
    rcases List.mem_append.1 accepted with before | here
    · exact tally.ordered e before
    · rw [List.mem_singleton.1 here]
      exact tally.sending caller call message there
  · rw [List.map_append, List.nodup_append]
    refine ⟨tally.once, by simp, ?_⟩
    rintro _ before _ here rfl
    obtain ⟨e, accepted, same⟩ := List.mem_map.1 before
    obtain ⟨state, there', done⟩ := tally.past e accepted
    simp only [List.map_singleton, List.mem_singleton] at here
    rw [same, here, there] at there'
    rw [← Option.some.inj there'] at done
    cases done
  · intro e accepted
    rcases List.mem_append.1 accepted with before | here
    · exact turned.past e before
    · rw [List.mem_singleton.1 here]
      exact ⟨.waiting, List.getElem?_set_self (List.getElem?_eq_some_iff.1 there).1, rfl⟩
  · rw [List.length_append]
    exact room
  · rw [tally.queued, List.append_assoc]
  · intro other answer there
    exact (turned.settled other answer there).still rfl rfl rfl rfl
  · intro stopped
    have quiet := (tally.ended stopped).2.1
    rw [List.any_eq_false] at quiet
    exact absurd rfl (quiet _ (List.mem_of_getElem? there))

theorem move?_dispatch {sent : Envelope R} {rest : List (Envelope R)}
    (first : x.queue = sent :: rest) :
    x.move? (.event .dispatch) = some { x with
      queue := rest
      interceptor := (x.interceptor.intercept (methodOf x.service sent.message) sent.call).2
      tasks := x.tasks ++ [(x.dispatch sent).served] } := by
  simp only [move?, step?, dispatch?, first]
  rfl

/-- The first request leaves the channel with the kind that is declared. -/
theorem Tally.dispatch (tally : Tally conduct start h x) {sent : Envelope R}
    {rest : List (Envelope R)} (first : x.queue = sent :: rest) :
    Tally conduct start { h with dispatched := h.dispatched ++ [x.dispatch sent] }
      { x with
        queue := rest
        interceptor := (x.interceptor.intercept (methodOf x.service sent.message) sent.call).2
        tasks := x.tasks ++ [(x.dispatch sent).served] } := by
  refine { tally with
    agrees := ?_, bounded := ?_, queued := ?_, served := ?_, working := ?_, settled := ?_,
    ended := ?_ }
  · exact tally.agrees.intercept_snd _ _
  · have bounded := tally.bounded
    rw [first, List.length_cons] at bounded
    exact Nat.le_of_succ_le bounded
  · rw [tally.queued, first, List.map_append, List.append_assoc]
    rfl
  · intro d dispatched
    rcases List.mem_append.1 dispatched with before | here
    · exact tally.served d before
    · rw [List.mem_singleton.1 here]
      simp only [Exchange.dispatch, Dispatch.kinded, tally.agrees.intercept_fst]
  · rw [List.map_append, ← List.append_assoc]
    exact tally.working.append_right _
  · intro other answer there
    exact (tally.settled other answer there).still rfl rfl rfl rfl
  · intro stopped
    obtain ⟨-, -, drained, -⟩ := tally.ended stopped
    rw [first] at drained
    cases drained

/-- The work on a request ends. -/
theorem Tally.finish (tally : Tally conduct start h x) {caller : Nat} {reply : Reply R}
    (may : ∀ task ∈ x.tasks, task.caller = caller → conduct.MayEnd task.call task.message reply)
    (busy : x.tasks.any (·.caller == caller) = true) :
    Tally conduct start
      { h with finished :=
          h.finished ++ (x.tasks.filter (·.caller == caller)).map fun task => (task, reply) }
      { x with
        tasks := x.tasks.filter (·.caller != caller)
        replies := x.replies ++ [(caller, reply)] } := by
  refine { tally with working := ?_, worked := ?_, replies := ?_, settled := ?_, ended := ?_ }
  · have split : x.tasks.Perm
        (x.tasks.filter (·.caller == caller) ++ x.tasks.filter (·.caller != caller)) :=
      (List.filter_append_perm _ _).symm
    rw [List.map_append, List.map_map, List.append_assoc]
    refine tally.working.trans (List.Perm.append_left _ ?_)
    simpa [Function.comp_def] using split
  · intro task reply' done
    rcases List.mem_append.1 done with before | here
    · exact tally.worked task reply' before
    · obtain ⟨task', chosen, same⟩ := List.mem_map.1 here
      cases same
      obtain ⟨inside, own⟩ := List.mem_filter.1 chosen
      exact may task inside (eq_of_beq own)
  · intro other reply' there
    rcases List.mem_append.1 there with before | here
    · obtain ⟨task, done, own⟩ := tally.replies other reply' before
      exact ⟨task, List.mem_append_left _ done, own⟩
    · cases List.mem_singleton.1 here
      obtain ⟨task, inside, own⟩ := List.any_eq_true.1 busy
      have ending : task ∈ x.tasks.filter (·.caller == caller) := List.mem_filter.2 ⟨inside, own⟩
      exact ⟨task, List.mem_append_right _ (List.mem_map.2 ⟨task, ending, rfl⟩), eq_of_beq own⟩
  · intro other answer there
    exact (tally.settled other answer there).mono rfl rfl (List.subset_append_left _ _)
      (List.Subset.refl _)
  · intro stopped
    obtain ⟨-, -, -, idle⟩ := tally.ended stopped
    rw [idle] at busy
    cases busy

/-- A caller takes the answer to its own request. -/
theorem Tally.collect (tally : Tally conduct start h x) {caller : Nat} {reply : Reply R}
    (there : (caller, reply) ∈ x.replies) :
    Tally conduct start h
      ({ x with replies := x.replies.filter (·.1 != caller) }.settle caller
        (reply.getD (.error x.droppedFailure))) := by
  obtain ⟨task, done, own⟩ := tally.replies caller reply there
  have turned : Tally conduct start h (x.settle caller (reply.getD (.error x.droppedFailure))) :=
    tally.turn rfl fun answer same => by
      cases same
      exact .replied done own
  refine { turned with replies := ?_, settled := ?_ }
  · exact fun other reply' kept => turned.replies other reply' (List.mem_filter.1 kept).1
  · exact fun other answer held =>
      (turned.settled other answer held).still rfl rfl rfl rfl

theorem Tally.giveUp (tally : Tally conduct start h x) (caller : Nat) (failure : Failure) :
    Tally conduct start { h with gaveUp := h.gaveUp ++ [(caller, failure)] }
      (x.settle caller (.error failure)) := by
  have noted : Tally conduct start { h with gaveUp := h.gaveUp ++ [(caller, failure)] } x :=
    { tally with
      settled := fun other answer there => (tally.settled other answer there).mono rfl rfl
        (List.Subset.refl _) (List.subset_append_left _ _) }
  refine noted.turn rfl fun answer same => ?_
  cases same
  exact .gaveUp (by simp)

/-- Clients come and go while there are any. -/
theorem Tally.count (tally : Tally conduct start h x) (held : x.clients ≠ 0) (clients : Nat) :
    Tally conduct start h { x with clients := clients } :=
  { tally with
    settled := fun other answer there =>
      (tally.settled other answer there).still rfl rfl rfl rfl
    ended := fun stopped => absurd (tally.ended stopped).1 held }

theorem Tally.close (tally : Tally conduct start h x) (done : x.isDone = true) :
    Tally conduct start h { x with ended := true } := by
  simp only [isDone, Bool.and_eq_true, beq_iff_eq, Bool.not_eq_true', List.isEmpty_iff] at done
  obtain ⟨⟨⟨closed, quiet⟩, drained⟩, idle⟩ := done
  exact { tally with
    settled := fun other answer there =>
      (tally.settled other answer there).still rfl rfl rfl rfl
    ended := fun _ => ⟨closed, quiet, drained, idle⟩ }

/-- What happens to the interceptor elsewhere leaves it in agreement with what is declared. -/
theorem Tally.aside (tally : Tally conduct start h x) {interceptor : Interceptor}
    (agrees : interceptor.Agrees) :
    Tally conduct start h { x with interceptor := interceptor } :=
  { tally with
    agrees := agrees
    settled := fun other answer there =>
      (tally.settled other answer there).still rfl rfl rfl rfl }

/-- A client hands the call on with its tokens, and with its own timeout if that ends sooner. -/
theorem sends_outbound (timeline : Timeline) (timeout : Option Nat) (call : Call)
    (message : Message R) (caller : Nat) :
    Order.Sends ⟨caller, call, timeout.map (timeline.now + ·), message⟩
      ⟨caller, timeline.outbound timeout call, message⟩ := by
  cases timeout <;> cases deadline : call.deadline <;> constructor <;>
    simp [Timeline.outbound, Timeline.withTimeout, Call.withDeadline, Call.tokens,
      Timeline.earlier, deadline]

theorem Tally.accepts (tally : Tally conduct start h x) {caller : Nat}
    (made : x.accept? caller = some x') :
    Tally conduct start (h.note x (.event (.accept caller))) x' := by
  unfold accept? at made
  split at made
  · next call message there =>
    split at made
    · next absent =>
      cases made
      have absent : x.serving = false := by simpa using absent
      simp only [History.note, absent]
      refine tally.turn rfl fun answer same => ?_
      cases same
      exact .refused absent
    · next present =>
      have present : x.serving = true := by simpa using present
      simp only [Option.ite_none_right_eq_some, Option.some.injEq] at made
      obtain ⟨room, rfl⟩ := made
      have noted : h.note x (.event (.accept caller)) =
          { h with accepted := h.accepted ++ [⟨caller, call, message⟩] } := by
        simp only [History.note, present, there]
      rw [noted]
      exact tally.accept there room
  · cases made

/-- Every move keeps the tally. -/
theorem Tally.step (tally : Tally conduct start h x) {move : Move R}
    (permitted : Permitted conduct x move) (made : x.move? move = some x') :
    Tally conduct start (h.note x move) x' := by
  cases move with
  | send timeline timeout call message =>
    simp only [move?, step?, Option.ite_none_left_eq_some, Option.some.injEq] at made
    obtain ⟨held, rfl⟩ := made
    exact tally.issue held rfl (sends_outbound timeline timeout call message _)
  | declare service tag =>
    cases made
    exact tally.aside (tally.agrees.declare service tag)
  | resolve method =>
    cases made
    exact tally.aside (tally.agrees.resolve method).2.1
  | event event =>
    cases event with
    | issue call message =>
      simp only [move?, step?, Option.ite_none_left_eq_some, Option.some.injEq] at made
      obtain ⟨held, rfl⟩ := made
      exact tally.issue held rfl (sends_outbound {} none call message _)
    | accept caller => exact tally.accepts made
    | dispatch =>
      cases first : x.queue with
      | nil =>
        simp only [move?, step?, dispatch?, first] at made
        cases made
      | cons sent rest =>
        rw [move?_dispatch first] at made
        cases made
        simp only [History.note, first]
        exact tally.dispatch first
    | finish caller reply =>
      simp only [move?, step?, finish?, Option.ite_none_right_eq_some, Option.some.injEq] at made
      obtain ⟨busy, rfl⟩ := made
      exact tally.finish permitted busy
    | collect caller =>
      simp only [move?, step?, collect?] at made
      split at made
      · next reply _ found =>
        cases made
        obtain ⟨before, after, replies, -⟩ := List.lookup_eq_some_iff.1 found
        exact tally.collect (by simp [replies])
      · cases made
    | giveUp caller failure =>
      simp only [move?, step?, giveUp?] at made
      split at made
      · cases made
        exact tally.giveUp caller failure
      · cases made
        exact tally.giveUp caller failure
      · cases made
    | copyClient =>
      simp only [move?, step?, Option.ite_none_left_eq_some, Option.some.injEq] at made
      obtain ⟨held, rfl⟩ := made
      exact tally.count held _
    | dropClient =>
      simp only [move?, step?, Option.ite_none_left_eq_some, Option.some.injEq] at made
      obtain ⟨held, rfl⟩ := made
      exact tally.count held _
    | close =>
      simp only [move?, step?, Option.ite_none_right_eq_some, Bool.and_eq_true,
        Option.some.injEq] at made
      obtain ⟨⟨-, done⟩, rfl⟩ := made
      exact tally.close done

end Steps

/-! ## Whole runs -/

section Runs

variable {conduct : Conduct R} {start x : Exchange R} {h : History R}

theorem tally_start (fresh : Fresh start) : Tally conduct start {} start := by
  constructor
  case settings => exact ⟨rfl, rfl, rfl⟩
  case agrees => exact fresh.agrees
  case numbered => simp [fresh.callers]
  case once => exact List.nodup_nil
  case bounded => simp [fresh.queue]
  case queued => simp [fresh.queue]
  case working => simp [fresh.tasks]
  case ended => simp [fresh.running]
  case sending => simp [fresh.callers]
  case settled => simp [fresh.callers]
  case replies => simp [fresh.replies]
  all_goals simp

theorem tally (fresh : Fresh start) (run : Run conduct start h x) : Tally conduct start h x := by
  induction run with
  | start => exact tally_start fresh
  | step _ _ permitted made ih => exact ih.step permitted made

/-- What an exchange owes to those who use it. -/
structure Delivers (conduct : Conduct R) (start : Exchange R) (h : History R) (x : Exchange R) :
    Prop where
  /-- The channel is never overfull, and accepts the request of each caller at most once and as it
  was sent. -/
  accepted : x.queue.length ≤ start.capacity ∧ (h.orders.map (·.caller)).Nodup ∧
    (h.accepted.map (·.caller)).Nodup ∧ ∀ e ∈ h.accepted, ∃ o ∈ h.orders, o.Sends e
  /-- What was accepted has been taken out of the channel once and in order, but for what is still
  in it, of which the first can be taken out next. -/
  dispatched : h.accepted = h.dispatched.map (·.sent) ++ x.queue ∧
    (x.queue ≠ [] → ∃ x', x.step? .dispatch = some x')
  /-- The call is served with the kind that is declared for the service, and else as it was sent. -/
  served : ∀ d ∈ h.dispatched, d.served = { d.sent with call := d.kinded start.service } ∧
    (start.service ≠ "" → '/' ∉ start.service.toList →
      d.served.call.kind = (d.interceptor.lookUp start.service).or d.sent.call.kind)
  /-- The work on what was taken out of the channel is going on, or has ended once with what the
  operation for it may end with. -/
  worked : (h.dispatched.map (·.served)).Perm (h.finished.map (·.1) ++ x.tasks) ∧
    ∀ task reply, (task, reply) ∈ h.finished → conduct.MayEnd task.call task.message reply
  /-- Callers that have neither given up nor met an absent service are answered with what the work
  on their own requests has ended with. -/
  answered : ∀ caller answer, x.callers[caller]? = some (.settled answer) →
    (caller, answer) ∈ h.gaveUp.map (fun left => (left.1, .error left.2)) ∨
    (start.serving = false ∧ answer = .error start.closedFailure) ∨
    ∃ o ∈ h.orders, ∃ d ∈ h.dispatched, ∃ reply, o.caller = caller ∧ o.Sends d.sent ∧
      (d.served, reply) ∈ h.finished ∧ conduct.MayEnd d.served.call o.message reply ∧
      answer = reply.getD (.error start.droppedFailure)
  /-- The service has not ended before the work on all that was accepted had. -/
  drained : x.ended = true → ∀ e ∈ h.accepted, ∃ d ∈ h.dispatched, ∃ reply, d.sent = e ∧
    (d.served, reply) ∈ h.finished

/-- What was worked on to its end is what some caller has asked for. -/
theorem Tally.source (tally : Tally conduct start h x) {task : Envelope R} {reply : Reply R}
    (done : (task, reply) ∈ h.finished) :
    ∃ o ∈ h.orders, ∃ d ∈ h.dispatched, d.served = task ∧ o.caller = task.caller ∧
      o.Sends d.sent ∧ task.message = o.message := by
  have served : task ∈ h.dispatched.map (·.served) :=
    tally.working.mem_iff.2 (List.mem_append_left _ (List.mem_map_of_mem done))
  obtain ⟨d, dispatched, rfl⟩ := List.mem_map.1 served
  have accepted : d.sent ∈ h.accepted := by
    rw [tally.queued]
    exact List.mem_append_left _ (List.mem_map_of_mem dispatched)
  obtain ⟨o, ordered, sends⟩ := tally.ordered d.sent accepted
  refine ⟨o, ordered, d, dispatched, rfl, ?_, sends, ?_⟩
  · rw [tally.served d dispatched]
    exact sends.caller.symm
  · rw [tally.served d dispatched]
    exact sends.message

/-- The exchange loses nothing, does nothing twice and mixes nothing up, in whatever order callers
send, wait and give up, clients come and go, requests are taken out of the channel and the work on
them ends, and whatever is declared meanwhile. -/
theorem runs_deliver (fresh : Fresh start) (run : Run conduct start h x) :
    Delivers conduct start h x := by
  have tally := tally fresh run
  obtain ⟨service, capacity, serving⟩ := tally.settings
  constructor
  case accepted =>
    refine ⟨capacity ▸ tally.bounded, ?_, tally.once, tally.ordered⟩
    rw [tally.numbered]
    exact List.nodup_range
  case dispatched =>
    refine ⟨tally.queued, fun waiting => ?_⟩
    obtain ⟨sent, rest, queue⟩ := List.exists_cons_of_ne_nil waiting
    exact ⟨_, move?_dispatch queue⟩
  case served =>
    intro d dispatched
    have served := tally.served d dispatched
    rw [service] at served
    refine ⟨served, fun named plain => ?_⟩
    rw [served, Dispatch.kinded, Interceptor.declaredKind_methodOf _ _ named plain]
  case worked => exact ⟨tally.working, tally.worked⟩
  case answered =>
    intro caller answer settled
    cases tally.settled caller answer settled with
    | refused absent =>
      refine .inr (.inl ⟨serving ▸ absent, ?_⟩)
      rw [closedFailure, closedFailure, service]
    | gaveUp left => exact .inl (List.mem_map_of_mem left)
    | @replied task reply done own =>
      obtain ⟨o, ordered, d, dispatched, rfl, source, sends, same⟩ := tally.source done
      refine .inr (.inr ⟨o, ordered, d, dispatched, reply, source.trans own, sends, done, ?_, ?_⟩)
      · rw [← same]
        exact tally.worked _ _ done
      · rw [droppedFailure, droppedFailure, service]
  case drained =>
    intro stopped e accepted
    obtain ⟨-, -, drained, idle⟩ := tally.ended stopped
    rw [tally.queued, drained, List.append_nil] at accepted
    obtain ⟨d, dispatched, rfl⟩ := List.mem_map.1 accepted
    have served : d.served ∈ h.finished.map (·.1) := by
      have working := tally.working.mem_iff.1 (List.mem_map_of_mem dispatched)
      rwa [idle, List.append_nil] at working
    obtain ⟨⟨task, reply⟩, done, rfl⟩ := List.mem_map.1 served
    exact ⟨d, dispatched, reply, rfl, done⟩

end Runs

/-! ## Two callers -/

section Callers

open Daemon (Conditions)

/-- The service of agents, with room for one request and with its kind already looked up. -/
def desk : Exchange Agent where
  service := Agents.service
  capacity := 1
  interceptor :=
    { declared := [(Agents.service, Kind.agent.tag)]
      remembered := [(Agents.service, some .agent)] }

theorem fresh_desk : Fresh desk := by
  refine ⟨rfl, rfl, rfl, rfl, rfl, fun service kind known => ?_⟩
  simp only [desk, List.lookup_cons, List.lookup_nil] at known
  split at known
  · next same =>
    obtain rfl := eq_of_beq same
    obtain rfl := Option.some.inj known
    decide
  · cases known

/-- Requests are served there with calls about agents. -/
theorem Run.serve {conduct : Conduct Agent} {h : History Agent} {x : Exchange Agent}
    {sent : Envelope Agent} {rest : List (Envelope Agent)} (run : Run conduct desk h x)
    (service : x.service = desk.service) (interceptor : x.interceptor = desk.interceptor)
    (first : x.queue = sent :: rest) :
    Run conduct desk (h.note x (.event .dispatch)) { x with
      queue := rest
      tasks := x.tasks ++ [{ sent with call := sent.call.withKind .agent }] } := by
  have found : Interceptor.serviceOf? (methodOf x.service sent.message) = some Agents.service := by
    rw [service]
    exact Interceptor.serviceOf?_methodOf sent.message (by decide) (by decide)
  have known : x.interceptor.remembered.lookup Agents.service = some (some .agent) := by
    rw [interceptor]
    decide
  have intercepted : x.interceptor.intercept (methodOf x.service sent.message) sent.call =
      (sent.call.withKind .agent, x.interceptor) := by
    simp only [Interceptor.intercept, Interceptor.resolve, found, known]
  refine run.step (.event .dispatch) trivial ?_
  rw [move?_dispatch first, Exchange.dispatch, intercepted]

/-- The desk when the requests of two callers are worked on. -/
def busyDesk : Exchange Agent :=
  { desk with
    callers := [.waiting, .waiting]
    tasks :=
      [⟨0, { token := 1, deadline := some 1000, kind := some .agent }, .get "agt-1"⟩,
        ⟨1, Conditions.free.served .agent, .create critic⟩] }

theorem run_busyDesk (conduct : Conduct Agent) : ∃ h, Run conduct desk h busyDesk := by
  have begun : Run conduct desk {} desk := .start
  have sent := (begun.step (.send {} (some 1000) { token := 1 } (.get "agt-1")) trivial rfl).step
    (.send {} none { token := 0 } (.create critic)) trivial rfl
  have first := (sent.step (.event (.accept 0)) trivial rfl).serve rfl rfl rfl
  exact ⟨_, (first.step (.event (.accept 1)) trivial rfl).serve rfl rfl rfl⟩

/-- Two callers share a client. The work on the second request ends first; the first caller gives
up, and the service ends once the work on its request has ended all the same. -/
theorem runs_deliver_desk : ∃ (h : History Agent) (x : Exchange Agent) (r : Agent),
    Run (Daemon.agents {}).controller.conduct desk h x ∧
    Delivers (Daemon.agents {}).controller.conduct desk h x ∧
    x.callers = [.settled (.error .deadlineExceeded), .settled (.ok r)] ∧ x.ended = true := by
  have missing : (Daemon.agents {}).controller.conduct.MayEnd
      { token := 1, deadline := some 1000, kind := some .agent } (.get "agt-1")
      (some (.error (.notFound "Agent" "agt-1"))) :=
    ⟨Daemon.world {} (.memory .empty) {} stillClock sameTexts, by rfl⟩
  obtain ⟨r, w', done⟩ := outcome_critic (tended_world {} {} stillClock sameTexts) rfl
    (Supply.wordy_const rfl 0)
  have created : (Daemon.agents {}).controller.conduct.MayEnd (Conditions.free.served .agent)
      (.create critic) (some (.ok r)) :=
    (Controller.mayEnd_conduct _ _ _ _).2 ⟨_, by rw [done]; rfl⟩
  obtain ⟨h, busy⟩ := run_busyDesk (Daemon.agents {}).controller.conduct
  have served := busy.step (.event (.finish 1 (some (.ok r))))
    (by simpa [Permitted, busyDesk] using created) rfl
  have left := (served.step (.event (.giveUp 0 .deadlineExceeded)) trivial rfl).step
    (.event (.collect 1)) trivial rfl
  have idle := (left.step (.event .dropClient) trivial rfl).step
    (.event (.finish 0 (some (.error (.notFound "Agent" "agt-1")))))
    (by simpa [Permitted, busyDesk, settle] using missing) rfl
  have stopped := idle.step (.event .close) trivial rfl
  exact ⟨_, _, r, stopped, runs_deliver fresh_desk stopped, rfl, rfl⟩

end Callers

end Exchange

end Steward
