import Steward.Pipeline.Basic

/-!
# How work ends

Every piece of work ends with a value or stops, and leaves a state behind either way. `Ends` says
both at once, and goes through work the way it is put together: what follows is judged in the state
that what came before has left. Main statements: `ends_bind`, `ends_runSteps_cons` and
`ends_execute`.
-/

namespace Steward

variable {σ α β : Type}

/-- Started in `s`, the work ends with a value and in a state of which `Q` holds, or stops in a
state of which `E` holds. -/
def Ends (work : EStateM Stop σ α) (s : σ) (Q : α → σ → Prop) (E : Stop → σ → Prop) : Prop :=
  match work.run s with
  | .ok a s => Q a s
  | .error stop s => E stop s

variable {Q : α → σ → Prop} {E : Stop → σ → Prop} {s : σ}

theorem Ends.imp {work : EStateM Stop σ α} {Q' : α → σ → Prop} {E' : Stop → σ → Prop}
    (ends : Ends work s Q E) (value : ∀ a s', Q a s' → Q' a s')
    (stop : ∀ e s', E e s' → E' e s') : Ends work s Q' E' := by
  unfold Ends at *
  cases ran : work.run s with
  | ok a s' => rw [ran] at ends; exact value a s' ends
  | error e s' => rw [ran] at ends; exact stop e s' ends

theorem Ends.and {work : EStateM Stop σ α} {Q' : α → σ → Prop} {E' : Stop → σ → Prop}
    (first : Ends work s Q E) (second : Ends work s Q' E') :
    Ends work s (fun a s' => Q a s' ∧ Q' a s') fun e s' => E e s' ∧ E' e s' := by
  unfold Ends at *
  cases ran : work.run s with
  | ok a s' => rw [ran] at first second; exact ⟨first, second⟩
  | error e s' => rw [ran] at first second; exact ⟨first, second⟩

/-! ## How work is put together -/

@[simp]
theorem ends_pure (a : α) : Ends (pure a : EStateM Stop σ α) s Q E ↔ Q a s :=
  Iff.rfl

@[simp]
theorem ends_throw (stop : Stop) : Ends (throw stop : EStateM Stop σ α) s Q E ↔ E stop s :=
  Iff.rfl

/-- Work that goes on with `next` ends as `next` does after it. -/
theorem ends_bind {work : EStateM Stop σ β} {next : β → EStateM Stop σ α} :
    Ends (work >>= next) s Q E ↔ Ends work s (fun b s' => Ends (next b) s' Q E) E := by
  simp only [Ends, EStateM.run, bind, EStateM.bind]
  cases work s <;> rfl

/-- A stop is caught in the state that was reached. -/
theorem ends_tryCatch {work : EStateM Stop σ α} {handler : Stop → EStateM Stop σ α} :
    Ends (tryCatch work handler) s Q E ↔
      Ends work s Q fun stop s' => Ends (handler stop) s' Q E := by
  simp only [Ends, EStateM.run, tryCatch, tryCatchThe, MonadExceptOf.tryCatch]
  delta EStateM.tryCatch
  cases work s <;> rfl

@[simp]
theorem ends_get {Q : σ → σ → Prop} : Ends (get : EStateM Stop σ σ) s Q E ↔ Q s s :=
  Iff.rfl

@[simp]
theorem ends_modifyGet {f : σ → α × σ} :
    Ends (modifyGet f : EStateM Stop σ α) s Q E ↔ Q (f s).1 (f s).2 :=
  Iff.rfl

/-! ## Operations on the world -/

section Ops

variable {Item : Type} {w : World Item} {Q : α → World Item → Prop} {E : Stop → World Item → Prop}

@[simp]
theorem ends_fail (failure : Failure) :
    Ends (Op.fail failure : Op Item α) w Q E ↔ E (.failed failure) w :=
  Iff.rfl

/-- The outcome of work that is known to end in some way. -/
theorem Ends.of_outcome_ok {op : Op Item α} (ends : Ends op w Q E) {a : α}
    (done : (op.outcome w).1 = .ok a) : Q a (op.outcome w).2 := by
  unfold Ends at ends
  unfold Op.outcome at done ⊢
  cases ran : op.run w with
  | ok a' w' =>
    rw [ran] at ends done
    obtain rfl : a' = a := Except.ok.inj done
    exact ends
  | error stop w' =>
    rw [ran] at done
    cases done

theorem Ends.of_outcome_error {op : Op Item α} (ends : Ends op w Q E) {stop : Stop}
    (halted : (op.outcome w).1 = .error stop) : E stop (op.outcome w).2 := by
  unfold Ends at ends
  unfold Op.outcome at halted ⊢
  cases ran : op.run w with
  | ok a w' =>
    rw [ran] at halted
    cases halted
  | error stop' w' =>
    rw [ran] at ends halted
    obtain rfl : stop' = stop := Except.error.inj halted
    exact ends

/-- The same of an outcome that is known along with the world it leaves. -/
theorem Ends.of_eq_ok {op : Op Item α} (ends : Ends op w Q E) {a : α} {w' : World Item}
    (done : op.outcome w = (.ok a, w')) : Q a w' := by
  have holds := ends.of_outcome_ok (congrArg Prod.fst done)
  rwa [done] at holds

theorem Ends.of_eq_error {op : Op Item α} (ends : Ends op w Q E) {stop : Stop} {w' : World Item}
    (halted : op.outcome w = (.error stop, w')) : E stop w' := by
  have holds := ends.of_outcome_error (congrArg Prod.fst halted)
  rwa [halted] at holds

/-- Either outcome, with what is known of it. -/
theorem Ends.outcome_cases {op : Op Item α} (ends : Ends op w Q E) :
    (∃ a w', op.outcome w = (.ok a, w') ∧ Q a w') ∨
      ∃ stop w', op.outcome w = (.error stop, w') ∧ E stop w' := by
  cases outcome : (op.outcome w).1 with
  | ok a => exact .inl ⟨a, _, Prod.ext outcome rfl, ends.of_outcome_ok outcome⟩
  | error stop => exact .inr ⟨stop, _, Prod.ext outcome rfl, ends.of_outcome_error outcome⟩

/-- What is done with an answer changes nothing in the world that is left behind. -/
theorem outcome_answer {op : Op Item α} (answer : α → β) :
    Op.outcome (do return answer (← op)) w =
      ((Op.outcome op w).1.map answer, (Op.outcome op w).2) := by
  simp only [Op.outcome, EStateM.run, bind, EStateM.bind]
  cases op w <;> rfl

theorem ends_ofExcept {answer : Except Failure α} :
    Ends (Op.ofExcept answer : Op Item α) w Q E ↔
      (∀ a, answer = .ok a → Q a w) ∧
        ∀ failure, answer = .error failure → E (.failed failure) w := by
  cases answer <;> simp [Op.ofExcept]

/-- What goes on unless a condition makes it fail. -/
theorem ends_unless {refused : Prop} [Decidable refused] {failure : Failure} {rest : Op Item α} :
    Ends (if refused then (Op.fail failure : Op Item PUnit) >>= fun _ => rest else rest) w Q E ↔
      (refused → E (.failed failure) w) ∧ (¬ refused → Ends rest w Q E) := by
  by_cases holds : refused <;> simp [holds, ends_bind]

@[simp]
theorem ends_onTimeline {f : Timeline → α × Timeline} :
    Ends (Op.onTimeline f : Op Item α) w Q E ↔
      Q (f w.timeline).1 { w with timeline := (f w.timeline).2 } :=
  Iff.rfl

@[simp]
theorem ends_onStore {f : Store → α × Store} :
    Ends (Op.onStore f : Op Item α) w Q E ↔
      Q (f w.store).1 { w with store := (f w.store).2 } :=
  Iff.rfl

end Ops

/-! ## Work on a request -/

section Work

variable {Item Input R : Type} {s : Session Item Input R} {Q : α → Session Item Input R → Prop}
  {E : Stop → Session Item Input R → Prop}

theorem ends_perform {op : Op Item α} :
    Ends (Work.perform op : Work Item Input R α) s Q E ↔
      Ends op s.world (fun a w => Q a { s with world := w }) fun stop w =>
        E stop { s with world := w } := by
  simp only [Ends, EStateM.run, Work.perform]
  cases op s.world <;> rfl

@[simp]
theorem ends_work_fail (failure : Failure) :
    Ends (Work.fail failure : Work Item Input R α) s Q E ↔ E (.failed failure) s :=
  Iff.rfl

theorem ends_work_ofExcept {answer : Except Failure α} :
    Ends (Work.ofExcept answer : Work Item Input R α) s Q E ↔
      (∀ a, answer = .ok a → Q a s) ∧
        ∀ failure, answer = .error failure → E (.failed failure) s := by
  cases answer <;> simp [Work.ofExcept]

/-- What goes on unless a condition makes it fail. -/
theorem ends_work_unless {refused : Prop} [Decidable refused] {failure : Failure}
    {rest : Work Item Input R α} :
    Ends (if refused then (Work.fail failure : Work Item Input R PUnit) >>= fun _ => rest
      else rest) s Q E ↔
      (refused → E (.failed failure) s) ∧ (¬ refused → Ends rest s Q E) := by
  by_cases holds : refused <;> simp [holds, ends_bind]

@[simp]
theorem ends_request {Q : Request Input R → Session Item Input R → Prop} :
    Ends (Work.request : Work Item Input R (Request Input R)) s Q E ↔ Q s.request s :=
  Iff.rfl

@[simp]
theorem ends_modifyRequest {f : Request Input R → Request Input R}
    {Q : Unit → Session Item Input R → Prop} :
    Ends (Work.modifyRequest f : Work Item Input R Unit) s Q E ↔
      Q () { s with request := f s.request } :=
  Iff.rfl

/-- The new state is there, or its slot is reported to be empty. -/
theorem ends_newState {Q : Input → Session Item Input R → Prop} :
    Ends (Work.newState : Work Item Input R Input) s Q E ↔
      (∀ state, s.request.newState = some state → Q state s) ∧
        (s.request.newState = none → E (.failed (.stateNotSet "new_state")) s) := by
  unfold Work.newState
  rw [ends_bind, ends_request, ends_work_ofExcept, Request.getNewState]
  cases s.request.newState <;> simp

/-- The stored state is there, or its slot is reported to be empty. -/
theorem ends_existing {Q : Input → Session Item Input R → Prop} :
    Ends (Work.existing : Work Item Input R Input) s Q E ↔
      (∀ state, s.request.existing = some state → Q state s) ∧
        (s.request.existing = none → E (.failed (.stateNotSet "existing")) s) := by
  unfold Work.existing
  rw [ends_bind, ends_request, ends_work_ofExcept, Request.getExisting]
  cases s.request.existing <;> simp

/-- The message of a call that carries no kind. -/
def kindMissing : Failure :=
  .internal "resource kind missing from call context; is the kind interceptor installed?"

theorem ends_requireKind {Q : Kind → Session Item Input R → Prop} :
    Ends (Work.requireKind : Work Item Input R Kind) s Q E ↔
      (∀ kind, s.request.call.kind = some kind → Q kind s) ∧
        (s.request.call.kind = none → E (.failed kindMissing) s) := by
  unfold Work.requireKind
  rw [ends_bind, ends_request, ends_work_ofExcept, Call.requireKind]
  cases s.request.call.kind <;> simp [kindMissing]

end Work

/-! ## Pipelines -/

section Pipelines

variable {Item Input R : Type} {s : Session Item Input R} {steps : List (Step Item Input R)}
  {Q : Unit → Session Item Input R → Prop} {E : Stop → Session Item Input R → Prop}

/-- Looking after the call changes nothing; a stop is due to the call. -/
theorem ends_check {w : World Item} {call : Call} {Q : Unit → World Item → Prop}
    {E : Stop → World Item → Prop} :
    Ends (Op.check call : Op Item Unit) w Q E ↔
      (w.timeline.check call = .ok () → Q () w) ∧
        ∀ failure, w.timeline.check call = .error failure → E (.failed failure) w := by
  unfold Op.check
  rw [ends_bind, ends_get, ends_ofExcept]
  exact and_congr_left' ⟨fun live => live (), fun live _ => live⟩

theorem ends_runSteps_nil :
    Ends (Pipeline.runSteps ([] : List (Step Item Input R))) s Q E ↔ Q () s :=
  Iff.rfl

/-- The call is looked after, then comes the first step, then the others. -/
theorem ends_runSteps_cons {step : Step Item Input R} :
    Ends (Pipeline.runSteps (step :: steps)) s Q E ↔
      (s.world.timeline.check s.request.call = .ok () →
        Ends step.run s (fun _ s' => Ends (Pipeline.runSteps steps) s' Q E) E) ∧
      ∀ failure, s.world.timeline.check s.request.call = .error failure →
        E (.failed failure) s := by
  rw [Pipeline.runSteps, ends_bind, ends_request, ends_bind, ends_perform, ends_check]
  simp only [ends_bind]

/-- A line of steps ends as its second part does after its first part. -/
theorem ends_runSteps_append {more : List (Step Item Input R)} :
    Ends (Pipeline.runSteps (steps ++ more)) s Q E ↔
      Ends (Pipeline.runSteps steps) s (fun _ s' => Ends (Pipeline.runSteps more) s' Q E) E := by
  induction steps generalizing s with
  | nil => rfl
  | cons step steps ih =>
    rw [List.cons_append, ends_runSteps_cons, ends_runSteps_cons]
    simp only [ih]

/-- A pipeline runs its steps on the request, seeded if it seeds. -/
theorem ends_execute {p : Pipeline Item Input R} {request : Request Input R} {w : World Item}
    {Q : Request Input R → World Item → Prop} {E : Stop → World Item → Prop} :
    Ends (p.execute request) w Q E ↔
      Ends (Pipeline.runSteps p.steps) ⟨w, if p.seeds then request.seed else request⟩
        (fun _ s => Q s.request s.world) (fun stop s => E stop s.world) := by
  have run : Ends p.run ⟨w, request⟩ (fun _ s => Q s.request s.world)
      (fun stop s => E stop s.world) ↔
      Ends (Pipeline.runSteps p.steps) ⟨w, if p.seeds then request.seed else request⟩
        (fun _ s => Q s.request s.world) (fun stop s => E stop s.world) := by
    unfold Pipeline.run
    cases p.seeds with
    | true => simp only [if_true]; rw [ends_bind]; rfl
    | false => rfl
  rw [← run]
  simp only [Ends, EStateM.run, Pipeline.execute]
  cases p.run ⟨w, request⟩ <;> rfl

end Pipelines

end Steward
