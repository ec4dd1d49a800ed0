import Steward.Proofs.Ends
import Steward.Proofs.Waits

/-!
# The course of a run

A pipeline runs its steps in order, each in the session that the one before it leaves, and stops at
the first that fails or at the first before which the call is over. `Course` says so without the
recursion that does it: which steps have been run, on what, and what came of it. Main statements:
`course_iff` for a line of steps, `observed_runSteps` for what can be seen of them, and
`runs_in_order`.
-/

namespace Steward.Pipeline

variable {Item Input R : Type}

/-! ## Calls that are still wanted -/

/-- The call is neither cancelled nor past its deadline. -/
def Wanted (s : Session Item Input R) : Prop :=
  s.world.timeline.isCancelled s.request.call = false ∧
    ∀ deadline ∈ s.request.call.deadline, s.world.timeline.now < deadline

/-- The call is over, and the failure says why. A call that is cancelled and past its deadline
counts as cancelled. -/
inductive Over (s : Session Item Input R) : Failure → Prop where
  | cancelled (is_cancelled : s.world.timeline.isCancelled s.request.call = true) :
    Over s .cancelled
  | deadlineExceeded {deadline : Nat}
    (live : s.world.timeline.isCancelled s.request.call = false)
    (set : deadline ∈ s.request.call.deadline) (past : deadline ≤ s.world.timeline.now) :
    Over s .deadlineExceeded

/-! ## Courses -/

/-- What the work of a step or of a line of steps comes to. -/
abbrev Ending (Item Input R : Type) := EStateM.Result Stop (Session Item Input R) Unit

/-- The session that is left behind, whatever the work has come to. -/
def Ending.left : Ending Item Input R → Session Item Input R
  | .ok _ s => s
  | .error _ s => s

/-- The steps have been run one after another, each while the call was wanted and in the session
that the one before it has left, and all have succeeded. -/
inductive PassAll : Session Item Input R → List (Step Item Input R) → Session Item Input R →
    Prop where
  | nil {s : Session Item Input R} : PassAll s [] s
  | cons {s s' last : Session Item Input R} {step : Step Item Input R}
    {steps : List (Step Item Input R)} (wanted : Wanted s) (passed : step.run.run s = .ok () s')
    (others : PassAll s' steps last) : PassAll s (step :: steps) last

/-- Begun in a session, a line of steps comes to an ending with the first so many of them, each run
once and in order, and none of the others. -/
inductive Course (steps : List (Step Item Input R)) (start : Session Item Input R) :
    Nat → Ending Item Input R → Prop where
  /-- All steps have succeeded. -/
  | complete {last : Session Item Input R} (passed : PassAll start steps last) :
    Course steps start steps.length (.ok () last)
  /-- The last step that was run has failed. -/
  | failed {before after : List (Step Item Input R)} {step : Step Item Input R}
    {s s' : Session Item Input R} {stop : Stop} (place : steps = before ++ step :: after)
    (passed : PassAll start before s) (wanted : Wanted s)
    (fails : step.run.run s = .error stop s') :
    Course steps start (before.length + 1) (.error stop s')
  /-- After the last step that was run the call was over. -/
  | ended {before after : List (Step Item Input R)} {step : Step Item Input R}
    {s : Session Item Input R} {failure : Failure} (place : steps = before ++ step :: after)
    (passed : PassAll start before s) (ended : Over s failure) :
    Course steps start before.length (.error (.failed failure) s)

/-- Every step, however it ends, does one and the same thing to what is observed of a session. -/
def Observed {α : Type} (steps : List (Step Item Input R)) (observe : Session Item Input R → α)
    (effect : Step Item Input R → α → α) : Prop :=
  ∀ step ∈ steps, ∀ s, observe (Ending.left (step.run.run s)) = effect step (observe s)

/-- The request as the first step finds it. -/
def opening (p : Pipeline Item Input R) (request : Request Input R) : Request Input R :=
  { request with newState :=
      if p.seeds && request.newState.isNone then some request.input else request.newState }

/-- How many of the steps are run. -/
def reach : List (Step Item Input R) → Session Item Input R → Nat
  | [], _ => 0
  | step :: steps, s =>
    match s.world.timeline.check s.request.call with
    | .error _ => 0
    | .ok () =>
      match step.run.run s with
      | .ok () s' => reach steps s' + 1
      | .error _ _ => 1

section Steps

variable {s s' start last : Session Item Input R} {step : Step Item Input R}
  {steps : List (Step Item Input R)} {stop : Stop} {failure : Failure}

theorem wanted_iff : Wanted s ↔ s.world.timeline.check s.request.call = .ok () :=
  Timeline.check_eq_ok.symm

theorem over_iff :
    Over s failure ↔ s.world.timeline.check s.request.call = .error failure := by
  constructor
  · rintro (cancelled | ⟨live, set, past⟩)
    · simp [Timeline.check, cancelled]
    · rw [Option.mem_def] at set
      simp [Timeline.check, live, set, past]
  · intro failed
    unfold Timeline.check at failed
    split at failed
    · next cancelled =>
      cases failed
      exact .cancelled cancelled
    · next live =>
      split at failed
      · next deadline set =>
        split at failed
        · next past =>
          cases failed
          exact .deadlineExceeded (Bool.eq_false_iff.2 live) set past
        · cases failed
      · cases failed

/-! ## The first step -/

/-- Work ends in just one way. -/
theorem ends_exactly {σ α : Type} {work : EStateM Stop σ α} {s : σ}
    {ending : EStateM.Result Stop σ α} :
    Ends work s (fun a s' => .ok a s' = ending) (fun stop s' => .error stop s' = ending) ↔
      work.run s = ending := by
  unfold Ends
  cases work.run s <;> rfl

theorem runSteps_of_over (ended : Over s failure) :
    (runSteps (step :: steps)).run s = .error (.failed failure) s := by
  have checked := over_iff.1 ended
  rw [← ends_exactly, ends_runSteps_cons]
  constructor
  · intro live
    rw [checked] at live
    cases live
  · intro failure' again
    rw [checked] at again
    cases again
    rfl

theorem runSteps_of_wanted (wanted : Wanted s) :
    (runSteps (step :: steps)).run s =
      match step.run.run s with
      | .ok () s' => (runSteps steps).run s'
      | .error stop s' => .error stop s' := by
  have checked := wanted_iff.1 wanted
  rw [← ends_exactly, ends_runSteps_cons]
  constructor
  · intro
    unfold Ends
    cases step.run.run s with
    | ok value s' => exact ends_exactly.2 rfl
    | error stop s' => rfl
  · intro failure failed
    rw [checked] at failed
    cases failed

/-- Either the call is over, or it is wanted and the first step ends in one of two ways. -/
theorem first_step (s : Session Item Input R) (step : Step Item Input R) :
    (∃ failure, Over s failure) ∨
      Wanted s ∧
        ((∃ s', step.run.run s = .ok () s') ∨ ∃ stop s', step.run.run s = .error stop s') := by
  cases checked : s.world.timeline.check s.request.call with
  | error failure => exact .inl ⟨failure, over_iff.2 checked⟩
  | ok =>
    refine .inr ⟨wanted_iff.2 checked, ?_⟩
    cases step.run.run s with
    | ok value s' => exact .inl ⟨s', rfl⟩
    | error stop s' => exact .inr ⟨stop, s', rfl⟩

theorem reach_of_over (ended : Over s failure) : reach (step :: steps) s = 0 := by
  rw [reach, over_iff.1 ended]

theorem reach_of_passed (wanted : Wanted s) (passed : step.run.run s = .ok () s') :
    reach (step :: steps) s = reach steps s' + 1 := by
  rw [reach, wanted_iff.1 wanted, passed]

theorem reach_of_failed (wanted : Wanted s) (fails : step.run.run s = .error stop s') :
    reach (step :: steps) s = 1 := by
  rw [reach, wanted_iff.1 wanted, fails]

/-! ## All steps -/

/-- A course goes on from one that begins where the first step has led. -/
theorem Course.cons {k : Nat} {ending : Ending Item Input R} (wanted : Wanted s)
    (passed : step.run.run s = .ok () s') (course : Course steps s' k ending) :
    Course (step :: steps) s (k + 1) ending := by
  cases course with
  | complete others => exact .complete (.cons wanted passed others)
  | @failed before after t later later' stop place others wanted' fails =>
    have longer : step :: steps = (step :: before) ++ t :: after := by rw [place, List.cons_append]
    exact .failed longer (.cons wanted passed others) wanted' fails
  | @ended before after t later failure place others ended =>
    have longer : step :: steps = (step :: before) ++ t :: after := by rw [place, List.cons_append]
    exact .ended longer (.cons wanted passed others) ended

/-- A run of steps takes its course. -/
theorem course_runSteps (steps : List (Step Item Input R)) (s : Session Item Input R) :
    Course steps s (reach steps s) ((runSteps steps).run s) := by
  induction steps generalizing s with
  | nil => exact .complete .nil
  | cons step steps ih =>
    rcases first_step s step with ⟨failure, ended⟩ | ⟨wanted, ⟨s', passed⟩ | ⟨stop, s', fails⟩⟩
    · rw [runSteps_of_over ended, reach_of_over ended]
      exact .ended (List.nil_append _).symm .nil ended
    · rw [runSteps_of_wanted wanted, passed, reach_of_passed wanted passed]
      exact .cons wanted passed (ih s')
    · rw [runSteps_of_wanted wanted, fails, reach_of_failed wanted fails]
      exact .failed (List.nil_append _).symm .nil wanted fails

/-- Steps that have passed are run before the rest, and only the rest decides the ending. -/
theorem PassAll.append (passed : PassAll start steps last) (rest : List (Step Item Input R)) :
    reach (steps ++ rest) start = steps.length + reach rest last ∧
      (runSteps (steps ++ rest)).run start = (runSteps rest).run last := by
  induction passed with
  | nil => exact ⟨by simp, rfl⟩
  | cons wanted passed others ih =>
    obtain ⟨far, ending⟩ := ih
    rw [List.cons_append, reach_of_passed wanted passed, runSteps_of_wanted wanted, passed, far,
      List.length_cons]
    exact ⟨by omega, ending⟩

/-- A run of steps takes its course, and it could have taken no other. -/
theorem course_iff {k : Nat} {ending : Ending Item Input R} :
    Course steps start k ending ↔ k = reach steps start ∧ ending = (runSteps steps).run start := by
  constructor
  · intro course
    cases course with
    | complete passed =>
      have all := passed.append []
      rw [List.append_nil] at all
      exact ⟨all.1.symm, all.2.symm⟩
    | failed place passed wanted fails =>
      rw [place, (passed.append _).1, (passed.append _).2, reach_of_failed wanted fails,
        runSteps_of_wanted wanted, fails]
      exact ⟨rfl, rfl⟩
    | ended place passed ended =>
      rw [place, (passed.append _).1, (passed.append _).2, reach_of_over ended,
        runSteps_of_over ended]
      exact ⟨rfl, rfl⟩
  · rintro ⟨rfl, rfl⟩
    exact course_runSteps steps start

/-- A course ends well exactly if all steps have passed. -/
theorem Course.succeeds_iff {k : Nat} {ending : Ending Item Input R}
    (course : Course steps start k ending) :
    (∃ last, ending = .ok () last) ↔ k = steps.length ∧ ∃ last, PassAll start steps last := by
  constructor
  · rintro ⟨last, rfl⟩
    cases course with
    | complete passed => exact ⟨rfl, last, passed⟩
  · rintro ⟨-, last, passed⟩
    have all := passed.append []
    rw [List.append_nil] at all
    exact ⟨last, (course_iff.1 course).2.trans all.2⟩

/-! ## What can be seen of a run -/

/-- What each step does to what is observed is done once for each step that is run, in order. -/
theorem observed_runSteps {α : Type} {observe : Session Item Input R → α}
    {effect : Step Item Input R → α → α} (observed : Observed steps observe effect)
    (s : Session Item Input R) :
    observe (Ending.left ((runSteps steps).run s)) =
      (steps.take (reach steps s)).foldl (fun a step => effect step a) (observe s) := by
  induction steps generalizing s with
  | nil => rfl
  | cons step steps ih =>
    obtain ⟨first, others⟩ := List.forall_mem_cons.1 observed
    have seen := first s
    rcases first_step s step with ⟨failure, ended⟩ | ⟨wanted, ⟨s', passed⟩ | ⟨stop, s', fails⟩⟩
    · rw [runSteps_of_over ended, reach_of_over ended]
      rfl
    · rw [passed] at seen
      rw [runSteps_of_wanted wanted, passed, reach_of_passed wanted passed, List.take_succ_cons,
        List.foldl_cons, ← seen]
      exact ih others s'
    · rw [fails] at seen
      rw [runSteps_of_wanted wanted, fails, reach_of_failed wanted fails, List.take_succ_cons,
        List.take_zero, List.foldl_cons, ← seen]
      rfl

end Steps

/-- The new state is the input if the pipeline seeds and nothing else is there. -/
theorem run_eq (p : Pipeline Item Input R) (request : Request Input R) (w : World Item) :
    p.run.run ⟨w, request⟩ = (runSteps p.steps).run ⟨w, p.opening request⟩ := by
  cases seeds : p.seeds with
  | false =>
    have same : p.opening request = request := by simp [opening, seeds]
    rw [same, run, seeds]
    rfl
  | true =>
    have same : p.opening request = request.seed := by
      cases filled : request.newState <;> simp [opening, seeds, Request.seed, filled]
      rw [← filled]
    rw [same, run, seeds]
    rfl

/-- There is one number of steps that a run of a pipeline gets to: so many of them are run, each
once and in order, and no other. The run succeeds exactly if these are all steps and all of them
have passed; and whatever each step does to what is observed is done by just these. -/
theorem runs_in_order (p : Pipeline Item Input R) (request : Request Input R) (w : World Item) :
    ∃! k, Course p.steps ⟨w, p.opening request⟩ k (p.run.run ⟨w, request⟩) ∧
      ((∃ last, p.run.run ⟨w, request⟩ = .ok () last) ↔
        k = p.steps.length ∧ ∃ last, PassAll ⟨w, p.opening request⟩ p.steps last) ∧
      ∀ (α : Type) (observe : Session Item Input R → α) (effect : Step Item Input R → α → α),
        Observed p.steps observe effect →
          observe (Ending.left (p.run.run ⟨w, request⟩)) =
            (p.steps.take k).foldl (fun a step => effect step a)
              (observe ⟨w, p.opening request⟩) := by
  have course := course_runSteps p.steps ⟨w, p.opening request⟩
  rw [run_eq]
  refine ⟨reach p.steps ⟨w, p.opening request⟩,
    ⟨course, course.succeeds_iff, fun α observe effect observed => ?_⟩, fun k other => ?_⟩
  · exact observed_runSteps observed _
  · exact (course_iff.1 other.1).1

end Steward.Pipeline
