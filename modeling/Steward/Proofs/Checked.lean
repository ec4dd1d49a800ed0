import Steward.Proofs.Slots

/-!
# What the check of an order of steps says

A pipeline is put together from steps in a given order, or refused for the first slot that is read
before it is filled. Main statements: `firstGap_eq_none` and `firstGap_eq_some` for the check,
`build_eq_error` for the refusal, and `checkedSoundly_catalog` for the steps of the catalog.
-/

namespace Steward

variable {Item Input R : Type}

/-- The slots that are filled when certain steps have been run. -/
def filledAfter (filled : List Slot) (before : List (Step Item Input R)) : List Slot :=
  filled ++ before.flatMap (·.contract.provides)

/-- Every slot that the step reads is filled. -/
def Served (filled : List Slot) (step : Step Item Input R) : Prop :=
  ∀ slot ∈ step.contract.requires, slot ∈ filled

/-- Every step is served by what is filled at the start and by the steps before it. -/
def AllServed (filled : List Slot) (steps : List (Step Item Input R)) : Prop :=
  ∀ before step after, steps = before ++ step :: after → Served (filledAfter filled before) step

/-- Among the steps, `step` is the first that is not served, and of the slots that it reads `slot`
is the first that is not filled. -/
structure FirstUnserved (filled : List Slot) (steps before : List (Step Item Input R))
    (step : Step Item Input R) (slot : Slot) : Prop where
  place : ∃ after, steps = before ++ step :: after
  served : AllServed filled before
  missing : slot ∉ filledAfter filled before
  first : ∃ met rest, step.contract.requires = met ++ slot :: rest ∧
    ∀ other ∈ met, other ∈ filledAfter filled before

variable {filled : List Slot} {step : Step Item Input R} {steps : List (Step Item Input R)}

@[simp]
theorem filledAfter_nil : filledAfter filled ([] : List (Step Item Input R)) = filled := by
  simp [filledAfter]

theorem filledAfter_cons {before : List (Step Item Input R)} :
    filledAfter filled (step :: before) =
      filledAfter (filled ++ step.contract.provides) before := by
  simp [filledAfter]

theorem allServed_nil : AllServed filled ([] : List (Step Item Input R)) := by
  intro before step after place
  cases before <;> cases place

theorem allServed_cons :
    AllServed filled (step :: steps) ↔
      Served filled step ∧ AllServed (filled ++ step.contract.provides) steps := by
  constructor
  · intro all
    refine ⟨?_, fun before later after place => ?_⟩
    · have here := all [] step steps rfl
      rwa [filledAfter_nil] at here
    · have there := all (step :: before) later after (by rw [place, List.cons_append])
      rwa [filledAfter_cons] at there
  · rintro ⟨here, there⟩ before later after place
    cases before with
    | nil =>
      obtain ⟨rfl, rfl⟩ := List.cons.inj place
      rwa [filledAfter_nil]
    | cons first before =>
      obtain ⟨rfl, others⟩ := List.cons.inj place
      rw [filledAfter_cons]
      exact there before later after others

/-- Where the first step is served, the first unserved step is one of the others. -/
theorem firstUnserved_cons {first : Step Item Input R} {before : List (Step Item Input R)}
    {slot : Slot} (served : Served filled first) :
    FirstUnserved filled (first :: steps) (first :: before) step slot ↔
      FirstUnserved (filled ++ first.contract.provides) steps before step slot := by
  constructor
  · rintro ⟨⟨after, place⟩, earlier, missing, order⟩
    rw [filledAfter_cons] at missing order
    exact ⟨⟨after, (List.cons.inj place).2⟩, (allServed_cons.1 earlier).2, missing, order⟩
  · rintro ⟨⟨after, place⟩, earlier, missing, order⟩
    rw [← filledAfter_cons] at missing order
    exact ⟨⟨after, by rw [place, List.cons_append]⟩, allServed_cons.2 ⟨served, earlier⟩, missing,
      order⟩

/-- A step that is not served comes first in a list with it in front. -/
theorem FirstUnserved.before_eq_nil {before : List (Step Item Input R)}
    {first : Step Item Input R} {slot : Slot} (unserved : ¬ Served filled first)
    (found : FirstUnserved filled (first :: steps) before step slot) : before = [] := by
  cases before with
  | nil => rfl
  | cons other before =>
    obtain ⟨after, place⟩ := found.place
    obtain ⟨rfl, -⟩ := List.cons.inj place
    exact absurd (allServed_cons.1 found.served).1 unserved

/-- Of the slots that the step reads, `slot` is the first that is not filled. -/
def FirstMissing (filled : List Slot) (step : Step Item Input R) (slot : Slot) : Prop :=
  step.contract.requires.find? (!filled.contains ·) = some slot

theorem firstMissing_iff {slot : Slot} :
    FirstMissing filled step slot ↔ slot ∉ filled ∧
      ∃ met rest, step.contract.requires = met ++ slot :: rest ∧ ∀ other ∈ met, other ∈ filled := by
  rw [FirstMissing, List.find?_eq_some_iff_append]
  simp

/-- A step is served if none of the slots that it reads is missing. -/
theorem served_iff :
    Served filled step ↔ step.contract.requires.find? (!filled.contains ·) = none := by
  rw [List.find?_eq_none]
  simp [Served]

theorem firstUnserved_nil {slot : Slot} :
    FirstUnserved filled (step :: steps) [] step slot ↔ FirstMissing filled step slot := by
  rw [firstMissing_iff]
  constructor
  · rintro ⟨-, -, missing, order⟩
    rw [filledAfter_nil] at missing order
    exact ⟨missing, order⟩
  · rintro ⟨missing, order⟩
    refine ⟨⟨steps, rfl⟩, allServed_nil, ?_, ?_⟩
    · rwa [filledAfter_nil]
    · rwa [filledAfter_nil]

/-! ## The check -/

/-- The check finds nothing exactly if every step is served. -/
theorem firstGap_eq_none : firstGap filled steps = none ↔ AllServed filled steps := by
  induction steps generalizing filled with
  | nil => exact iff_of_true rfl allServed_nil
  | cons step steps ih =>
    rw [allServed_cons, served_iff, ← ih, firstGap]
    cases step.contract.requires.find? (!filled.contains ·) <;> simp

/-- The check finds the first slot that is missing to the first step that is not served. -/
theorem firstGap_eq_some {gap : Gap} :
    firstGap filled steps = some gap ↔ ∃ before step slot,
      FirstUnserved filled steps before step slot ∧ gap = ⟨step.name, slot⟩ := by
  induction steps generalizing filled with
  | nil =>
    refine iff_of_false nofun ?_
    rintro ⟨before, step, slot, ⟨⟨after, place⟩, -⟩, -⟩
    cases before <;> cases place
  | cons first steps ih =>
    cases missing : first.contract.requires.find? (!filled.contains ·) with
    | none =>
      have served : Served filled first := served_iff.2 missing
      rw [firstGap, missing]
      refine ih.trans ⟨?_, ?_⟩
      · rintro ⟨before, step, slot, found, named⟩
        exact ⟨first :: before, step, slot, (firstUnserved_cons served).2 found, named⟩
      · rintro ⟨before, step, slot, found, named⟩
        cases before with
        | nil =>
          obtain ⟨after, place⟩ := found.place
          obtain ⟨rfl, -⟩ := List.cons.inj place
          have here := firstUnserved_nil.1 found
          rw [FirstMissing, missing] at here
          cases here
        | cons other before =>
          obtain ⟨after, place⟩ := found.place
          obtain ⟨rfl, -⟩ := List.cons.inj place
          exact ⟨before, step, slot, (firstUnserved_cons served).1 found, named⟩
    | some slot =>
      have unserved : ¬ Served filled first := by
        rw [served_iff, missing]
        exact nofun
      rw [firstGap, missing, Option.some.injEq]
      constructor
      · rintro rfl
        exact ⟨[], first, slot, firstUnserved_nil.2 missing, rfl⟩
      · rintro ⟨before, step, other, found, rfl⟩
        obtain rfl := found.before_eq_nil unserved
        obtain ⟨after, place⟩ := found.place
        obtain ⟨rfl, -⟩ := List.cons.inj place
        have same := (firstUnserved_nil.1 found).symm.trans missing
        rw [Option.some.inj same]

/-! ## Putting a pipeline together -/

/-- A pipeline that is put together is made of what was given. -/
theorem build_eq_ok {name : String} {seeds : Bool} {p : Pipeline Item Input R} :
    Pipeline.build name seeds steps = .ok p ↔
      p.name = name ∧ p.seeds = seeds ∧ p.steps = steps := by
  obtain ⟨name', seeds', steps', gapless⟩ := p
  unfold Pipeline.build
  split
  · simp only [Except.ok.injEq, Pipeline.mk.injEq]
    exact ⟨fun ⟨a, b, c⟩ => ⟨a.symm, b.symm, c.symm⟩, fun ⟨a, b, c⟩ => ⟨a.symm, b.symm, c.symm⟩⟩
  · next gap found =>
    simp only [reduceCtorEq, false_iff]
    rintro ⟨-, rfl, rfl⟩
    rw [gapless] at found
    cases found

/-- A pipeline is refused for the first slot that is missing to the first step that is not
served. -/
theorem build_eq_error {name : String} {seeds : Bool} {failure : Failure} :
    Pipeline.build name seeds steps = .error failure ↔ ∃ before step slot,
      FirstUnserved (seedSlots seeds) steps before step slot ∧
        failure = .misconfigured name step.name slot.text := by
  unfold Pipeline.build
  split
  · next gapless =>
    refine iff_of_false nofun ?_
    rintro ⟨before, step, slot, found, -⟩
    have gap := firstGap_eq_some.2 ⟨before, step, slot, found, rfl⟩
    rw [gapless] at gap
    cases gap
  · next gap found =>
    obtain ⟨before, step, slot, unserved, rfl⟩ := firstGap_eq_some.1 found
    constructor
    · intro refused
      cases refused
      exact ⟨before, step, slot, unserved, rfl⟩
    · rintro ⟨before', step', slot', unserved', rfl⟩
      have same := firstGap_eq_some.2 ⟨before', step', slot', unserved', rfl⟩
      rw [found, Option.some.injEq, Gap.mk.injEq] at same
      rw [same.1, same.2]

/-- However the known steps are put together: a pipeline that is accepted has the given steps, each
of them served, and no run of it on a request without notes finds a slot empty; a pipeline is
refused for the first slot that is missing to the first step that is not served. -/
def CheckedSoundly (known : List (Step Item Input R)) : Prop :=
  ∀ (name : String) (seeds : Bool) (steps : List (Step Item Input R)),
    (∀ step ∈ steps, step ∈ known) →
      (∀ p, Pipeline.build name seeds steps = .ok p →
        p.name = name ∧ p.seeds = seeds ∧ p.steps = steps ∧
        ∀ (call : Call) (input : Input) (newState existing : Option Input) (w : World Item)
          (slot : String), (Op.outcome (p.execute ⟨call, input, newState, existing, []⟩) w).1 ≠
            .error (.failed (.stateNotSet slot))) ∧
      ((∃ p, Pipeline.build name seeds steps = .ok p) ↔ AllServed (seedSlots seeds) steps) ∧
      ∀ failure, Pipeline.build name seeds steps = .error failure ↔ ∃ before step slot,
        FirstUnserved (seedSlots seeds) steps before step slot ∧
          failure = .misconfigured name step.name slot.text

theorem checkedSoundly_of_honest {known : List (Step Item Input R)}
    (honest : ∀ step ∈ known, Honest step) : CheckedSoundly known := by
  intro name seeds steps inside
  refine ⟨fun p built => ?_, ?_, fun failure => build_eq_error⟩
  · obtain ⟨named, seeded, same⟩ := build_eq_ok.1 built
    refine ⟨named, seeded, same, fun call input newState existing w slot => ?_⟩
    exact execute_sound (fun step there => honest step (inside step (same ▸ there))) call input
      newState existing w slot
  · rw [← firstGap_eq_none]
    constructor
    · rintro ⟨p, built⟩
      obtain ⟨-, rfl, rfl⟩ := build_eq_ok.1 built
      exact p.gapless
    · intro gapless
      exact ⟨⟨name, seeds, steps, gapless⟩, build_eq_ok.2 ⟨rfl, rfl, rfl⟩⟩

/-- The check of the order of steps is sound for the steps of the catalog: those on resources,
publishing among them where the broker hands out the resources, the merging of an execution's
status along with them, and those on ids. -/
theorem checkedSoundly_catalog (Spec Status : Type) [Managed Spec Status] (Item : Type) :
    CheckedSoundly
        (Catalog.resourceSteps : List (Step Item (Resource Spec Status) (Resource Spec Status))) ∧
      CheckedSoundly (Catalog.publish :: Catalog.resourceSteps :
        List (Step (Resource Spec Status) (Resource Spec Status) (Resource Spec Status))) ∧
      CheckedSoundly (Executions.mergeStatus :: Catalog.publish :: Catalog.resourceSteps :
        List (Step WorkflowExecution WorkflowExecution WorkflowExecution)) ∧
      CheckedSoundly
        (Catalog.idSteps : List (Step Item String (Resource Spec Status))) := by
  have resources : ∀ {Item Spec Status : Type} [Managed Spec Status],
      ∀ step ∈ (Catalog.resourceSteps :
        List (Step Item (Resource Spec Status) (Resource Spec Status))), Honest step :=
    fun _ inside => honest_resourceSteps inside
  refine ⟨checkedSoundly_of_honest resources, checkedSoundly_of_honest ?_,
    checkedSoundly_of_honest ?_, checkedSoundly_of_honest fun _ => honest_idSteps⟩
  · exact List.forall_mem_cons.2 ⟨honest_publish, resources⟩
  · exact List.forall_mem_cons.2
      ⟨honest_mergeStatus, List.forall_mem_cons.2 ⟨honest_publish, resources⟩⟩

/-- The pipeline that moves executions to another status is accepted, and no run of it finds a slot
empty; without the step that loads the stored execution it is refused for the first step. -/
theorem checked_statusSteps :
    (∃ p, Pipeline.build "status" false Executions.statusPipeline.steps = .ok p ∧
      ∀ call input w slot, (Op.outcome (p.execute ⟨call, input, none, none, []⟩) w).1 ≠
        .error (.failed (.stateNotSet slot))) ∧
    Pipeline.build "status" false Executions.statusPipeline.steps.tail =
      .error (.misconfigured "status" "MergeExecutionStatus" "existing") := by
  have known := (checkedSoundly_catalog ExecutionSpec ExecutionStatus WorkflowExecution).2.2.1
  have inside : ∀ step ∈ Executions.statusPipeline.steps,
      step ∈ Executions.mergeStatus :: Catalog.publish :: Catalog.resourceSteps := by
    simp [Executions.statusPipeline, Catalog.resourceSteps]
  obtain ⟨accepted, order, -⟩ := known "status" false _ inside
  obtain ⟨p, built⟩ := order.2 (firstGap_eq_none.1 Executions.statusPipeline.gapless)
  refine ⟨⟨p, built, fun call input w slot => ?_⟩, ?_⟩
  · exact (accepted p built).2.2.2 call input none none w slot
  · refine ((known "status" false _ fun step there => inside step (List.mem_of_mem_tail there)).2.2
      _).2 ?_
    exact ⟨[], Executions.mergeStatus, .existing, firstUnserved_nil.2 rfl, rfl⟩

end Steward
