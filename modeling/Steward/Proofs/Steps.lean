import Steward.Catalog.All
import Steward.Controller.Executions
import Steward.Proofs.Ends

/-!
# How steps end

For each step of the catalog a rule that says what has to be shown of how it ends: of its value, of
each failure of its own, and of the operations that it is made of. The slots that the step reads are
taken to be filled. No other proof looks into these steps.
-/

namespace Steward

open Catalog

variable {Item Spec Status : Type} [Managed Spec Status]

theorem forall_kind {call : Call} {kind : Kind} {P : Kind → Prop} (own : call.kind = some kind)
    (holds : P kind) : ∀ kind', call.kind = some kind' → P kind' := by
  intro kind' own'
  obtain rfl : kind = kind' := Option.some.inj (own.symm.trans own')
  exact holds

theorem not_noKind {call : Call} {kind : Kind} {P : Prop} (own : call.kind = some kind) :
    call.kind = none → P := by
  intro none
  rw [own] at none
  cases none

/-! ## Steps on resources -/

section Resources

variable {s : Session Item (Resource Spec Status) (Resource Spec Status)}
  {Q : Unit → Session Item (Resource Spec Status) (Resource Spec Status) → Prop}
  {E : Stop → Session Item (Resource Spec Status) (Resource Spec Status) → Prop}
  {state : Resource Spec Status}

theorem ends_validate (valid : s.request.input.violation? = none → Q () s)
    (invalid : ∀ violation, s.request.input.violation? = some violation →
      E (.failed (.invalidArgument violation.message)) s) : Ends validate.run s Q E := by
  simp only [validate, ends_bind, ends_request]
  split
  · next none => exact valid none
  · next violation found => exact invalid violation found

omit [Managed Spec Status] in
theorem ends_resolveSlug (filled : s.request.newState = some state)
    (resolved : ∀ slug, resolvedSlug state.metadata = .ok slug →
      Q () { s with request := { s.request with
        newState := some (state.withMetadata fun m => { m with slug := slug }) } })
    (unresolved : ∀ failure, resolvedSlug state.metadata = .error failure → E (.failed failure) s) :
    Ends resolveSlug.run s Q E := by
  simp only [resolveSlug, ends_bind, ends_newState, ends_work_ofExcept, filled, reduceCtorEq,
    false_implies, and_true, Option.some.injEq, forall_eq', Work.setNewState, ends_modifyRequest]
  exact ⟨resolved, unresolved⟩

theorem ends_checkDuplicate (filled : s.request.newState = some state)
    (looked : ∀ kind, s.request.call.kind = some kind → state.metadata.slug ≠ "" →
      Ends (findByKey s.request.call kind state.metadata.scope state.metadata.slug) s.world
        (fun (found : List (Resource Spec Status)) w =>
          (found = [] → Q () { s with world := w }) ∧
          ∀ taken others, found = taken :: others →
            E (.failed (.alreadyExists kind.name state.metadata.slug taken.id))
              { s with world := w })
        fun stop w => E stop { s with world := w })
    (unresolved : state.metadata.slug = "" →
      E (.failed (.internal "slug must be resolved before the duplicate check")) s)
    (noKind : s.request.call.kind = none → E (.failed kindMissing) s) :
    Ends checkDuplicate.run s Q E := by
  simp only [checkDuplicate, ends_bind, ends_requireKind, ends_newState, filled, reduceCtorEq,
    false_implies, and_true, Option.some.injEq, forall_eq', ends_work_unless, ends_request,
    ends_perform]
  refine ⟨fun kind own => ⟨unresolved, fun there => ?_⟩, noKind⟩
  refine (looked kind own there).imp ?_ fun _ _ stopped => stopped
  rintro found w ⟨free, taken⟩
  cases found with
  | nil => exact free rfl
  | cons first others => exact taken first others rfl

/-- The new state is filled from the input if it is not, then stamped with a moment and an id. -/
theorem ends_buildNewState (filled : s.request.seed.newState = some state)
    (stamps : ∀ kind, s.request.call.kind = some kind →
      Ends (idOrNew kind state.id : Op Item String)
        { s.world with clock := s.world.clock.next.2 }
        (fun id w => Q () ⟨w, { s.request.seed with newState := some (Resource.withFreshStatus
          { state with
            kindName := kind.name
            apiVersion := apiVersion
            metadata := { state.metadata with
              id := id
              createdAt := some s.world.clock.next.1
              updatedAt := some s.world.clock.next.1 } }) }⟩)
        fun stop w => E stop ⟨w, s.request.seed⟩)
    (noKind : s.request.call.kind = none → E (.failed kindMissing) s) :
    Ends buildNewState.run s Q E := by
  simp only [buildNewState, ends_bind, ends_requireKind, ends_modifyRequest, ends_newState, filled,
    reduceCtorEq, false_implies, and_true, Option.some.injEq, forall_eq', ends_perform,
    Op.readClock, ends_modifyGet, Work.setNewState]
  exact ⟨stamps, noKind⟩

theorem ends_persistNewState (filled : s.request.newState = some state)
    (stores : ∀ kind, s.request.call.kind = some kind →
      Ends (persistResource s.request.call kind state) s.world
        (fun _ w => Q () { s with world := w }) fun stop w => E stop { s with world := w })
    (noKind : s.request.call.kind = none → E (.failed kindMissing) s) :
    Ends persistNewState s Q E := by
  simp only [persistNewState, ends_bind, ends_requireKind, ends_newState, filled, reduceCtorEq,
    false_implies, and_true, Option.some.injEq, forall_eq', ends_request, ends_perform]
  exact ⟨stores, noKind⟩

omit [Managed Spec Status] in
theorem ends_publish {s : Session (Resource Spec Status) (Resource Spec Status)
      (Resource Spec Status)} {Q : Unit → Session _ _ _ → Prop} {E : Stop → Session _ _ _ → Prop}
    (filled : s.request.newState = some state)
    (handed : Q () { s with world := { s.world with
      broker := (s.world.broker.broadcast state.id state).2 } }) : Ends publish.run s Q E := by
  simp only [publish, ends_bind, ends_newState, filled, reduceCtorEq, false_implies, and_true,
    Option.some.injEq, forall_eq', ends_perform, Op.publish, ends_modifyGet, ends_pure]
  exact handed

/-- The stored version is looked for by id, and without an id by slug. -/
theorem ends_loadExisting
    (byId : ∀ kind, s.request.call.kind = some kind →
      (s.request.newState.getD s.request.input).metadata.id ≠ "" →
      Ends (load s.request.call kind (s.request.newState.getD s.request.input).metadata.id) s.world
        (fun old w => Q () ⟨w, { s.request with existing := some old }⟩)
        fun stop w => E stop { s with world := w })
    (bySlug : ∀ kind, s.request.call.kind = some kind →
      (s.request.newState.getD s.request.input).metadata.id = "" →
      (s.request.newState.getD s.request.input).metadata.slug ≠ "" →
      Ends (loadByKey s.request.call kind
          (s.request.newState.getD s.request.input).metadata.scope
          (s.request.newState.getD s.request.input).metadata.slug) s.world
        (fun (old : Resource Spec Status) w => Q () ⟨w, { s.request with
          newState := s.request.newState.map (·.withId old.id), existing := some old }⟩)
        fun stop w => E stop { s with world := w })
    (neither : (s.request.newState.getD s.request.input).metadata.id = "" →
      (s.request.newState.getD s.request.input).metadata.slug = "" →
      E (.failed (.invalidArgument "metadata.id or metadata.slug is required")) s)
    (noKind : s.request.call.kind = none → E (.failed kindMissing) s) :
    Ends loadExisting.run s Q E := by
  simp only [loadExisting, ends_bind, ends_requireKind, ends_request]
  refine ⟨fun kind own => ?_, noKind⟩
  split
  · next chosen =>
    simp only [ends_bind, ends_perform, Work.setExisting, ends_modifyRequest]
    exact byId kind own chosen
  next unchosen =>
  split
  · next there =>
    simp only [ends_bind, ends_perform, Work.setExisting, ends_modifyRequest]
    exact bySlug kind own (Classical.not_not.1 unchosen) there
  · next missing => exact neither (Classical.not_not.1 unchosen) (Classical.not_not.1 missing)

theorem ends_buildUpdateState {old : Resource Spec Status}
    (filled : s.request.existing = some old)
    (timed : Ends (nextUpdate old.metadata.updatedAt) s
      (fun moment s' => Q () { s' with request := { s'.request with
        newState := some ((old.merge s.request.input).withMetadata
          fun stored => updatedMetadata stored s.request.input.metadata moment) } }) E) :
    Ends buildUpdateState.run s Q E := by
  simp only [buildUpdateState, ends_bind, ends_existing, filled, reduceCtorEq, false_implies,
    and_true, Option.some.injEq, forall_eq', ends_request, Work.setNewState, ends_modifyRequest]
  exact timed

/-- The request when it is known which stored resource, if any, has the natural key of the new
state. -/
def lookedUp (r : Request (Resource Spec Status) (Resource Spec Status))
    (only : Option (Resource Spec Status)) :
    Request (Resource Spec Status) (Resource Spec Status) :=
  let noted := (r.leave existsNote (.flag only.isSome)).leave shouldCreateNote (.flag only.isNone)
  match only with
  | none => noted
  | some old =>
    { noted with newState := noted.newState.map (·.withId old.id), existing := some old }

omit [Managed Spec Status] in
theorem find?_lookedUp {r : Request (Resource Spec Status) (Resource Spec Status)}
    {only : Option (Resource Spec Status)} :
    (lookedUp r only).find? shouldCreateNote Note.flag? = some only.isNone := by
  cases only with
  | none => exact Request.find?_leave_self (r.leave existsNote _) shouldCreateNote _ Note.flag?
  | some old => exact Request.find?_leave_self (r.leave existsNote _) shouldCreateNote _ Note.flag?

theorem ends_loadForApply (filled : s.request.newState = some state)
    (looked : ∀ kind, s.request.call.kind = some kind →
      Ends (findByKey s.request.call kind state.metadata.scope state.metadata.slug) s.world
        (fun (found : List (Resource Spec Status)) w =>
          Ends (unique? kind state.metadata.slug state.metadata.scope found) w
            (fun only w => Q () ⟨w, lookedUp s.request only⟩)
            fun stop w => E stop { s with world := w })
        fun stop w => E stop { s with world := w })
    (noKind : s.request.call.kind = none → E (.failed kindMissing) s) :
    Ends loadForApply.run s Q E := by
  simp only [loadForApply, ends_bind, ends_requireKind, ends_newState, filled, reduceCtorEq,
    false_implies, and_true, Option.some.injEq, forall_eq', ends_request, ends_perform]
  refine ⟨fun kind own => ?_, noKind⟩
  refine (looked kind own).imp (fun found w unique => ?_) fun _ _ stopped => stopped
  refine unique.imp (fun only w' holds => ?_) fun _ _ stopped => stopped
  simp only [Work.leave, ends_modifyRequest]
  cases only with
  | none => exact holds
  | some old =>
    simp only [ends_bind, ends_modifyRequest, Work.setExisting]
    exact holds

end Resources

/-- Choosing the moment of a change reads the clock, and breaks off beyond the last moment. -/
theorem ends_nextUpdate {Input R : Type} {s : Session Item Input R} {previous : Option Timestamp}
    {Q : Timestamp → Session Item Input R → Prop} {E : Stop → Session Item Input R → Prop}
    (chosen : ∀ moment, Timestamp.next? previous s.world.clock.next.1 = some moment →
      Q moment { s with world := { s.world with clock := s.world.clock.next.2 } })
    (beyond : E (.broken "`DateTime + TimeDelta` overflowed")
      { s with world := { s.world with clock := s.world.clock.next.2 } }) :
    Ends (nextUpdate previous) s Q E := by
  simp only [nextUpdate, ends_bind, ends_perform, Op.readClock, ends_modifyGet]
  split
  · next moment next => exact chosen moment next
  · exact beyond

theorem ends_mergeStatus {R : Type} {s : Session Item WorkflowExecution R}
    {Q : Unit → Session Item WorkflowExecution R → Prop}
    {E : Stop → Session Item WorkflowExecution R → Prop} {old : WorkflowExecution}
    (filled : s.request.existing = some old)
    (timed : Executions.checkPhase old s.request.input.status.phase = .ok () →
      Ends (nextUpdate old.metadata.updatedAt) s
        (fun moment s' => Q () { s' with request := { s'.request with
          newState := some { old with
            metadata := { old.metadata with updatedAt := some moment },
            status := s.request.input.status } } }) E)
    (refused : ∀ failure, Executions.checkPhase old s.request.input.status.phase = .error failure →
      E (.failed failure) s) : Ends Executions.mergeStatus.run s Q E := by
  simp only [Executions.mergeStatus, ends_bind, ends_existing, filled, reduceCtorEq, false_implies,
    and_true, Option.some.injEq, forall_eq', ends_request, ends_work_ofExcept, Work.setNewState,
    ends_modifyRequest]
  exact ⟨fun _ => timed, refused⟩

/-! ## Steps on ids and references -/

section Ids

variable {s : Session Item String (Resource Spec Status)}
  {Q : Unit → Session Item String (Resource Spec Status) → Prop}
  {E : Stop → Session Item String (Resource Spec Status) → Prop}

theorem ends_extractResourceId {R : Type} {s : Session Item String R}
    {Q : Unit → Session Item String R → Prop} {E : Stop → Session Item String R → Prop}
    (noted : Text.trim s.request.input ≠ "" →
      Q () ⟨s.world, s.request.leave resourceIdNote (.text (Text.trim s.request.input))⟩)
    (blank : Text.trim s.request.input = "" →
      E (.failed (.invalidArgument "resource id is required")) s) :
    Ends extractResourceId.run s Q E := by
  simp only [extractResourceId, ends_bind, ends_request, ends_work_unless, Work.leave,
    ends_modifyRequest]
  exact ⟨blank, noted⟩

theorem ends_extractedId {R : Type} {s : Session Item String R}
    {Q : String → Session Item String R → Prop} {E : Stop → Session Item String R → Prop}
    (found : ∀ id, s.request.find? resourceIdNote Note.text? = some id → Q id s)
    (missing : s.request.find? resourceIdNote Note.text? = none →
      E (.failed (.stateNotSet resourceIdNote)) s) :
    Ends (extractedId : Work Item String R String) s Q E := by
  simp only [extractedId, ends_bind, ends_request]
  split
  · next id noted => exact found id noted
  · next none => exact missing none

/-- The id is the one that was taken out of the input, and if none was, the input without the
blanks around it. -/
theorem ends_wantedId {R : Type} {s : Session Item String R}
    {Q : String → Session Item String R → Prop} {E : Stop → Session Item String R → Prop}
    (found : ∀ id, (s.request.contains resourceIdNote = false → id = Text.trim s.request.input) →
      Q id s)
    (missing : s.request.contains resourceIdNote = true →
      s.request.find? resourceIdNote Note.text? = none →
      E (.failed (.stateNotSet resourceIdNote)) s) :
    Ends (wantedId : Work Item String R String) s Q E := by
  simp only [wantedId, ends_bind, ends_request]
  split
  · next noted => exact ends_extractedId (fun id _ => found id (by simp [noted])) (missing noted)
  · exact found _ fun _ => rfl

theorem ends_loadTarget
    (loads : ∀ kind, s.request.call.kind = some kind → ∀ id,
      (s.request.contains resourceIdNote = false → id = Text.trim s.request.input) → id ≠ "" →
      Ends (load s.request.call kind id) s.world
        (fun (target : Resource Spec Status) w =>
          Q () ⟨w, s.request.leave targetNote (.resource target)⟩)
        fun stop w => E stop { s with world := w })
    (blank : (s.request.contains resourceIdNote = false → Text.trim s.request.input = "") →
      E (.failed (.invalidArgument "resource id is required")) s)
    (missing : s.request.contains resourceIdNote = true →
      s.request.find? resourceIdNote Note.text? = none →
      E (.failed (.stateNotSet resourceIdNote)) s)
    (noKind : s.request.call.kind = none → E (.failed kindMissing) s) :
    Ends loadTarget.run s Q E := by
  simp only [loadTarget, ends_bind, ends_requireKind]
  refine ⟨fun kind own => ends_wantedId (fun id same => ?_) missing, noKind⟩
  simp only [ends_work_unless, ends_bind, ends_request, Work.leave, ends_modifyRequest,
    ends_perform]
  exact ⟨fun unnamed => blank fun unnoted => (same unnoted).symm.trans unnamed,
    loads kind own id same⟩

theorem ends_loadExistingForDelete
    (loads : ∀ kind, s.request.call.kind = some kind →
      ∀ id, s.request.find? resourceIdNote Note.text? = some id →
      Ends (load s.request.call kind id) s.world
        (fun (old : Resource Spec Status) w =>
          Q () ⟨w, s.request.leave existingNote (.resource old)⟩)
        fun stop w => E stop { s with world := w })
    (missing : s.request.find? resourceIdNote Note.text? = none →
      E (.failed (.stateNotSet resourceIdNote)) s)
    (noKind : s.request.call.kind = none → E (.failed kindMissing) s) :
    Ends loadExistingForDelete.run s Q E := by
  simp only [loadExistingForDelete, ends_bind, ends_requireKind]
  refine ⟨fun kind own => ends_extractedId (fun id noted => ?_) missing, noKind⟩
  simp only [ends_request, Work.leave, ends_modifyRequest, ends_perform]
  exact loads kind own id noted

theorem ends_deleteStep {R : Type} {s : Session Item String R}
    {Q : Unit → Session Item String R → Prop} {E : Stop → Session Item String R → Prop}
    (deletes : ∀ kind, s.request.call.kind = some kind →
      ∀ id, s.request.find? resourceIdNote Note.text? = some id →
      Ends (Op.delete s.request.call ⟨kind.name, id⟩) s.world
        (fun answer w => (answer = .ok () → Q () { s with world := w }) ∧
          ∀ failure, answer = .error failure →
            E (.failed (failure.explain kind.name id)) { s with world := w })
        fun stop w => E stop { s with world := w })
    (missing : s.request.find? resourceIdNote Note.text? = none →
      E (.failed (.stateNotSet resourceIdNote)) s)
    (noKind : s.request.call.kind = none → E (.failed kindMissing) s) :
    Ends deleteResource.run s Q E := by
  simp only [deleteResource, ends_bind, ends_requireKind]
  refine ⟨fun kind own => ends_extractedId (fun id noted => ?_) missing, noKind⟩
  simp only [ends_request, ends_perform]
  refine (deletes kind own id noted).imp ?_ fun _ _ stopped => stopped
  rintro answer w ⟨done, failed⟩
  cases answer with
  | ok _ => exact done rfl
  | error failure => exact failed failure rfl

theorem ends_loadByReference {s : Session Item Reference (Resource Spec Status)}
    {Q : Unit → Session Item Reference (Resource Spec Status) → Prop}
    {E : Stop → Session Item Reference (Resource Spec Status) → Prop}
    (loads : ∀ kind, s.request.call.kind = some kind →
      Text.isAllBlank s.request.input.slug = false →
      checkReferenceKind s.request.input kind = .ok () →
      Ends (loadByKey s.request.call kind s.request.input.scope s.request.input.slug) s.world
        (fun (target : Resource Spec Status) w =>
          Q () ⟨w, s.request.leave targetNote (.resource target)⟩)
        fun stop w => E stop { s with world := w })
    (blank : Text.isAllBlank s.request.input.slug = true →
      E (.failed (.invalidArgument "reference slug is required")) s)
    (other : ∀ kind failure, s.request.call.kind = some kind →
      checkReferenceKind s.request.input kind = .error failure → E (.failed failure) s)
    (noKind : s.request.call.kind = none → E (.failed kindMissing) s) :
    Ends loadByReference.run s Q E := by
  simp only [loadByReference, ends_bind, ends_requireKind, ends_request, ends_work_unless,
    ends_work_ofExcept, Work.leave, ends_modifyRequest, ends_perform]
  refine ⟨fun kind own => ⟨blank, fun there => ⟨fun _ same => ?_,
    fun failure => other kind failure own⟩⟩, noKind⟩
  exact loads kind own (Bool.eq_false_iff.2 there) same

end Ids

end Steward
