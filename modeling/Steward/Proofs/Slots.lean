import Mathlib.Logic.Basic
import Steward.Proofs.Steps
import Steward.Proofs.Waits

/-!
# Checked pipelines do not miss a slot

A pipeline is put together only if every slot that a step reads is filled before. Each step of the
catalog keeps what its contract says: with the slots that it reads filled it never finds one of
them empty, and when it ends well the slots that it names are filled. So no run of a pipeline that
was put together from such steps stops because a slot is empty. Main statements:
`honest_resourceSteps` and `honest_idSteps` for the catalog, `runSteps_sound` and `execute_sound`.
-/

namespace Steward

variable {Item Input R : Type}

/-! ## Empty slots -/

/-- The stop reports an empty slot. -/
def LacksSlot : Stop → Prop
  | .failed (.stateNotSet _) => True
  | _ => False

/-- The slots are filled. A note with an id, where there is one, holds text. -/
structure Fills (slots : List Slot) (r : Request Input R) : Prop where
  newState : .newState ∈ slots → ∃ state, r.newState = some state
  existing : .existing ∈ slots → ∃ state, r.existing = some state
  resourceId : .resourceId ∈ slots → ∃ id, r.find? Catalog.resourceIdNote Note.text? = some id
  readable : r.contains Catalog.resourceIdNote = true →
    ∃ id, r.find? Catalog.resourceIdNote Note.text? = some id

namespace Fills

variable {slots : List Slot} {r : Request Input R}

theorem mono {fewer : List Slot} (fills : Fills slots r) (subset : ∀ slot ∈ fewer, slot ∈ slots) :
    Fills fewer r where
  newState inside := fills.newState (subset _ inside)
  existing inside := fills.existing (subset _ inside)
  resourceId inside := fills.resourceId (subset _ inside)
  readable := fills.readable

theorem setNewState (fills : Fills slots r) (state : Input) :
    Fills (slots ++ [.newState]) { r with newState := some state } where
  newState _ := ⟨state, rfl⟩
  existing inside := fills.existing (by simpa using inside)
  resourceId inside := fills.resourceId (by simpa using inside)
  readable := fills.readable

theorem mapNewState (fills : Fills slots r) (f : Input → Input) :
    Fills slots { r with newState := r.newState.map f } where
  newState inside := by
    obtain ⟨state, filled⟩ := fills.newState inside
    exact ⟨f state, by simp [filled]⟩
  existing := fills.existing
  resourceId := fills.resourceId
  readable := fills.readable

theorem setExisting (fills : Fills slots r) (state : Input) :
    Fills (slots ++ [.existing]) { r with existing := some state } where
  newState inside := fills.newState (by simpa using inside)
  existing _ := ⟨state, rfl⟩
  resourceId inside := fills.resourceId (by simpa using inside)
  readable := fills.readable

/-- Notes under other keys do not matter to the slots. -/
theorem leave (fills : Fills slots r) {key : String} (note : Note R)
    (other : Catalog.resourceIdNote ≠ key) : Fills slots (r.leave key note) := by
  have same : (r.leave key note).notes.lookup Catalog.resourceIdNote =
      r.notes.lookup Catalog.resourceIdNote := by
    rw [Request.leave, lookup_assign, if_neg other]
  refine ⟨fills.newState, fills.existing, ?_, ?_⟩
  · simpa only [Request.find?, same] using fills.resourceId
  · simpa only [Request.find?, Request.contains, same] using fills.readable

theorem leaveId (fills : Fills slots r) (id : String) :
    Fills (slots ++ [.resourceId]) (r.leave Catalog.resourceIdNote (.text id)) := by
  have found : (r.leave Catalog.resourceIdNote (.text id)).find? Catalog.resourceIdNote
      Note.text? = some id := by
    rw [Request.find?_leave_self]
    rfl
  refine ⟨fun inside => fills.newState (by simpa using inside),
    fun inside => fills.existing (by simpa using inside), fun _ => ⟨id, found⟩,
    fun _ => ⟨id, found⟩⟩

theorem seed (fills : Fills slots r) : Fills (slots ++ [.newState]) r.seed := by
  cases filled : r.newState with
  | none =>
    have seeded : r.seed = { r with newState := some r.input } := by simp [Request.seed, filled]
    rw [seeded]
    exact fills.setNewState r.input
  | some state =>
    have unchanged : r.seed = r := by simp [Request.seed, filled]
    rw [unchanged]
    refine ⟨fun _ => ⟨state, filled⟩, fun inside => fills.existing (by simpa using inside),
      fun inside => fills.resourceId (by simpa using inside), fills.readable⟩

end Fills

/-! ## Work that reads no slot -/

/-- Whatever the world, the operation does not report an empty slot. -/
def ReadsNoSlot {α : Type} (op : Op Item α) : Prop :=
  ∀ w, Ends op w (fun _ _ => True) fun stop _ => ¬ LacksSlot stop

namespace ReadsNoSlot

variable {α β : Type}

theorem pure (a : α) : ReadsNoSlot (Pure.pure a : Op Item α) := fun _ => trivial

theorem bind {op : Op Item β} {next : β → Op Item α} (first : ReadsNoSlot op)
    (then_ : ∀ b, ReadsNoSlot (next b)) : ReadsNoSlot (op >>= next) := by
  intro w
  rw [ends_bind]
  exact (first w).imp (fun b w' _ => then_ b w') fun _ _ other => other

theorem fail {failure : Failure} (other : ¬ LacksSlot (.failed failure)) :
    ReadsNoSlot (Op.fail failure : Op Item α) := fun _ => other

theorem internal (detail : String) :
    ReadsNoSlot (Op.fail (.internal detail) : Op Item α) := fun _ lacks => lacks

theorem modifyGet (f : World Item → α × World Item) :
    ReadsNoSlot (MonadState.modifyGet f : Op Item α) := fun _ => trivial

theorem get : ReadsNoSlot (MonadState.get : Op Item (World Item)) := fun _ => trivial

theorem guarded (call : Call) (duration : Nat) {effect : Op Item α} (safe : ReadsNoSlot effect) :
    ReadsNoSlot (Op.guarded call duration effect) := by
  intro w
  unfold Op.guarded
  rw [ends_bind, ends_onTimeline]
  split
  · next failure stopped =>
    rcases Timeline.stopped_await stopped with rfl | rfl <;> exact id
  · exact safe _

/-- What a store's refusal means to an operation is never an empty slot. -/
theorem explain (kind id : String) (failure : Store.Failure) :
    ¬ LacksSlot (.failed (failure.explain kind id)) := by
  cases failure <;> exact fun lacks => lacks

section Operations

variable (call : Call) (kind : Kind)

theorem storeDelay : ReadsNoSlot (Op.storeDelay : Op Item Nat) :=
  get.bind fun _ => pure _

theorem fetch (key : Store.Key) : ReadsNoSlot (Op.fetch call key : Op Item _) :=
  storeDelay.bind fun _ => guarded call _ (modifyGet _)

theorem delete (key : Store.Key) : ReadsNoSlot (Op.delete call key : Op Item _) :=
  storeDelay.bind fun _ => guarded call _ (modifyGet _)

theorem list (name : String) : ReadsNoSlot (Op.list call name : Op Item _) :=
  storeDelay.bind fun _ => guarded call _ (modifyGet _)

theorem put (key : Store.Key) (value : ByteArray) :
    ReadsNoSlot (Op.put call key value : Op Item _) := by
  refine storeDelay.bind fun _ => guarded call _ (get.bind fun w => ?_)
  cases w.store.backing with
  | memory table => exact modifyGet _
  | files directory => exact (modifyGet _).bind fun _ => modifyGet _

variable {Spec Status : Type} [Managed Spec Status]

theorem load (id : String) :
    ReadsNoSlot (Catalog.load call kind id : Op Item (Resource Spec Status)) := by
  refine (fetch call _).bind fun answer => ?_
  cases answer with
  | error failure => exact fail (explain _ _ failure)
  | ok bytes =>
    cases decoded : (Resource.decode bytes : Except _ (Resource Spec Status)) with
    | error failure => simpa only [decoded] using fail (explain _ _ failure)
    | ok resource => simpa only [decoded] using pure resource

theorem findByKey (scope : OwnerScope) (slug : String) :
    ReadsNoSlot
      (Catalog.findByKey call kind scope slug : Op Item (List (Resource Spec Status))) := by
  refine (list call _).bind fun answer => ?_
  cases found : (answer.bind Catalog.decodeAll : Except _ (List (Resource Spec Status))) with
  | error failure => simpa only [found] using internal _
  | ok resources => simpa only [found] using pure _

omit [Managed Spec Status] in
theorem unique? (slug : String) (scope : OwnerScope) (found : List (Resource Spec Status)) :
    ReadsNoSlot (Catalog.unique? kind slug scope found : Op Item _) := by
  match found with
  | [] => exact pure _
  | [resource] => exact pure _
  | _ :: _ :: _ => exact internal _

theorem loadByKey (scope : OwnerScope) (slug : String) :
    ReadsNoSlot (Catalog.loadByKey call kind scope slug : Op Item (Resource Spec Status)) := by
  refine (findByKey call kind scope slug).bind fun found =>
    (unique? kind slug scope found).bind fun only => ?_
  cases only with
  | none => exact fun _ lacks => lacks
  | some resource => exact pure resource

theorem persistResource (r : Resource Spec Status) :
    ReadsNoSlot (Catalog.persistResource call kind r : Op Item Unit) := by
  intro w
  simp only [Catalog.persistResource, ends_unless]
  refine ⟨fun _ lacks => lacks, fun _ => ?_⟩
  refine (put call _ _).bind (fun answer => ?_) w
  cases answer with
  | ok done => exact pure _
  | error failure => exact fail (explain _ _ failure)

theorem idOrNew (id : String) : ReadsNoSlot (Catalog.idOrNew kind id : Op Item String) := by
  unfold Catalog.idOrNew
  split
  · exact (modifyGet _).bind fun _ => pure _
  · exact pure _

end Operations

end ReadsNoSlot

/-! ## Honest steps -/

/-- A step that keeps what its contract says. -/
def Honest (step : Step Item Input R) : Prop :=
  ∀ (slots : List Slot) (s : Session Item Input R),
    (∀ slot ∈ step.contract.requires, slot ∈ slots) → Fills slots s.request →
    Ends step.run s (fun _ s' => Fills (slots ++ step.contract.provides) s'.request)
      fun stop _ => ¬ LacksSlot stop

theorem ReadsNoSlot.ends {α : Type} {op : Op Item α} (safe : ReadsNoSlot op) {w : World Item}
    {Q : α → World Item → Prop} (next : ∀ a w', Q a w') :
    Ends op w Q fun stop _ => ¬ LacksSlot stop :=
  (safe w).imp (fun a w' _ => next a w') fun _ _ other => other

section Resources

open Catalog

variable {Spec Status : Type} [Managed Spec Status]

theorem honest_validate :
    Honest (validate : Step Item (Resource Spec Status) (Resource Spec Status)) := by
  intro slots s _ fills
  exact ends_validate (fun _ => fills.mono (by simp [validate])) fun _ _ lacks => lacks

theorem not_lacksSlot_resolvedSlug {m : Metadata} {failure : Failure}
    (failed : resolvedSlug m = .error failure) : ¬ LacksSlot (.failed failure) := by
  unfold resolvedSlug at failed
  repeat' split at failed
  all_goals first
    | (cases failed; exact fun lacks => lacks)
    | cases failed

omit [Managed Spec Status] in
theorem honest_resolveSlug :
    Honest (resolveSlug : Step Item (Resource Spec Status) (Resource Spec Status)) := by
  intro slots s required fills
  have inside : .newState ∈ slots := required _ (by simp [resolveSlug])
  obtain ⟨state, filled⟩ := fills.newState inside
  refine ends_resolveSlug filled (fun slug _ => ?_)
    fun failure failed => not_lacksSlot_resolvedSlug failed
  exact (fills.setNewState _).mono (by simp +contextual [resolveSlug])

theorem honest_checkDuplicate :
    Honest (checkDuplicate : Step Item (Resource Spec Status) (Resource Spec Status)) := by
  intro slots s required fills
  have inside : .newState ∈ slots := required _ (by simp [checkDuplicate])
  obtain ⟨state, filled⟩ := fills.newState inside
  refine ends_checkDuplicate filled (fun kind _ _ => ?_) (fun _ lacks => lacks) fun _ lacks => lacks
  refine (ReadsNoSlot.findByKey _ _ _ _).ends ?_
  intro found w
  constructor
  · intro _
    exact fills.mono (by simp [checkDuplicate])
  · intro _ _ _ lacks
    exact lacks

theorem honest_buildNewState :
    Honest (buildNewState : Step Item (Resource Spec Status) (Resource Spec Status)) := by
  intro slots s _ fills
  have seeded := fills.seed
  obtain ⟨state, filled⟩ := seeded.newState (by simp)
  refine ends_buildNewState filled (fun kind _ => ?_) fun _ lacks => lacks
  refine (ReadsNoSlot.idOrNew _ _).ends ?_
  intro id w
  exact (seeded.setNewState _).mono (by simp +contextual [buildNewState])

theorem honest_persist :
    Honest (persist : Step Item (Resource Spec Status) (Resource Spec Status)) := by
  intro slots s required fills
  have inside : .newState ∈ slots := required _ (by simp [persist])
  obtain ⟨state, filled⟩ := fills.newState inside
  refine ends_persistNewState filled (fun kind _ => ?_) fun _ lacks => lacks
  exact (ReadsNoSlot.persistResource _ _ _).ends fun _ w => fills.mono (by simp [persist])

omit [Managed Spec Status] in
theorem honest_publish : Honest
    (publish : Step (Resource Spec Status) (Resource Spec Status) (Resource Spec Status)) := by
  intro slots s required fills
  have inside : .newState ∈ slots := required _ (by simp [publish])
  obtain ⟨state, filled⟩ := fills.newState inside
  exact ends_publish filled (fills.mono (by simp [publish]))

theorem honest_loadExisting :
    Honest (loadExisting : Step Item (Resource Spec Status) (Resource Spec Status)) := by
  intro slots s _ fills
  refine ends_loadExisting (fun kind _ _ => ?_) (fun kind _ _ _ => ?_) (fun _ _ lacks => lacks)
    fun _ lacks => lacks
  · exact (ReadsNoSlot.load _ _ _).ends fun old w => fills.setExisting old
  · exact (ReadsNoSlot.loadByKey _ _ _ _).ends fun old w => (fills.mapNewState _).setExisting old

theorem honest_buildUpdateState :
    Honest (buildUpdateState : Step Item (Resource Spec Status) (Resource Spec Status)) := by
  intro slots s required fills
  have inside : .existing ∈ slots := required _ (by simp [buildUpdateState])
  obtain ⟨old, filled⟩ := fills.existing inside
  refine ends_buildUpdateState filled ?_
  exact ends_nextUpdate (fun moment _ => fills.setNewState _) fun lacks => lacks

omit [Managed Spec Status] in
theorem Fills.lookedUp {slots : List Slot}
    {r : Request (Resource Spec Status) (Resource Spec Status)} (fills : Fills slots r)
    (only : Option (Resource Spec Status)) : Fills slots (lookedUp r only) := by
  have noted := (fills.leave (.flag only.isSome) (by decide : resourceIdNote ≠ existsNote)).leave
    (.flag only.isNone) (by decide : resourceIdNote ≠ shouldCreateNote)
  cases only with
  | none => exact noted
  | some old => exact ((noted.mapNewState _).setExisting old).mono (by simp +contextual)

theorem honest_loadForApply :
    Honest (loadForApply : Step Item (Resource Spec Status) (Resource Spec Status)) := by
  intro slots s required fills
  have inside : .newState ∈ slots := required _ (by simp [loadForApply])
  obtain ⟨state, filled⟩ := fills.newState inside
  refine ends_loadForApply filled (fun kind _ => ?_) fun _ lacks => lacks
  refine (ReadsNoSlot.findByKey _ _ _ _).ends ?_
  intro found w
  refine (ReadsNoSlot.unique? _ _ _ _).ends ?_
  intro only w'
  exact (fills.lookedUp only).mono (by simp [loadForApply])

end Resources

theorem not_lacksSlot_checkPhase {old : WorkflowExecution} {phase : Phase}
    {failure : Failure} (failed : Executions.checkPhase old phase = .error failure) :
    ¬ LacksSlot (.failed failure) := by
  unfold Executions.checkPhase at failed
  split at failed
  · cases failed; exact fun lacks => lacks
  · cases failed

theorem honest_mergeStatus :
    Honest (Executions.mergeStatus : Step Item WorkflowExecution R) := by
  intro slots s required fills
  have inside : .existing ∈ slots := required _ (by simp [Executions.mergeStatus])
  obtain ⟨old, filled⟩ := fills.existing inside
  refine ends_mergeStatus filled (fun _ => ?_) fun _ failed => not_lacksSlot_checkPhase failed
  exact ends_nextUpdate (fun moment _ => fills.setNewState _) fun lacks => lacks

section Ids

open Catalog

variable {Spec Status : Type} [Managed Spec Status]

theorem honest_extractResourceId : Honest (extractResourceId : Step Item String R) := by
  intro slots s _ fills
  exact ends_extractResourceId (fun _ => fills.leaveId _) fun _ lacks => lacks

theorem honest_loadTarget :
    Honest (loadTarget : Step Item String (Resource Spec Status)) := by
  intro slots s _ fills
  refine ends_loadTarget (fun kind _ id _ _ => ?_) (fun _ lacks => lacks)
    (fun noted missing => ?_) fun _ lacks => lacks
  · refine (ReadsNoSlot.load _ _ _).ends ?_
    intro target w
    exact (fills.leave _ (by decide)).mono (by simp [loadTarget])
  · obtain ⟨id, found⟩ := fills.readable noted
    rw [found] at missing
    cases missing

theorem honest_loadExistingForDelete :
    Honest (loadExistingForDelete : Step Item String (Resource Spec Status)) := by
  intro slots s required fills
  have inside : .resourceId ∈ slots := required _ (by simp [loadExistingForDelete])
  obtain ⟨id, found⟩ := fills.resourceId inside
  refine ends_loadExistingForDelete (fun kind _ id _ => ?_) (fun missing => ?_)
    fun _ lacks => lacks
  · refine (ReadsNoSlot.load _ _ _).ends ?_
    intro old w
    exact (fills.leave _ (by decide)).mono (by simp [loadExistingForDelete])
  · rw [found] at missing
    cases missing

theorem honest_deleteResource : Honest (deleteResource : Step Item String R) := by
  intro slots s required fills
  have inside : .resourceId ∈ slots := required _ (by simp [deleteResource])
  obtain ⟨id, found⟩ := fills.resourceId inside
  refine ends_deleteStep (fun kind _ id _ => ?_) (fun missing => ?_)
    fun _ lacks => lacks
  · refine (ReadsNoSlot.delete _ _).ends ?_
    intro answer w
    constructor
    · intro _
      exact fills.mono (by simp [deleteResource])
    · intro failure _
      exact ReadsNoSlot.explain _ _ failure
  · rw [found] at missing
    cases missing

theorem honest_resourceSteps {step : Step Item (Resource Spec Status) (Resource Spec Status)}
    (inside : step ∈ resourceSteps) : Honest step := by
  simp only [resourceSteps, List.mem_cons, List.not_mem_nil, or_false] at inside
  rcases inside with rfl | rfl | rfl | rfl | rfl | rfl | rfl | rfl
  · exact honest_validate
  · exact honest_resolveSlug
  · exact honest_checkDuplicate
  · exact honest_buildNewState
  · exact honest_persist
  · exact honest_loadExisting
  · exact honest_buildUpdateState
  · exact honest_loadForApply

theorem honest_idSteps {step : Step Item String (Resource Spec Status)}
    (inside : step ∈ idSteps) : Honest step := by
  simp only [idSteps, List.mem_cons, List.not_mem_nil, or_false] at inside
  rcases inside with rfl | rfl | rfl | rfl
  · exact honest_extractResourceId
  · exact honest_loadTarget
  · exact honest_loadExistingForDelete
  · exact honest_deleteResource

end Ids

/-! ## Pipelines of honest steps -/

/-- What is known when the steps of a pipeline have been checked one by one. -/
theorem firstGap_cons {filled : List Slot} {step : Step Item Input R}
    {steps : List (Step Item Input R)} (gapless : firstGap filled (step :: steps) = none) :
    (∀ slot ∈ step.contract.requires, slot ∈ filled) ∧
      firstGap (filled ++ step.contract.provides) steps = none := by
  unfold firstGap at gapless
  split at gapless
  · cases gapless
  · next complete =>
    refine ⟨fun slot required => ?_, gapless⟩
    simpa using List.find?_eq_none.1 complete slot required

/-- A run of honest steps without a gap does not find a slot empty. -/
theorem runSteps_sound {steps : List (Step Item Input R)} (honest : ∀ step ∈ steps, Honest step)
    {filled : List Slot} (gapless : firstGap filled steps = none) {s : Session Item Input R}
    (fills : Fills filled s.request) :
    Ends (Pipeline.runSteps steps) s (fun _ _ => True) fun stop _ => ¬ LacksSlot stop := by
  -- The slots that count as filled are filled: each step that ends adds what it names.
  induction steps generalizing filled s with
  | nil => trivial
  | cons step steps ih =>
    obtain ⟨served, rest⟩ := firstGap_cons gapless
    rw [ends_runSteps_cons]
    refine ⟨fun _ => ?_, fun failure failed => ?_⟩
    · have first := honest step List.mem_cons_self filled s served fills
      refine first.imp ?_ fun _ _ other => other
      intro _ s' fills'
      exact ih (fun step' inside => honest step' (List.mem_cons_of_mem _ inside)) rest fills'
    · rcases Timeline.stopped_check failed with rfl | rfl
      · exact fun lacks => lacks
      · exact fun lacks => lacks

/-- A pipeline of honest steps does not find a slot empty, whatever the request brings along as long
as it has no notes yet. -/
theorem execute_sound {p : Pipeline Item Input R} (honest : ∀ step ∈ p.steps, Honest step)
    (call : Call) (input : Input) (newState existing : Option Input) (w : World Item)
    (slot : String) :
    (Op.outcome (p.execute ⟨call, input, newState, existing, []⟩) w).1 ≠
      .error (.failed (.stateNotSet slot)) := by
  have fresh : Fills [] (⟨call, input, newState, existing, []⟩ : Request Input R) := by
    refine ⟨nofun, nofun, nofun, ?_⟩
    intro noted
    cases noted
  have fills : Fills (seedSlots p.seeds)
      (if p.seeds then (⟨call, input, newState, existing, []⟩ : Request Input R).seed
        else ⟨call, input, newState, existing, []⟩) := by
    cases p.seeds with
    | true => exact fresh.seed
    | false => exact fresh
  have run : Ends (p.execute ⟨call, input, newState, existing, []⟩) w (fun _ _ => True)
      fun stop _ => ¬ LacksSlot stop := by
    rw [ends_execute]
    exact runSteps_sound honest p.gapless fills
  intro lacks
  unfold Ends at run
  unfold Op.outcome at lacks
  split at run <;> simp_all [LacksSlot]

end Steward
