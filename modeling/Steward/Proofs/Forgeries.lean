import Steward.Proofs.DefaultInstances
import Steward.Proofs.Finality
import Steward.Proofs.Pairs

/-!
# What a caller cannot write

Only part of a resource is for its owner to write. Two runs on resources that agree in this part,
started in one world, are followed side by side: the requests may differ in the input until the new
state is built, and from then on in nothing that is looked at. So the two runs leave one world
behind and answer the same. Main statements: `Twin.bind`, `Carries.cons`, `Carries.write` and
`unforgeable`.
-/

namespace Steward

open Catalog

variable {Item Spec Status : Type}

/-! ## The part that is for the owner to write -/

/-- The two resources stand for the same stored resource. -/
structure SameAddress (x y : Resource Spec Status) : Prop where
  id : x.id = y.id
  slug : x.metadata.slug = y.metadata.slug
  scope : x.metadata.scope = y.metadata.scope

/-- The two resources ask for the same to be written. They may differ in their version, the name of
their kind, their status and the moments of their creation and last change. -/
structure SameWish (x y : Resource Spec Status) : Prop extends SameAddress x y where
  name : x.metadata.name = y.metadata.name
  labels : x.metadata.labels = y.metadata.labels
  spec : x.spec = y.spec

/-- The two resources ask for the same status. They may differ in all that has nothing to do with
which resource it is. -/
structure SameMove (x y : Resource Spec Status) : Prop extends SameAddress x y where
  status : x.status = y.status

section Wishes

variable {x y : Resource Spec Status}

theorem SameAddress.withId (same : SameAddress x y) (id : String) :
    SameAddress (x.withId id) (y.withId id) :=
  ⟨rfl, same.slug, same.scope⟩

theorem SameWish.withId (same : SameWish x y) (id : String) :
    SameWish (x.withId id) (y.withId id) :=
  ⟨same.toSameAddress.withId id, same.name, same.labels, same.spec⟩

theorem SameMove.withId (same : SameMove x y) (id : String) :
    SameMove (x.withId id) (y.withId id) :=
  ⟨same.toSameAddress.withId id, same.status⟩

theorem SameWish.withSlug (same : SameWish x y) (slug : String) :
    SameWish (x.withMetadata fun m => { m with slug := slug })
      (y.withMetadata fun m => { m with slug := slug }) :=
  ⟨⟨same.id, rfl, same.scope⟩, same.name, same.labels, same.spec⟩

/-- The same rules are violated. -/
theorem SameWish.violation? [Managed Spec Status] (same : SameWish x y) :
    x.violation? = y.violation? := by
  have metadata : x.metadata.violation? = y.metadata.violation? := by
    simp only [Metadata.violation?, same.name, same.slug, same.scope, same.labels]
  rw [Resource.violation?, Resource.violation?, metadata, same.spec]

/-- The same slug is made. -/
theorem SameWish.resolvedSlug (same : SameWish x y) :
    resolvedSlug x.metadata = resolvedSlug y.metadata := by
  simp only [Catalog.resolvedSlug, same.slug, same.name]

end Wishes

/-! ## Two runs in one world -/

section Twins

variable {Input R α β : Type} {r r' : Request Input R}
  {Q : α → α → Request Input R → Request Input R → Prop}

/-- Done on `r` and on `r'` in one world, whichever it is, the two pieces of work end in one world:
with the same stop, or with values and requests of which `Q` holds. -/
def Twin (work work' : Work Item Input R α) (r r' : Request Input R)
    (Q : α → α → Request Input R → Request Input R → Prop) : Prop :=
  Pairs (Paired Eq r r') work work'
    (fun a a' s s' => s.world = s'.world ∧ Q a a' s.request s'.request)
    fun s s' => s.world = s'.world

theorem Twin.pure {a a' : α} (agree : Q a a' r r') :
    Twin (Pure.pure a : Work Item Input R α) (Pure.pure a') r r' Q :=
  Pairs.pure fun _ _ ⟨left, right, world⟩ => ⟨world, left ▸ right ▸ agree⟩

theorem Twin.throw (stop : Stop) :
    Twin (MonadExcept.throw stop : Work Item Input R α) (MonadExcept.throw stop) r r' Q :=
  Pairs.throw stop fun _ _ paired => paired.worlds

theorem Twin.bind {work work' : Work Item Input R β} {next next' : β → Work Item Input R α}
    (first : Twin work work' r r' fun b b' s s' => Twin (next b) (next' b') s s' Q) :
    Twin (work >>= next) (work' >>= next') r r' Q :=
  Pairs.bind first fun _ _ s s' ⟨world, rest⟩ => rest s s' ⟨rfl, rfl, world⟩

/-- Work that does not depend on the request does the same twice. -/
theorem Twin.perform {op : Op Item α} (agree : ∀ a, Q a a r r') :
    Twin (Work.perform op) (Work.perform op) r r' Q := by
  refine (Pairs.perform (.self op)).imp ?_
  rintro a _ s s' ⟨rfl, rfl, rfl, world⟩
  exact ⟨world, agree a⟩

theorem Twin.ofExcept {answer : Except Failure α} (agree : ∀ a, Q a a r r') :
    Twin (Work.ofExcept answer : Work Item Input R α) (Work.ofExcept answer) r r' Q := by
  cases answer with
  | ok a => exact .pure (agree a)
  | error failure => exact .throw (.failed failure)

theorem Twin.fail (failure : Failure) :
    Twin (Work.fail failure : Work Item Input R α) (Work.fail failure) r r' Q :=
  .throw (.failed failure)

/-- What goes on unless a condition makes both fail. -/
theorem Twin.unless {refused : Prop} [Decidable refused] {failure : Failure}
    {work work' : Work Item Input R α} (rest : Twin work work' r r' Q) :
    Twin (if refused then (Work.fail failure : Work Item Input R PUnit) >>= fun _ => work else work)
      (if refused then (Work.fail failure : Work Item Input R PUnit) >>= fun _ => work' else work')
      r r' Q := by
  split
  · exact .bind (.fail failure)
  · exact rest

theorem Twin.request {Q : Request Input R → Request Input R → Request Input R →
    Request Input R → Prop} (agree : Q r r' r r') :
    Twin (Work.request : Work Item Input R _) Work.request r r' Q := by
  refine Pairs.request.imp ?_
  rintro _ _ s s' ⟨⟨rfl, rfl⟩, rfl, rfl, world⟩
  exact ⟨world, agree⟩

theorem Twin.modifyRequest {f f' : Request Input R → Request Input R}
    {Q : Unit → Unit → Request Input R → Request Input R → Prop}
    (agree : Q () () (f r) (f' r')) :
    Twin (Work.modifyRequest f : Work Item Input R _) (Work.modifyRequest f') r r' Q :=
  (Pairs.modifyRequest f f').imp fun _ _ _ _ ⟨left, right, world⟩ =>
    ⟨world, left ▸ right ▸ agree⟩

theorem Twin.requireKind {Q : Kind → Kind → Request Input R → Request Input R → Prop}
    (same : r.call = r'.call) (agree : ∀ kind, Q kind kind r r') :
    Twin (Work.requireKind : Work Item Input R _) Work.requireKind r r' Q := by
  refine .bind (.request ?_)
  rw [same]
  exact .ofExcept agree

theorem Twin.newState {B : Input → Input → Prop}
    {Q : Input → Input → Request Input R → Request Input R → Prop}
    (states : Option.Rel B r.newState r'.newState) (agree : ∀ x y, B x y → Q x y r r') :
    Twin (Work.newState : Work Item Input R _) Work.newState r r' Q := by
  refine .bind (.request ?_)
  simp only [Request.getNewState]
  generalize r.newState = state, r'.newState = state' at states
  cases states with
  | some same => exact .pure (agree _ _ same)
  | none => exact .fail _

theorem Twin.existing {Q : Input → Input → Request Input R → Request Input R → Prop}
    (same : r.existing = r'.existing) (agree : ∀ old, Q old old r r') :
    Twin (Work.existing : Work Item Input R _) Work.existing r r' Q := by
  refine .bind (.request ?_)
  simp only [Request.getExisting, same]
  exact .ofExcept agree

theorem Twin.nextUpdate {previous : Option Timestamp}
    {Q : Timestamp → Timestamp → Request Input R → Request Input R → Prop}
    (agree : ∀ moment, Q moment moment r r') :
    Twin (Catalog.nextUpdate previous : Work Item Input R _) (Catalog.nextUpdate previous) r r'
      Q := by
  refine .bind (.perform fun now => ?_)
  cases Timestamp.next? previous now with
  | some moment => exact .pure (agree moment)
  | none => exact .throw _

end Twins

/-! ## Requests that stay alike -/

section Alike

variable {Input R : Type} {A B B' B'' : Input → Input → Prop} {r r' : Request Input R}

/-- The requests differ at most in their inputs, of which `A` holds, and in their new states, of
which `B` holds. -/
structure Alike (A B : Input → Input → Prop) (r r' : Request Input R) : Prop where
  call : r.call = r'.call
  input : A r.input r'.input
  newState : Option.Rel B r.newState r'.newState
  existing : r.existing = r'.existing
  notes : r.notes = r'.notes

/-- From requests whose new states are related by `B` the work leads to requests whose new states
are related by `B'`. -/
def Carries (A B B' : Input → Input → Prop) (work : Work Item Input R Unit) : Prop :=
  ∀ r r', Alike A B r r' → Twin work work r r' fun _ _ => Alike A B'

/-- Both runs look after the same call before each step. -/
theorem Carries.cons {step : Step Item Input R} {steps : List (Step Item Input R)}
    (first : Carries A B B' step.run) (rest : Carries A B' B'' (Pipeline.runSteps steps)) :
    Carries A B B'' (Pipeline.runSteps (step :: steps)) := by
  intro r r' alike
  have checked : Twin (Work.perform (Op.check r.call) : Work Item Input R Unit)
      (Work.perform (Op.check r'.call)) r r' fun _ _ s s' => s = r ∧ s' = r' := by
    rw [alike.call]
    exact .perform fun _ => ⟨rfl, rfl⟩
  refine Pairs.cons (Pairs.imp checked ?_) (first r r' alike) ?_
  · exact fun _ _ _ _ ⟨world, left, right⟩ => ⟨left, right, world⟩
  · exact fun s s' ⟨world, alike'⟩ => rest _ _ alike' s s' ⟨rfl, rfl, world⟩

theorem Carries.nil : Carries A B B (Pipeline.runSteps ([] : List (Step Item Input R))) :=
  fun _ _ alike => .pure alike

theorem Alike.find? (alike : Alike A B r r') {α : Type} (key : String)
    (sort : Note R → Option α) : r.find? key sort = r'.find? key sort := by
  rw [Request.find?, Request.find?, alike.notes]

theorem Alike.leave (alike : Alike A B r r') (key : String) (note : Note R) :
    Alike A B (r.leave key note) (r'.leave key note) where
  call := alike.call
  input := alike.input
  newState := alike.newState
  existing := alike.existing
  notes := by rw [Request.leave, Request.leave, alike.notes]

/-- What one has built, the other has. -/
theorem Alike.getNewState (alike : Alike A Eq r r') : r.getNewState = r'.getNewState := by
  have states := alike.newState
  simp only [Request.getNewState]
  generalize r.newState = state, r'.newState = state' at states
  cases states with
  | some same => rw [same]
  | none => rfl

/-- What is done with the requests of two runs is the same if it is the same for requests that are
alike. -/
theorem Carries.execute {p : Pipeline Item Input R} {x y : Input} {α : Type}
    {next : Request Input R → Op Item α} (carries : Carries A A B (Pipeline.runSteps p.steps))
    (same : A x y) (call : Call) (agree : ∀ r r', Alike A B r r' → next r = next r') :
    (p.execute { call := call, input := x } >>= next) =
      p.execute { call := call, input := y } >>= next := by
  have alike : Alike A A (R := R) { call := call, input := x } { call := call, input := y } :=
    ⟨rfl, same, .none, rfl, rfl⟩
  have run : Twin p.run p.run { call := call, input := x } { call := call, input := y }
      fun _ _ => Alike A B := by
    unfold Pipeline.run
    cases p.seeds with
    | false => exact carries _ _ alike
    | true =>
      refine .bind (.modifyRequest ?_)
      exact carries _ _ { alike with newState := .some same }
  refine Pairs.eq (Pairs.bind (Pairs.execute (V := Eq) (H := Eq) run) ?_)
  rintro s s' w _ ⟨rfl, alike'⟩
  rw [agree s s' alike']
  exact Pairs.self _ w w rfl

/-- A pipeline that makes the new states equal writes the same. -/
theorem Carries.write {p : Pipeline Item Input R} {x y : Input}
    (carries : Carries A A Eq (Pipeline.runSteps p.steps)) (same : A x y) (call : Call) :
    p.write call x = p.write call y :=
  carries.execute same call fun _ _ alike => by rw [alike.getNewState]

end Alike

/-! ## The steps of the catalog -/

section Steps

variable [Managed Spec Status]
  {A B : Resource Spec Status → Resource Spec Status → Prop}

theorem carries_validate :
    Carries SameWish B B (validate : Step Item (Resource Spec Status) _).run := by
  intro r r' alike
  refine .bind (.request ?_)
  simp only [alike.input.violation?]
  split
  · exact .pure alike
  · exact .fail _

omit [Managed Spec Status] in
theorem carries_resolveSlug : Carries A SameWish SameWish
    (resolveSlug : Step Item (Resource Spec Status) _).run := by
  intro r r' alike
  refine .bind (.newState alike.newState fun x y same => ?_)
  rw [same.resolvedSlug]
  refine .bind (.ofExcept fun slug => .modifyRequest ?_)
  exact { alike with newState := .some (same.withSlug slug) }

theorem carries_checkDuplicate : Carries A SameWish SameWish
    (checkDuplicate : Step Item (Resource Spec Status) _).run := by
  intro r r' alike
  refine .bind (.requireKind alike.call fun kind => ?_)
  refine .bind (.newState alike.newState fun x y same => ?_)
  simp only [same.slug, same.scope]
  refine .unless (.bind (.request ?_))
  rw [alike.call]
  refine .bind (.perform fun found => ?_)
  cases found with
  | nil => exact .pure alike
  | cons taken _ => exact .fail _

omit [Managed Spec Status] in
theorem Alike.seed {r r' : Request (Resource Spec Status) (Resource Spec Status)}
    (alike : Alike A A r r') : Alike A A r.seed r'.seed := by
  have states := alike.newState
  simp only [Request.seed]
  cases state : r.newState <;> cases state' : r'.newState <;> rw [state, state'] at states
  · exact { alike with newState := .some alike.input }
  · cases states
  · cases states
  · exact alike

/-- The status, the moments, the version and the name of the kind are overwritten. -/
theorem carries_buildNewState : Carries SameWish SameWish Eq
    (buildNewState : Step Item (Resource Spec Status) _).run := by
  intro r r' alike
  refine .bind (.requireKind alike.call fun kind => .bind (.modifyRequest ?_))
  refine .bind (.newState alike.seed.newState fun x y same => .bind (.perform fun now => ?_))
  rw [same.id]
  refine .bind (.perform fun id => .modifyRequest ?_)
  refine { alike.seed with newState := .some ?_ }
  simp only [Resource.withFreshStatus, same.name, same.slug, same.scope, same.labels, same.spec]

theorem carries_persistNewState : Carries A Eq Eq
    (persistNewState : Work Item (Resource Spec Status) _ Unit) := by
  intro r r' alike
  refine .bind (.requireKind alike.call fun kind => ?_)
  refine .bind (.newState alike.newState fun x y same => .bind (.request ?_))
  rw [same, alike.call]
  exact .perform fun _ => alike

omit [Managed Spec Status] in
theorem carries_publish : Carries A Eq Eq
    (publish : Step (Resource Spec Status) (Resource Spec Status) _).run := by
  intro r r' alike
  refine .bind (.newState alike.newState fun x y same => ?_)
  rw [same]
  exact .bind (.perform fun _ => .pure alike)

omit [Managed Spec Status] in
/-- Taking over what was found under an id keeps requests alike. -/
theorem Alike.adopt {r r' : Request (Resource Spec Status) (Resource Spec Status)}
    (alike : Alike A B r r') (withId : ∀ {x y} id, B x y → B (x.withId id) (y.withId id))
    (old : Resource Spec Status) :
    Alike A B { r with newState := r.newState.map (·.withId old.id), existing := some old }
      { r' with newState := r'.newState.map (·.withId old.id), existing := some old } := by
  refine { alike with newState := ?_, existing := rfl }
  have states := alike.newState
  generalize r.newState = state, r'.newState = state' at states
  cases states with
  | some same => exact .some (withId old.id same)
  | none => exact .none

/-- Both runs find the same stored version: only the address is looked at. -/
theorem carries_loadExisting (address : ∀ {x y}, A x y → SameAddress x y)
    (withId : ∀ {x y} id, A x y → A (x.withId id) (y.withId id)) :
    Carries A A A (loadExisting : Step Item (Resource Spec Status) _).run := by
  intro r r' alike
  have same : SameAddress (r.newState.getD r.input) (r'.newState.getD r'.input) := by
    have states := alike.newState
    generalize r.newState = state, r'.newState = state' at states
    cases states with
    | some same => exact address same
    | none => exact address alike.input
  refine .bind (.requireKind alike.call fun kind => .bind (.request ?_))
  simp only [same.id, same.slug, same.scope, alike.call]
  split
  · exact .bind (.perform fun old => .modifyRequest { alike with existing := rfl })
  split
  · exact .bind (.perform fun old => .bind (.modifyRequest (.modifyRequest
      (alike.adopt withId old))))
  · exact .fail _

/-- Whatever is not for the owner to write comes from the stored version. -/
theorem carries_buildUpdateState : Carries SameWish B Eq
    (buildUpdateState : Step Item (Resource Spec Status) _).run := by
  intro r r' alike
  refine .bind (.existing alike.existing fun old => .bind (.request ?_))
  refine .bind (.nextUpdate fun moment => .modifyRequest ?_)
  refine { alike with newState := .some ?_ }
  simp only [Resource.merge, Resource.withMetadata, updatedMetadata, alike.input.name,
    alike.input.labels, alike.input.spec]

/-- Applying hands the caller's own resource on, under the id that was found. -/
theorem carries_loadForApply : Carries A SameWish SameWish
    (loadForApply : Step Item (Resource Spec Status) _).run := by
  intro r r' alike
  refine .bind (.requireKind alike.call fun kind => ?_)
  refine .bind (.newState alike.newState fun x y same => .bind (.request ?_))
  simp only [same.slug, same.scope, alike.call]
  refine .bind (.perform fun found => .bind (.perform fun only => ?_))
  refine .bind (.modifyRequest (.bind (.modifyRequest ?_)))
  have noted := (alike.leave existsNote (.flag only.isSome)).leave shouldCreateNote
    (.flag only.isNone)
  cases only with
  | none => exact .pure noted
  | some old =>
    exact .bind (.modifyRequest (.modifyRequest (noted.adopt (fun id same => same.withId id) old)))

/-- Of the input only the status goes into the new state. -/
theorem carries_mergeStatus {R : Type} {B : WorkflowExecution → WorkflowExecution → Prop} :
    Carries SameMove B Eq
      (Executions.mergeStatus : Step Item WorkflowExecution R).run := by
  intro r r' alike
  refine .bind (.request (.bind (.existing alike.existing fun old => ?_)))
  rw [alike.input.status]
  refine .bind (.ofExcept fun _ => .bind (.nextUpdate fun moment => .modifyRequest ?_))
  exact { alike with newState := .some rfl }

section Agents

variable {A : Agent → Agent → Prop}

/-- The default instance is asked for on the new agent alone. -/
theorem carries_createDefaultInstance (instances : InstanceClient Item) :
    Carries A Eq Eq (Agents.createDefaultInstance instances).run := by
  intro r r' alike
  refine .bind (.newState alike.newState fun x y same => ?_)
  rw [same]
  refine .unless (.bind (.request ?_))
  rw [alike.call]
  exact .bind (.perform fun made => .modifyRequest (alike.leave _ _))

theorem carries_recordDefaultInstance :
    Carries A Eq Eq (Agents.recordDefaultInstance : Step Item Agent Agent).run := by
  intro r r' alike
  refine .bind (.request ?_)
  rw [alike.find?]
  split
  · exact .fail _
  · refine .bind (.newState alike.newState fun x y same => .bind (.modifyRequest ?_))
    rw [same]
    have persisted : Carries A Eq Eq (persistNewState : Work Item Agent Agent Unit) :=
      carries_persistNewState
    exact persisted _ _ { alike with newState := .some rfl }

end Agents

end Steps

/-! ## The services -/

section Services

/-- The two requests are for the same write. -/
inductive SameWrite : Message (Resource Spec Status) → Message (Resource Spec Status) → Prop where
  | create {x y : Resource Spec Status} (same : SameWish x y) : SameWrite (.create x) (.create y)
  | update {x y : Resource Spec Status} (same : SameWish x y) : SameWrite (.update x) (.update y)
  | apply {x y : Resource Spec Status} (same : SameWish x y) : SameWrite (.apply x) (.apply y)

variable [Managed Spec Status] {B : Resource Spec Status → Resource Spec Status → Prop}
  {steps : List (Step Item (Resource Spec Status) (Resource Spec Status))}

theorem carries_createSteps (rest : Carries SameWish Eq Eq (Pipeline.runSteps steps)) :
    Carries SameWish SameWish Eq (Pipeline.runSteps (Standard.createSteps ++ steps)) :=
  .cons carries_validate <| .cons carries_resolveSlug <| .cons carries_checkDuplicate <|
    .cons carries_buildNewState <| .cons carries_persistNewState rest

theorem carries_updateSteps (rest : Carries SameWish Eq Eq (Pipeline.runSteps steps)) :
    Carries SameWish SameWish Eq (Pipeline.runSteps (Standard.updateSteps ++ steps)) :=
  .cons carries_validate <| .cons carries_resolveSlug <|
    .cons (carries_loadExisting SameWish.toSameAddress fun id same => same.withId id) <|
    .cons carries_buildUpdateState <| .cons carries_persistNewState rest

theorem carries_applyLookup (kind : Kind) :
    Carries SameWish SameWish SameWish (Pipeline.runSteps
      (Standard.applyLookup kind : Pipeline Item (Resource Spec Status) _).steps) :=
  .cons carries_validate <| .cons carries_resolveSlug <| .cons carries_loadForApply .nil

variable {x y : Resource Spec Status}

/-- Applying does the same if creating and updating do. -/
theorem apply_congr {kind : Kind}
    {create update : Call → Resource Spec Status → Op Item (Resource Spec Status)}
    (created : ∀ {x y} call, SameWish x y → create call x = create call y)
    (updated : ∀ {x y} call, SameWish x y → update call x = update call y)
    (same : SameWish x y) (call : Call) :
    Standard.apply kind create update call x = Standard.apply kind create update call y := by
  refine (carries_applyLookup kind).execute same call fun r r' alike => ?_
  rw [alike.find?]
  have states := alike.newState
  simp only [Request.getNewState]
  generalize r.newState = state, r'.newState = state' at states
  cases states with
  | none => rfl
  | some resolved =>
    show (if _ then create call _ else update call _) = if _ then create call _ else update call _
    rw [created call resolved, updated call resolved]

/-- A service that does the same with resources that ask for the same to be written. -/
structure Ignorant (c : Controller Item (Resource Spec Status)) : Prop where
  create : ∀ {x y} call, SameWish x y → c.create call x = c.create call y
  update : ∀ {x y} call, SameWish x y → c.update call x = c.update call y
  apply : ∀ {x y} call, SameWish x y → c.apply call x = c.apply call y

omit [Managed Spec Status] in
theorem Ignorant.handle {c : Controller Item (Resource Spec Status)} (ignorant : Ignorant c)
    {message message' : Message (Resource Spec Status)} (same : SameWrite message message')
    (call : Call) : c.handle call message = c.handle call message' := by
  cases same with
  | create same => exact ignorant.create call same
  | update same => exact ignorant.update call same
  | apply same => exact ignorant.apply call same

theorem standardUpdate_congr {kind : Kind} (call : Call) (same : SameWish x y) :
    (Standard.update kind : Pipeline Item (Resource Spec Status) _).write call x =
      (Standard.update kind).write call y :=
  Carries.write (p := Standard.update kind) (carries_updateSteps .nil) same call

theorem ignorant_instances : Ignorant (AgentInstances.controller : Controller Item _) := by
  have create {x y : AgentInstance} (call : Call) (same : SameWish x y) :
      AgentInstances.create call x = (AgentInstances.create call y : Op Item _) :=
    Carries.write (p := Standard.create AgentInstances.kind) (carries_createSteps .nil) same call
  exact ⟨create, standardUpdate_congr, fun call same =>
    apply_congr create standardUpdate_congr same call⟩

/-- However the service of agent instances is reached, it is asked the same. -/
theorem ignorant_agents (instances : InstanceClient Item) :
    Ignorant (Agents.controller instances) := by
  have create {x y : Agent} (call : Call) (same : SameWish x y) :
      Agents.create instances call x = Agents.create instances call y :=
    Carries.write (p := Agents.createPipeline instances) (carries_createSteps
      (.cons (carries_createDefaultInstance instances) (.cons carries_recordDefaultInstance .nil)))
      same call
  exact ⟨create, standardUpdate_congr, fun call same =>
    apply_congr create standardUpdate_congr same call⟩

theorem ignorant_executions : Ignorant Executions.controller where
  create call same := Carries.write (p := Executions.createPipeline)
    (carries_createSteps (.cons carries_publish .nil)) same call
  update call same := Carries.write (p := Executions.updatePipeline)
    (carries_updateSteps (.cons carries_publish .nil)) same call
  apply _ _ := rfl

theorem updateStatus_congr {x y : WorkflowExecution} (same : SameMove x y) (call : Call) :
    Executions.updateStatus call x = Executions.updateStatus call y :=
  Carries.write (p := Executions.statusPipeline)
    (.cons (carries_loadExisting SameMove.toSameAddress fun id same => same.withId id) <|
      .cons carries_mergeStatus <| .cons carries_persistNewState <| .cons carries_publish .nil)
    same call

end Services

/-- What callers put where only the system writes makes no difference. Two requests for the same
write, of an agent, an agent instance or an execution, have the same answer and leave the same world
behind: the same stored values, the same queues of those who listen, the same ids and readings of
the clock used up. So do two requests for the same status of an execution, whatever else they
hold. -/
theorem unforgeable (instances : InstanceClient Item) (call : Call) :
    (∀ (message message' : Message Agent) (w : World Item), SameWrite message message' →
      ((Agents.controller instances).handle call message).outcome w =
        ((Agents.controller instances).handle call message').outcome w) ∧
    (∀ (message message' : Message AgentInstance) (w : World Item), SameWrite message message' →
      (AgentInstances.controller.handle call message).outcome w =
        (AgentInstances.controller.handle call message').outcome w) ∧
    (∀ (message message' : Message WorkflowExecution) (w : DaemonWorld),
      SameWrite message message' →
      (Executions.controller.handle call message).outcome w =
        (Executions.controller.handle call message').outcome w) ∧
    ∀ (x y : WorkflowExecution) (w : DaemonWorld), SameMove x y →
      (Executions.updateStatus call x).outcome w = (Executions.updateStatus call y).outcome w := by
  refine ⟨fun _ _ w same => ?_, fun _ _ w same => ?_, fun _ _ w same => ?_, fun x y w same => ?_⟩
  · rw [(ignorant_agents instances).handle same]
  · rw [ignorant_instances.handle same]
  · rw [ignorant_executions.handle same]
  · rw [updateStatus_congr same]

/-- The critic as a caller may write it who would like to have it created long ago, with a default
instance that already exists. -/
def forgedCritic : Agent :=
  { critic with
    apiVersion := "agentic.local/v0"
    kindName := "Skill"
    metadata := { critic.metadata with createdAt := some .epoch, updatedAt := some .epoch }
    status := { defaultInstanceId := "ain-other" } }

/-- The execution is done, and it has another name, labels and a kind. -/
def wordyCompletion : WorkflowExecution :=
  { Executions.completion with
    kindName := "Workflow"
    metadata :=
      { id := "wex-1", name := "Another run", labels := Labels.empty.insert "made-by" "me" } }

/-- The forged critic is created just like the critic that sets none of this, and the wordy
completion is what the plain one is. -/
theorem unforgeable_critic :
    (∃ (w : DaemonWorld) (r : Agent) (w' : DaemonWorld), critic ≠ forgedCritic ∧
      ((Daemon.agents {}).controller.handle (Daemon.Conditions.free.served .agent)
        (.create critic)).outcome w = (.ok r, w') ∧
      ((Daemon.agents {}).controller.handle (Daemon.Conditions.free.served .agent)
        (.create forgedCritic)).outcome w = (.ok r, w')) ∧
    ∃ (w : DaemonWorld) (r : WorkflowExecution) (w' : DaemonWorld),
      (Executions.updateStatus (Daemon.Conditions.free.served .workflowExecution)
        Executions.completion).outcome w = (.ok r, w') ∧
      (Executions.updateStatus (Daemon.Conditions.free.served .workflowExecution)
        wordyCompletion).outcome w = (.ok r, w') := by
  have same : SameWish critic forgedCritic := ⟨⟨rfl, rfl, rfl⟩, rfl, rfl, rfl⟩
  have move : SameMove wordyCompletion Executions.completion := ⟨⟨rfl, rfl, rfl⟩, rfl⟩
  obtain ⟨-, -, -, moves⟩ := unforgeable (.ofEndpoint (Daemon.instances {}))
    (Daemon.Conditions.free.served .workflowExecution)
  constructor
  · obtain ⟨r, w', done⟩ := outcome_critic (tended_world {} {} stillClock sameTexts) rfl
      (Supply.wordy_const rfl 0)
    refine ⟨_, r, w', by decide, done, ?_⟩
    rw [← done]
    exact ((unforgeable (.ofEndpoint (Daemon.instances {})) _).1 _ _ _ (.create same)).symm
  · obtain ⟨turns, t, old, r, -, -, -, -, done, -⟩ := Executions.completes_created
    refine ⟨_, r, _, Prod.ext done rfl, ?_⟩
    rw [moves _ _ _ move]
    exact Prod.ext done rfl

end Steward
