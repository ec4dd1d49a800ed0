import Steward.Catalog.All
import Steward.Controller.Executions
import Steward.Proofs.Holdings
import Steward.Proofs.Pairs

/-!
# One piece of work in two worlds

The same work is done in two worlds that differ in the table, and in what has nothing to do with the
work. Where the tables are alike in what the work looks at, both runs go the same way up to the
writing of a value, and end with the same answer or the same stop. What the work looks at is a
hypothesis of the rule for each step: what stands under an id, or what is found for a natural key.
Main statements: one for each step, `even_createSteps`, `even_updateSteps`, `even_updateStatus` and
`even_remove`.
-/

namespace Steward

open Store

/-! ## Two runs -/

section Evens

variable {σ α β : Type}

/-- From states of which `Pre` holds the work ends twice with the same value or the same stop. -/
def Even (Pre : σ → σ → Prop) (work : EStateM Stop σ α) (Post : α → σ → σ → Prop) : Prop :=
  Pairs Pre work work (fun a a' s s' => a = a' ∧ Post a s s') fun _ _ => True

namespace Even

variable {Pre : σ → σ → Prop} {work : EStateM Stop σ α} {Post Post' : α → σ → σ → Prop}

theorem pure {a : α} (holds : ∀ s s', Pre s s' → Post a s s') :
    Even Pre (Pure.pure a : EStateM Stop σ α) Post :=
  Pairs.pure fun s s' pre => ⟨rfl, holds s s' pre⟩

theorem throw (stop : Stop) : Even Pre (MonadExcept.throw stop : EStateM Stop σ α) Post :=
  Pairs.throw stop fun _ _ _ => trivial

theorem bind {first : EStateM Stop σ β} {next : β → EStateM Stop σ α} {Mid : β → σ → σ → Prop}
    (even : Even Pre first Mid) (rest : ∀ b, Even (Mid b) (next b) Post) :
    Even Pre (first >>= next) Post := by
  refine Pairs.bind even ?_
  rintro b _ s s' ⟨rfl, mid⟩
  exact rest b s s' mid

theorem imp (even : Even Pre work Post) (weaker : ∀ a s s', Post a s s' → Post' a s s') :
    Even Pre work Post' :=
  Pairs.imp even fun _ _ _ _ holds => holds.imp_right (weaker _ _ _)

/-- What goes on where a condition does not make it stop. -/
theorem allowed {refused : Prop} [Decidable refused] {stops : EStateM Stop σ PUnit}
    (halts : Even Pre stops fun _ _ _ => False) (rest : ¬ refused → Even Pre work Post) :
    Even Pre (if refused then stops >>= fun _ => work else work) Post := by
  split
  · exact bind halts fun _ _ _ impossible => impossible.elim
  · next allowed => exact rest allowed

end Even

end Evens

/-! ## Two worlds -/

section Worlds

variable {Item α β : Type} {A B : Table → Table → Prop}

/-- Two stores over tables in memory of which `A` holds, with the same in store for what is asked of
them. -/
structure BesideStores (A : Table → Table → Prop) (s s' : Store) : Prop where
  faults : s.faults = s'.faults
  delay : s.delay = s'.delay
  tables : ∃ t t', s.backing = .memory t ∧ s'.backing = .memory t' ∧ A t t'

/-- Two worlds that differ in their tables, of which `A` holds, and otherwise in nothing but what
has been handed to those who listen, what the interceptor remembers and how often something was
stored. -/
structure Beside (A : Table → Table → Prop) (w w' : World Item) : Prop where
  timeline : w.timeline = w'.timeline
  clock : w.clock = w'.clock
  ids : w.ids = w'.ids
  store : BesideStores A w.store w'.store

/-- Two tables of which nothing is known. -/
def AnyTables (_ _ : Table) : Prop :=
  True

/-! ### The store -/

namespace BesideStores

variable {s s' : Store} {key : Key}

theorem get (beside : BesideStores A s s') (alike : ∀ t t', A t t' → t.get? key = t'.get? key) :
    (s.get key).1 = (s'.get key).1 ∧ BesideStores A (s.get key).2 (s'.get key).2 := by
  obtain ⟨t, t', stored, stored', same⟩ := beside.tables
  unfold Store.get
  rw [← beside.faults, stored, stored']
  cases s.faults.get with
  | some failure => exact ⟨rfl, rfl, beside.delay, t, t', rfl, rfl, same⟩
  | none => exact ⟨by simp only [Table.fetch, alike t t' same], beside⟩

/-- The listings are those of the two tables, unless both stores fail in the same way. -/
theorem list (beside : BesideStores A s s') (name : String) :
    BesideStores A (s.list name).2 (s'.list name).2 ∧
      ((∃ failure, (s.list name).1 = .error failure ∧ (s'.list name).1 = .error failure) ∨
        ∃ t t', A t t' ∧ (s.list name).1 = .ok (t.valuesOf name) ∧
          (s'.list name).1 = .ok (t'.valuesOf name)) := by
  obtain ⟨t, t', stored, stored', same⟩ := beside.tables
  unfold Store.list Store.contents
  rw [← beside.faults, stored, stored']
  cases s.faults.list with
  | some failure => exact ⟨⟨rfl, beside.delay, t, t', rfl, rfl, same⟩, .inl ⟨failure, rfl, rfl⟩⟩
  | none => exact ⟨beside, .inr ⟨t, t', same, rfl, rfl⟩⟩

theorem put (beside : BesideStores A s s') (key : Key) (value : ByteArray) (unique : String) :
    (s.put key value unique).1 = (s'.put key value unique).1 ∧
      BesideStores AnyTables (s.put key value unique).2 (s'.put key value unique).2 := by
  obtain ⟨t, t', stored, stored', -⟩ := beside.tables
  unfold Store.put Table.store
  rw [← beside.faults, stored, stored']
  cases s.faults.put with
  | some failure => exact ⟨rfl, rfl, beside.delay, t, t', rfl, rfl, trivial⟩
  | none =>
    cases checkKey key with
    | ok _ => exact ⟨rfl, rfl, beside.delay, _, _, rfl, rfl, trivial⟩
    | error failure => exact ⟨rfl, beside.faults, beside.delay, t, t', stored, stored', trivial⟩

theorem delete (beside : BesideStores A s s') (alike : ∀ t t', A t t' → t.get? key = t'.get? key) :
    (s.delete key).1 = (s'.delete key).1 ∧
      BesideStores AnyTables (s.delete key).2 (s'.delete key).2 := by
  obtain ⟨t, t', stored, stored', same⟩ := beside.tables
  unfold Store.delete Table.remove
  rw [← beside.faults, stored, stored']
  dsimp only
  rw [← alike t t' same]
  cases s.faults.delete with
  | some failure => exact ⟨rfl, rfl, beside.delay, t, t', rfl, rfl, trivial⟩
  | none =>
    cases t.get? key with
    | some value => exact ⟨rfl, rfl, beside.delay, _, _, rfl, rfl, trivial⟩
    | none => exact ⟨rfl, beside.faults, beside.delay, t, t', stored, stored', trivial⟩

end BesideStores

/-! ### Operations on the world -/

namespace Even

theorem ofExcept (answer : Except Failure α) :
    Even (Beside A) (Op.ofExcept answer : Op Item α) fun _ => Beside A := by
  cases answer with
  | ok a => exact pure fun _ _ beside => beside
  | error failure => exact throw _

theorem onTimeline (f : Timeline → α × Timeline) :
    Even (Beside A) (Op.onTimeline f : Op Item α) fun _ => Beside A := by
  intro w w' beside
  exact .ok ⟨congrArg (fun t => (f t).1) beside.timeline,
    { beside with timeline := congrArg (fun t => (f t).2) beside.timeline }⟩

theorem readClock : Even (Beside A) (Op.readClock : Op Item Timestamp) fun _ => Beside A := by
  intro w w' beside
  exact .ok ⟨congrArg (fun clock => clock.next.1) beside.clock,
    { beside with clock := congrArg (fun clock => clock.next.2) beside.clock }⟩

theorem uniqueText : Even (Beside A) (Op.uniqueText : Op Item String) fun _ => Beside A := by
  intro w w' beside
  exact .ok ⟨congrArg (fun ids => ids.next.1) beside.ids,
    { beside with ids := congrArg (fun ids => ids.next.2) beside.ids }⟩

theorem check (call : Call) : Even (Beside A) (Op.check call : Op Item Unit) fun _ => Beside A := by
  intro w w' beside
  show EndPair _ _ ((Op.ofExcept (w.timeline.check call) : Op Item Unit) w)
    ((Op.ofExcept (w'.timeline.check call) : Op Item Unit) w')
  rw [← beside.timeline]
  exact ofExcept _ w w' beside

theorem storeDelay : Even (Beside A) (Op.storeDelay : Op Item Nat) fun _ => Beside A :=
  fun _ _ beside => .ok ⟨congrArg (·.getD 0) beside.store.delay, beside⟩

end Even

section Store

variable (call : Call) {effect : Op Item α} {Post : α → α → World Item → World Item → Prop}

/-- What the store does happens in both worlds, or the call is stopped in both before. -/
theorem Pairs.delayed (happens : Pairs (Beside A) effect effect Post fun _ _ => True) :
    Pairs (Beside A) (do Op.guarded call (← Op.storeDelay) effect : Op Item α)
      (do Op.guarded call (← Op.storeDelay) effect) Post fun _ _ => True := by
  refine .bind Even.storeDelay ?_
  rintro delay _ w w' ⟨rfl, beside⟩
  refine Pairs.bind (Even.onTimeline _) ?_ w w' beside
  rintro wait _ w w' ⟨rfl, beside⟩
  split
  · exact .error trivial
  · exact happens w w' beside

variable {key : Key}

theorem even_fetch (alike : ∀ t t', A t t' → t.get? key = t'.get? key) :
    Even (Beside A) (Op.fetch call key : Op Item _) fun _ => Beside A := by
  refine Pairs.delayed call fun w w' beside => ?_
  obtain ⟨same, store⟩ := beside.store.get alike
  exact .ok ⟨same, { beside with store := store }⟩

theorem even_put (value : ByteArray) :
    Even (Beside A) (Op.put call key value : Op Item _) fun _ => Beside AnyTables := by
  refine Pairs.delayed call fun w w' beside => ?_
  obtain ⟨t, t', stored, stored', -⟩ := beside.store.tables
  obtain ⟨same, store⟩ := beside.store.put key value ""
  have inMemory {v : World Item} {table : Table} (stored : v.store.backing = .memory table) :
      (Op.storePut key value : Op Item _) v = Op.onStore (fun s => s.put key value "") v := by
    have read : (get : Op Item (World Item)) v = .ok v v := rfl
    unfold Op.storePut
    simp only [bind, EStateM.bind, read, stored]
  rw [inMemory stored, inMemory stored']
  exact .ok ⟨same, { beside with store := store }⟩

theorem even_delete (alike : ∀ t t', A t t' → t.get? key = t'.get? key) :
    Even (Beside A) (Op.delete call key : Op Item _) fun _ => Beside AnyTables := by
  refine Pairs.delayed call fun w w' beside => ?_
  obtain ⟨same, store⟩ := beside.store.delete alike
  exact .ok ⟨same, { beside with store := store }⟩

end Store

end Worlds

/-! ### Operations of the catalog -/

section Catalog

open Catalog

variable {Item Spec Status : Type} [Managed Spec Status] {A : Table → Table → Prop} (call : Call)
  {kind : Kind}

theorem even_load {id : String}
    (alike : ∀ t t', A t t' → t.get? ⟨kind.name, id⟩ = t'.get? ⟨kind.name, id⟩) :
    Even (Beside A) (load call kind id : Op Item (Resource Spec Status)) fun _ => Beside A := by
  refine .bind (even_fetch call alike) fun answer => ?_
  cases answer with
  | error failure => exact .throw _
  | ok bytes =>
    cases read : (Resource.decode bytes : Except _ (Resource Spec Status)) with
    | error failure => simpa only [read] using .throw _
    | ok r => simpa only [read] using .pure fun _ _ beside => beside

/-- What is found for a natural key in a table, if all its values of the kind can be read. -/
def findings (Spec Status : Type) [Managed Spec Status] (kind : Kind) (t : Table)
    (scope : OwnerScope) (slug : String) : Except Store.Failure (List (Resource Spec Status)) :=
  (decodeAll (t.valuesOf kind.name)).map (·.filter (Resource.hasKey scope slug))

theorem even_findByKey {scope : OwnerScope} {slug : String}
    (alike : ∀ t t', A t t' →
      findings Spec Status kind t scope slug = findings Spec Status kind t' scope slug) :
    Even (Beside A) (findByKey call kind scope slug : Op Item (List (Resource Spec Status)))
      fun _ => Beside A := by
  have listed : Pairs (Beside A) (Op.list call kind.name : Op Item _) (Op.list call kind.name)
      (fun a a' w w' => Beside A w w' ∧
        ((∃ failure, a = .error failure ∧ a' = .error failure) ∨
          ∃ t t', A t t' ∧ a = .ok (t.valuesOf kind.name) ∧ a' = .ok (t'.valuesOf kind.name)))
      fun _ _ => True := by
    refine Pairs.delayed call fun w w' beside => ?_
    obtain ⟨store, answers⟩ := beside.store.list kind.name
    exact .ok ⟨{ beside with store := store }, answers⟩
  refine Pairs.bind listed ?_
  rintro _ _ w w' ⟨beside, ⟨failure, rfl, rfl⟩ | ⟨t, t', same, rfl, rfl⟩⟩
  · exact .error trivial
  have same := alike t t' same
  unfold findings at same
  cases read : (decodeAll (t.valuesOf kind.name) : Except _ (List (Resource Spec Status))) <;>
    cases read' : (decodeAll (t'.valuesOf kind.name) : Except _ (List (Resource Spec Status))) <;>
    rw [read, read'] at same
  · obtain rfl := Except.error.inj same
    simp only [Except.bind, read, read']
    exact .error trivial
  · cases same
  · cases same
  · simp only [Except.bind, read, read']
    exact .ok ⟨Except.ok.inj same, beside⟩

theorem even_idOrNew (id : String) :
    Even (Beside A) (idOrNew kind id : Op Item String) fun _ => Beside A := by
  unfold idOrNew
  split
  · exact .bind .uniqueText fun _ => .pure fun _ _ beside => beside
  · exact .pure fun _ _ beside => beside

theorem even_persistResource (r : Resource Spec Status) :
    Even (Beside A) (persistResource call kind r : Op Item Unit) fun _ => Beside AnyTables := by
  refine .allowed (.throw _) fun _ => .bind (even_put call r.encode) fun answer => ?_
  cases answer with
  | ok _ => exact .pure fun _ _ beside => beside
  | error failure => exact .throw _

end Catalog

/-! ## Two sessions -/

section Sessions

variable {Item Input R α : Type} {A B : Table → Table → Prop} {r : Request Input R}

/-- The same request in two worlds beside each other. -/
abbrev Abreast (A : Table → Table → Prop) (r : Request Input R)
    (s s' : Session Item Input R) : Prop :=
  Paired (Beside A) r r s s'

/-- The same request, of which `Q` holds, in two worlds beside each other. -/
def AbreastBy (A : Table → Table → Prop) (Q : Request Input R → Prop)
    (s s' : Session Item Input R) : Prop :=
  ∃ r, Q r ∧ Abreast A r s s'

variable {Post : α → Session Item Input R → Session Item Input R → Prop}

namespace Even

theorem each {work : Work Item Input R α} {Q : Request Input R → Prop}
    (even : ∀ r, Q r → Even (Abreast A r) work Post) : Even (AbreastBy A Q) work Post := by
  rintro s s' ⟨r, holds, abreast⟩
  exact even r holds s s' abreast

theorem perform {op : Op Item α} (even : Even (Beside A) op fun _ => Beside B) :
    Even (Abreast A r) (Work.perform op : Work Item Input R α) fun _ => Abreast B r :=
  (Pairs.perform even).imp fun _ _ _ _ ⟨left, right, same, worlds⟩ => ⟨same, left, right, worlds⟩

theorem work_ofExcept {β : Type} {answer : Except Failure β} {next : β → Work Item Input R α}
    (rest : ∀ b, answer = .ok b → Even (Abreast A r) (next b) Post) :
    Even (Abreast A r) (Work.ofExcept answer >>= next) Post := by
  cases answer with
  | ok b => exact rest b rfl
  | error failure => exact fun _ _ _ => .error trivial

theorem request {next : Request Input R → Work Item Input R α}
    (rest : Even (Abreast A r) (next r) Post) :
    Even (Abreast A r) (Work.request >>= next) Post := by
  refine Pairs.bind Pairs.request ?_
  rintro _ _ s s' ⟨⟨rfl, rfl⟩, abreast⟩
  exact rest s s' abreast

theorem requireKind {next : Kind → Work Item Input R α} {kind : Kind}
    (own : r.call.kind = some kind) (rest : Even (Abreast A r) (next kind) Post) :
    Even (Abreast A r) (Work.requireKind >>= next) Post := by
  unfold Work.requireKind
  rw [bind_assoc]
  refine request ?_
  rw [Call.requireKind, own]
  exact rest

theorem newState {next : Input → Work Item Input R α} {state : Input}
    (filled : r.newState = some state) (rest : Even (Abreast A r) (next state) Post) :
    Even (Abreast A r) (Work.newState >>= next) Post := by
  unfold Work.newState
  rw [bind_assoc]
  refine request ?_
  rw [Request.getNewState, filled]
  exact rest

theorem existing {next : Input → Work Item Input R α} {old : Input}
    (filled : r.existing = some old) (rest : Even (Abreast A r) (next old) Post) :
    Even (Abreast A r) (Work.existing >>= next) Post := by
  unfold Work.existing
  rw [bind_assoc]
  refine request ?_
  rw [Request.getExisting, filled]
  exact rest

theorem modifyRequest (f : Request Input R → Request Input R) :
    Even (Abreast A r) (Work.modifyRequest f : Work Item Input R Unit) fun _ =>
      Abreast A (f r) :=
  (Pairs.modifyRequest f f).imp fun _ _ _ _ abreast => ⟨rfl, abreast⟩

/-- The call is looked after, then comes the first step, then the others. -/
theorem cons {step : Step Item Input R} {steps : List (Step Item Input R)}
    {Mid Post : Session Item Input R → Session Item Input R → Prop}
    (first : Even (Abreast A r) step.run fun _ => Mid)
    (rest : Even Mid (Pipeline.runSteps steps) fun _ => Post) :
    Even (Abreast A r) (Pipeline.runSteps (step :: steps)) fun _ => Post := by
  have checked : Even (Abreast A r) (Work.perform (Op.check r.call) : Work Item Input R Unit)
      fun _ => Abreast A r := .perform (.check _)
  refine Pairs.cons (Pairs.imp checked fun _ _ _ _ holds => holds.2) first ?_
  rintro s s' ⟨-, mid⟩
  exact rest s s' mid

end Even

end Sessions

/-! ## The steps of the catalog -/

section Steps

open Catalog

variable {Item Spec Status : Type} [Managed Spec Status] {A : Table → Table → Prop} {kind : Kind}
  {r : Request (Resource Spec Status) (Resource Spec Status)} {state old : Resource Spec Status}

theorem even_validate : Even (Abreast A r)
    (validate : Step Item (Resource Spec Status) _).run fun _ => Abreast A r := by
  refine .request ?_
  cases r.input.violation? with
  | none => exact .pure fun _ _ abreast => abreast
  | some violation => exact .throw _

omit [Managed Spec Status] in
theorem even_resolveSlug (filled : r.newState = some state) : Even (Abreast A r)
    (resolveSlug : Step Item (Resource Spec Status) _).run fun _ => AbreastBy A fun r' =>
      ∃ slug, resolvedSlug state.metadata = .ok slug ∧
        r' = { r with newState := some (state.withMetadata fun m => { m with slug := slug }) } := by
  refine .newState filled (.work_ofExcept fun slug resolved => ?_)
  exact .imp (.modifyRequest _) fun _ _ _ abreast => ⟨_, ⟨slug, resolved, rfl⟩, abreast⟩

theorem even_checkDuplicate (own : r.call.kind = some kind) (filled : r.newState = some state)
    (alike : ∀ t t', A t t' →
      findings Spec Status kind t state.metadata.scope state.metadata.slug =
        findings Spec Status kind t' state.metadata.scope state.metadata.slug) :
    Even (Abreast A r) (checkDuplicate : Step Item (Resource Spec Status) _).run fun _ =>
      Abreast A r := by
  refine .requireKind own (.newState filled (.allowed (.throw _) fun _ => .request ?_))
  refine .bind (.perform (even_findByKey _ alike)) fun found => ?_
  cases found with
  | nil => exact .pure fun _ _ abreast => abreast
  | cons taken _ => exact .throw _

theorem even_buildNewState (own : r.call.kind = some kind) (filled : r.newState = some state) :
    Even (Abreast A r) (buildNewState : Step Item (Resource Spec Status) _).run fun _ =>
      AbreastBy A fun r' => ∃ made, r' = { r with newState := some made } := by
  refine .requireKind own (.bind (.modifyRequest _) fun _ => ?_)
  have seeded : r.seed = r := by simp [Request.seed, filled]
  rw [seeded]
  refine .newState filled (.bind (.perform .readClock) fun now => ?_)
  refine .bind (.perform (even_idOrNew _)) fun id => ?_
  exact .imp (.modifyRequest _) fun _ _ _ abreast => ⟨_, ⟨_, rfl⟩, abreast⟩

theorem even_persist (own : r.call.kind = some kind) (filled : r.newState = some state) :
    Even (Abreast A r) (persist : Step Item (Resource Spec Status) _).run fun _ =>
      Abreast AnyTables r := by
  refine .requireKind own (.newState filled (.request ?_))
  exact .perform (even_persistResource _ state)

/-- The stored version is loaded by the id of the resource at hand. -/
theorem even_loadExisting (own : r.call.kind = some kind)
    (at_hand : r.newState.getD r.input = state) (chosen : state.id ≠ "")
    (alike : ∀ t t', A t t' → t.get? ⟨kind.name, state.id⟩ = t'.get? ⟨kind.name, state.id⟩) :
    Even (Abreast A r) (loadExisting : Step Item (Resource Spec Status) _).run fun _ =>
      AbreastBy A fun r' => ∃ old, r' = { r with existing := some old } := by
  refine .requireKind own (.request ?_)
  dsimp only
  rw [at_hand, if_pos chosen]
  refine .bind (.perform (even_load _ alike)) fun old => ?_
  exact .imp (.modifyRequest _) fun _ _ _ abreast => ⟨_, ⟨old, rfl⟩, abreast⟩

omit [Managed Spec Status] in
theorem even_nextUpdate {Input R : Type} {r : Request Input R} (previous : Option Timestamp) :
    Even (Abreast A r) (nextUpdate previous : Work Item Input R Timestamp) fun _ =>
      Abreast A r := by
  refine .bind (.perform .readClock) fun now => ?_
  cases Timestamp.next? previous now with
  | some moment => exact .pure fun _ _ abreast => abreast
  | none => exact .throw _

theorem even_buildUpdateState (filled : r.existing = some old) : Even (Abreast A r)
    (buildUpdateState : Step Item (Resource Spec Status) _).run fun _ =>
      AbreastBy A fun r' => ∃ made, r' = { r with newState := some made } := by
  refine .existing filled (.request (.bind (even_nextUpdate _) fun moment => ?_))
  exact .imp (.modifyRequest _) fun _ _ _ abreast => ⟨_, ⟨_, rfl⟩, abreast⟩

theorem even_mergeStatus {R : Type} {r : Request WorkflowExecution R} {old : WorkflowExecution}
    (filled : r.existing = some old) : Even (Abreast A r)
    (Executions.mergeStatus : Step Item WorkflowExecution R).run fun _ =>
      AbreastBy A fun r' => ∃ made, r' = { r with newState := some made } := by
  refine .request (.existing filled (.work_ofExcept fun _ _ => ?_))
  refine .bind (even_nextUpdate _) fun moment => ?_
  exact .imp (.modifyRequest _) fun _ _ _ abreast => ⟨_, ⟨_, rfl⟩, abreast⟩

omit [Managed Spec Status] in
/-- How many took what is handed on may be different, but nobody asks. -/
theorem even_publish (filled : r.newState = some state) : Even (Abreast A r)
    (publish : Step (Resource Spec Status) (Resource Spec Status) (Resource Spec Status)).run
    fun _ => Abreast A r := by
  refine .newState filled ?_
  rintro s s' ⟨left, right, worlds⟩
  exact .ok ⟨rfl, left, right, worlds.timeline, worlds.clock, worlds.ids, worlds.store⟩

end Steps

section Ids

open Catalog

variable {Item Spec Status : Type} [Managed Spec Status] {A : Table → Table → Prop} {kind : Kind}
  {r : Request String (Resource Spec Status)} {id : String}

omit [Managed Spec Status] in
theorem even_extractResourceId : Even (Abreast A r)
    (extractResourceId : Step Item String (Resource Spec Status)).run fun _ =>
      Abreast A (r.leave resourceIdNote (.text (Text.trim r.input))) := by
  refine .request (.allowed (.throw _) fun _ => ?_)
  exact .modifyRequest _

omit [Managed Spec Status] in
theorem even_extractedId (noted : r.find? resourceIdNote Note.text? = some id) {α : Type}
    {next : String → Work Item String (Resource Spec Status) α}
    {Post : α → Session Item String (Resource Spec Status) →
      Session Item String (Resource Spec Status) → Prop}
    (rest : Even (Abreast A r) (next id) Post) :
    Even (Abreast A r) (extractedId >>= next) Post := by
  unfold extractedId
  rw [bind_assoc]
  refine .request ?_
  rw [noted]
  exact rest

theorem even_loadExistingForDelete (own : r.call.kind = some kind)
    (noted : r.find? resourceIdNote Note.text? = some id)
    (alike : ∀ t t', A t t' → t.get? ⟨kind.name, id⟩ = t'.get? ⟨kind.name, id⟩) :
    Even (Abreast A r) (loadExistingForDelete : Step Item String (Resource Spec Status)).run
      fun _ => AbreastBy A fun r' =>
        ∃ old : Resource Spec Status, r' = r.leave existingNote (.resource old) := by
  refine .requireKind own (even_extractedId noted (.request ?_))
  refine .bind (.perform (even_load _ alike)) fun old => ?_
  exact .imp (.modifyRequest _) fun _ _ _ abreast => ⟨_, ⟨old, rfl⟩, abreast⟩

omit [Managed Spec Status] in
theorem even_deleteResource (own : r.call.kind = some kind)
    (noted : r.find? resourceIdNote Note.text? = some id)
    (alike : ∀ t t', A t t' → t.get? ⟨kind.name, id⟩ = t'.get? ⟨kind.name, id⟩) :
    Even (Abreast A r) (deleteResource : Step Item String (Resource Spec Status)).run fun _ =>
      Abreast AnyTables r := by
  refine .requireKind own (even_extractedId noted (.request ?_))
  refine .bind (.perform (even_delete _ alike)) fun answer => ?_
  cases answer with
  | ok _ => exact .pure fun _ _ abreast => abreast
  | error failure => exact .throw _

end Ids

/-! ## Lines of steps and pipelines -/

section Lines

open Catalog

variable {Item Input R α : Type} {A : Table → Table → Prop}

/-- Both runs have come to the same request, whatever they have made of the tables. -/
def Together (s s' : Session Item Input R) : Prop :=
  AbreastBy AnyTables (fun _ => True) s s'

theorem even_nil {r : Request Input R} : Even (Abreast AnyTables r)
    (Pipeline.runSteps ([] : List (Step Item Input R))) fun _ => Together :=
  .pure fun _ _ abreast => ⟨r, trivial, abreast⟩

section Resources

variable {Spec Status : Type} [Managed Spec Status] {kind : Kind} {input : Resource Spec Status}
  {r : Request (Resource Spec Status) (Resource Spec Status)}
  (steps : List (Step Item (Resource Spec Status) (Resource Spec Status)))

/-- Creating looks at what is found for the natural key of the input. -/
theorem even_createSteps (own : r.call.kind = some kind) (filled : r.newState = some input)
    (alike : ∀ slug, resolvedSlug input.metadata = .ok slug → ∀ t t', A t t' →
      findings Spec Status kind t input.metadata.scope slug =
        findings Spec Status kind t' input.metadata.scope slug)
    (rest : ∀ r' made, r'.newState = some made →
      Even (Abreast AnyTables r') (Pipeline.runSteps steps) fun _ => Together) :
    Even (Abreast A r) (Pipeline.runSteps (Standard.createSteps ++ steps)) fun _ => Together := by
  refine .cons even_validate (.cons (even_resolveSlug filled) (.each ?_))
  rintro _ ⟨slug, resolved, rfl⟩
  refine .cons (even_checkDuplicate own rfl (alike slug resolved)) ?_
  refine .cons (even_buildNewState own rfl) (.each ?_)
  rintro _ ⟨made, rfl⟩
  exact .cons (even_persist own rfl) (rest _ made rfl)

/-- Updating by id looks at what stands under the id. -/
theorem even_updateSteps (own : r.call.kind = some kind) (filled : r.newState = some input)
    (chosen : input.id ≠ "")
    (alike : ∀ t t', A t t' → t.get? ⟨kind.name, input.id⟩ = t'.get? ⟨kind.name, input.id⟩)
    (rest : ∀ r' made, r'.newState = some made →
      Even (Abreast AnyTables r') (Pipeline.runSteps steps) fun _ => Together) :
    Even (Abreast A r) (Pipeline.runSteps (Standard.updateSteps ++ steps)) fun _ => Together := by
  refine .cons even_validate (.cons (even_resolveSlug filled) (.each ?_))
  rintro _ ⟨slug, resolved, rfl⟩
  refine .cons (even_loadExisting own rfl chosen alike) (.each ?_)
  rintro _ ⟨old, rfl⟩
  refine .cons (even_buildUpdateState rfl) (.each ?_)
  rintro _ ⟨made, rfl⟩
  exact .cons (even_persist own rfl) (rest _ made rfl)

omit [Managed Spec Status] in
theorem even_published {r : Request (Resource Spec Status) (Resource Spec Status)}
    {made : Resource Spec Status} (filled : r.newState = some made) : Even (Abreast AnyTables r)
      (Pipeline.runSteps [(publish : Step (Resource Spec Status) (Resource Spec Status) _)])
      fun _ => Together :=
  .cons (even_publish filled) even_nil

end Resources

/-- The request with which a pipeline starts. -/
def Pipeline.start (p : Pipeline Item Input R) (call : Call) (input : Input) : Request Input R :=
  let request : Request Input R := { call := call, input := input }
  if p.seeds then request.seed else request

/-- Both runs of a pipeline hand back the same request. -/
theorem even_execute {p : Pipeline Item Input R} {call : Call} {input : Input}
    (even : Even (Abreast A (p.start call input)) (Pipeline.runSteps p.steps) fun _ => Together) :
    Even (Beside A) (p.execute { call := call, input := input } : Op Item (Request Input R))
      fun _ => Beside AnyTables := by
  have run : Even (Abreast A { call := call, input := input }) p.run fun _ => Together := by
    unfold Pipeline.start at even
    unfold Pipeline.run
    cases seeds : p.seeds <;> rw [seeds] at even
    · exact even
    · exact .bind (.modifyRequest _) fun _ => even
  have run' := Pairs.imp run fun _ _ s s' ⟨_, r, _, abreast⟩ =>
    show Beside AnyTables s.world s'.world ∧ s.request = s'.request from
      ⟨abreast.worlds, abreast.left.trans abreast.right.symm⟩
  exact (Pairs.execute (H := fun _ _ => True) run').imp fun _ _ _ _ holds => holds.symm

theorem even_write {p : Pipeline Item Input R} {call : Call} {input : Input}
    (even : Even (Abreast A (p.start call input)) (Pipeline.runSteps p.steps) fun _ => Together) :
    Even (Beside A) (p.write call input) fun _ => Beside AnyTables :=
  .bind (even_execute even) fun _ => .ofExcept _

theorem even_answerNote {p : Pipeline Item Input R} {call : Call} {input : Input} (key : String)
    (even : Even (Abreast A (p.start call input)) (Pipeline.runSteps p.steps) fun _ => Together) :
    Even (Beside A) (p.answerNote key call input) fun _ => Beside AnyTables := by
  refine .bind (even_execute even) fun r => ?_
  cases r.find? key Note.resource? with
  | some answer => exact .pure fun _ _ beside => beside
  | none => exact .throw _

/-! ### The operations of services -/

section Services

variable {Spec Status : Type} [Managed Spec Status] {kind : Kind} {call : Call}
  {input : Resource Spec Status}

theorem even_create (own : call.kind = some kind)
    (alike : ∀ slug, resolvedSlug input.metadata = .ok slug → ∀ t t', A t t' →
      findings Spec Status kind t input.metadata.scope slug =
        findings Spec Status kind t' input.metadata.scope slug) :
    Even (Beside A) ((Standard.create kind).write call input : Op Item (Resource Spec Status))
      fun _ => Beside AnyTables :=
  even_write (even_createSteps [] own rfl alike fun _ _ _ => even_nil)

theorem even_update (own : call.kind = some kind) (chosen : input.id ≠ "")
    (alike : ∀ t t', A t t' → t.get? ⟨kind.name, input.id⟩ = t'.get? ⟨kind.name, input.id⟩) :
    Even (Beside A) ((Standard.update kind).write call input : Op Item (Resource Spec Status))
      fun _ => Beside AnyTables :=
  even_write (even_updateSteps [] own rfl chosen alike fun _ _ _ => even_nil)

/-- Removing looks at what stands under the id without the blanks around it. -/
theorem even_remove (own : call.kind = some kind) (id : String)
    (alike : ∀ t t', A t t' →
      t.get? ⟨kind.name, Text.trim id⟩ = t'.get? ⟨kind.name, Text.trim id⟩) :
    Even (Beside A) ((Standard.delete kind).remove call id : Op Item (Resource Spec Status))
      fun _ => Beside AnyTables := by
  refine even_answerNote _ (.cons even_extractResourceId ?_)
  have noted : Request.find? (Request.leave { call := call, input := id } resourceIdNote
      (.text (Text.trim id)) : Request String (Resource Spec Status)) resourceIdNote Note.text? =
      some (Text.trim id) := Request.find?_leave_self _ _ _ _
  refine .cons (even_loadExistingForDelete own noted alike) (.each ?_)
  rintro _ ⟨old, rfl⟩
  refine .cons (even_deleteResource own ?_ alike) even_nil
  rwa [Request.find?_leave_of_ne _ _ _ (by decide)]

end Services

section Executions

variable {kind : Kind} {call : Call} {input : WorkflowExecution}

theorem even_createExecution (own : call.kind = some kind)
    (alike : ∀ slug, resolvedSlug input.metadata = .ok slug → ∀ t t', A t t' →
      findings ExecutionSpec ExecutionStatus kind t input.metadata.scope slug =
        findings ExecutionSpec ExecutionStatus kind t' input.metadata.scope slug) :
    Even (Beside A) (Executions.create call input) fun _ => Beside AnyTables :=
  even_write (even_createSteps _ own rfl alike fun _ _ filled => even_published filled)

theorem even_updateExecution (own : call.kind = some kind) (chosen : input.id ≠ "")
    (alike : ∀ t t', A t t' → t.get? ⟨kind.name, input.id⟩ = t'.get? ⟨kind.name, input.id⟩) :
    Even (Beside A) (Executions.update call input) fun _ => Beside AnyTables :=
  even_write (even_updateSteps _ own rfl chosen alike fun _ _ filled => even_published filled)

theorem even_updateStatus (own : call.kind = some kind) (chosen : input.id ≠ "")
    (alike : ∀ t t', A t t' → t.get? ⟨kind.name, input.id⟩ = t'.get? ⟨kind.name, input.id⟩) :
    Even (Beside A) (Executions.updateStatus call input) fun _ => Beside AnyTables := by
  refine even_write (.cons (even_loadExisting own rfl chosen alike) (.each ?_))
  rintro _ ⟨old, rfl⟩
  refine .cons (even_mergeStatus rfl) (.each ?_)
  rintro _ ⟨made, rfl⟩
  exact .cons (even_persist own rfl) (even_published rfl)

end Executions

end Lines

end Steward
