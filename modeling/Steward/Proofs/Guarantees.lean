import Steward.Catalog.All
import Steward.Controller.Executions
import Steward.Proofs.Ends
import Steward.Transport.Endpoint

/-!
# What all work guarantees

Whatever work does to the store it does through the operations of the store, and it hands something
to those who listen in one step only; time, the clock and ids may go on at any moment. So a relation
between what work finds and what it leaves that holds of each of these alone holds of all work,
however it ends. Main statements: one for each step, `Guarantee.runSteps` and one for each of the
pipelines that services share.
-/

namespace Steward

variable {Item Input R α β : Type}

/-! ## Work in general -/

section Stays

variable {σ : Type} {Rel : σ → σ → Prop}

/-- However the work ends, the relation holds between what it found and what it leaves. -/
def Stays (Rel : σ → σ → Prop) (work : EStateM Stop σ α) : Prop :=
  ∀ s, Ends work s (fun _ s' => Rel s s') fun _ s' => Rel s s'

/-- The relation holds of what does nothing, and of what is done one after the other. -/
structure Lasting (Rel : σ → σ → Prop) : Prop where
  refl : ∀ s, Rel s s
  trans : ∀ {s s' s''}, Rel s s' → Rel s' s'' → Rel s s''

namespace Lasting

variable (lasting : Lasting Rel)
include lasting

theorem pure (a : α) : Stays Rel (Pure.pure a : EStateM Stop σ α) :=
  lasting.refl

theorem throw (stop : Stop) : Stays Rel (MonadExcept.throw stop : EStateM Stop σ α) :=
  lasting.refl

theorem get : Stays Rel (MonadState.get : EStateM Stop σ σ) :=
  lasting.refl

theorem bind {work : EStateM Stop σ β} {next : β → EStateM Stop σ α} (first : Stays Rel work)
    (rest : ∀ b, Stays Rel (next b)) : Stays Rel (work >>= next) := by
  intro s
  rw [ends_bind]
  refine (first s).imp (fun b s' holds => ?_) fun _ _ holds => holds
  exact (rest b s').imp (fun _ _ more => lasting.trans holds more)
    fun _ _ more => lasting.trans holds more

/-- What goes on unless a condition makes it stop. -/
theorem ifNot {refused : Prop} [Decidable refused] {stops : EStateM Stop σ PUnit}
    {rest : EStateM Stop σ α} (first : Stays Rel stops) (second : Stays Rel rest) :
    Stays Rel (if refused then stops >>= fun _ => rest else rest) := by
  split
  · exact lasting.bind first fun _ => second
  · exact second

end Lasting

end Stays

/-- What one operation of a store makes of the store. -/
inductive Touches (s : Store) : Store → Prop where
  | put (key : Store.Key) (value : ByteArray) (unique : String) :
      Touches s (s.put key value unique).2
  | get (key : Store.Key) : Touches s (s.get key).2
  | delete (key : Store.Key) : Touches s (s.delete key).2
  | list (kind : String) : Touches s (s.list kind).2

/-- The relation holds of all that operations on the world are made of, but for handing on. -/
structure Guarantee (Rel : World Item → World Item → Prop) : Prop extends Lasting Rel where
  /-- Neither the store nor those who listen have anything to do with it. -/
  aside : ∀ {w w'}, w'.store = w.store → w'.broker = w.broker → Rel w w'
  touches : ∀ w {store}, Touches w.store store → Rel w { w with store := store }

namespace Guarantee

variable {Rel : World Item → World Item → Prop} (g : Guarantee Rel)
include g

/-! ## Operations -/

theorem fail (failure : Failure) : Stays Rel (Op.fail failure : Op Item α) :=
  g.throw _

theorem ofExcept (answer : Except Failure α) : Stays Rel (Op.ofExcept answer : Op Item α) := by
  cases answer with
  | ok a => exact g.pure a
  | error failure => exact g.fail _

theorem onTimeline (f : Timeline → α × Timeline) : Stays Rel (Op.onTimeline f : Op Item α) :=
  fun _ => g.aside rfl rfl

theorem readClock : Stays Rel (Op.readClock : Op Item Timestamp) :=
  fun _ => g.aside rfl rfl

theorem uniqueText : Stays Rel (Op.uniqueText : Op Item String) :=
  fun _ => g.aside rfl rfl

theorem intercept (method : String) (call : Call) :
    Stays Rel (Op.intercept method call : Op Item Call) :=
  fun _ => g.aside rfl rfl

theorem guarded (call : Call) (duration : Nat) {effect : Op Item α} (stays : Stays Rel effect) :
    Stays Rel (Op.guarded call duration effect) := by
  refine g.bind (g.onTimeline _) fun wait => ?_
  split
  · exact g.fail _
  · exact stays

theorem check (call : Call) : Stays Rel (Op.check call : Op Item Unit) :=
  g.bind g.get fun _ => g.ofExcept _

omit g in
theorem attempt {op : Op Item α} (stays : Stays Rel op) : Stays Rel (Op.attempt op) := by
  intro w
  have ends := stays w
  simp only [Ends, EStateM.run, Op.attempt] at ends ⊢
  cases ran : op w with
  | ok a w' => rw [ran] at ends; exact ends
  | error stop w' => rw [ran] at ends; exact ends

section Store

variable (call : Call)

theorem storeDelay : Stays Rel (Op.storeDelay : Op Item Nat) :=
  g.bind g.get fun _ => g.pure _

theorem onStore {f : Store → α × Store} (touches : ∀ s, Touches s (f s).2) :
    Stays Rel (Op.onStore f : Op Item α) :=
  fun w => g.touches w (touches w.store)

theorem fetch (key : Store.Key) : Stays Rel (Op.fetch call key : Op Item _) :=
  g.bind g.storeDelay fun _ => g.guarded call _ (g.onStore fun _ => .get key)

theorem delete (key : Store.Key) : Stays Rel (Op.delete call key : Op Item _) :=
  g.bind g.storeDelay fun _ => g.guarded call _ (g.onStore fun _ => .delete key)

theorem list (name : String) : Stays Rel (Op.list call name : Op Item _) :=
  g.bind g.storeDelay fun _ => g.guarded call _ (g.onStore fun _ => .list name)

theorem put (key : Store.Key) (value : ByteArray) :
    Stays Rel (Op.put call key value : Op Item _) := by
  refine g.bind g.storeDelay fun _ => g.guarded call _ (g.bind g.get fun w => ?_)
  cases w.store.backing with
  | memory table => exact g.onStore fun _ => .put key value _
  | files directory => exact g.bind g.uniqueText fun _ => g.onStore fun _ => .put key value _

end Store

section Catalog

variable {Spec Status : Type} [Managed Spec Status] (call : Call) (kind : Kind)

theorem load (id : String) :
    Stays Rel (Catalog.load call kind id : Op Item (Resource Spec Status)) := by
  refine g.bind (g.fetch call _) fun answer => ?_
  cases answer with
  | error failure => exact g.fail _
  | ok bytes =>
    cases read : (Resource.decode bytes : Except _ (Resource Spec Status)) with
    | error failure => simpa only [read] using g.fail _
    | ok r => simpa only [read] using g.pure r

theorem findByKey (scope : OwnerScope) (slug : String) :
    Stays Rel (Catalog.findByKey call kind scope slug : Op Item (List (Resource Spec Status))) := by
  refine g.bind (g.list call _) fun answer => ?_
  cases found : (answer.bind Catalog.decodeAll : Except _ (List (Resource Spec Status))) with
  | error failure => simpa only [found] using g.fail _
  | ok resources => simpa only [found] using g.pure _

omit [Managed Spec Status] in
theorem unique? (slug : String) (scope : OwnerScope) (found : List (Resource Spec Status)) :
    Stays Rel (Catalog.unique? kind slug scope found : Op Item _) := by
  match found with
  | [] => exact g.pure _
  | [_] => exact g.pure _
  | _ :: _ :: _ => exact g.fail _

theorem loadByKey (scope : OwnerScope) (slug : String) :
    Stays Rel (Catalog.loadByKey call kind scope slug : Op Item (Resource Spec Status)) := by
  refine g.bind (g.findByKey call kind scope slug) fun found =>
    g.bind (g.unique? kind slug scope found) fun only => ?_
  cases only with
  | none => exact g.fail _
  | some r => exact g.pure r

theorem persistResource (r : Resource Spec Status) :
    Stays Rel (Catalog.persistResource call kind r : Op Item Unit) := by
  refine g.ifNot (g.fail _) (g.bind (g.put call _ _) fun answer => ?_)
  cases answer with
  | ok _ => exact g.pure _
  | error failure => exact g.fail _

theorem idOrNew (id : String) : Stays Rel (Catalog.idOrNew kind id : Op Item String) := by
  unfold Catalog.idOrNew
  split
  · exact g.bind g.uniqueText fun _ => g.pure _
  · exact g.pure _

end Catalog

end Guarantee

/-! ## Work on a request -/

/-- The relation holds between the world that the work found and the one that it leaves. -/
abbrev StaysWork (Rel : World Item → World Item → Prop) (work : Work Item Input R α) : Prop :=
  Stays (fun s s' => Rel s.world s'.world) work

namespace Guarantee

variable {Rel : World Item → World Item → Prop} (g : Guarantee Rel)
include g

theorem onSessions : Lasting fun s s' : Session Item Input R => Rel s.world s'.world :=
  ⟨fun s => g.refl s.world, g.trans⟩

omit g in
theorem perform {op : Op Item α} (stays : Stays Rel op) :
    StaysWork Rel (Work.perform op : Work Item Input R α) :=
  fun s => ends_perform.2 (stays s.world)

theorem failWork (failure : Failure) :
    StaysWork Rel (Work.fail failure : Work Item Input R α) :=
  g.onSessions.throw _

theorem ofExceptWork (answer : Except Failure α) :
    StaysWork Rel (Work.ofExcept answer : Work Item Input R α) := by
  cases answer with
  | ok a => exact g.onSessions.pure a
  | error failure => exact g.failWork _

theorem modifyRequest (f : Request Input R → Request Input R) :
    StaysWork Rel (Work.modifyRequest f : Work Item Input R Unit) :=
  fun s => g.refl s.world

theorem request : StaysWork Rel (Work.request : Work Item Input R (Request Input R)) :=
  fun s => g.refl s.world

theorem newState : StaysWork Rel (Work.newState : Work Item Input R Input) :=
  g.onSessions.bind g.request fun _ => g.ofExceptWork _

theorem existing : StaysWork Rel (Work.existing : Work Item Input R Input) :=
  g.onSessions.bind g.request fun _ => g.ofExceptWork _

theorem requireKind : StaysWork Rel (Work.requireKind : Work Item Input R Kind) :=
  g.onSessions.bind g.request fun _ => g.ofExceptWork _

theorem nextUpdate (previous : Option Timestamp) :
    StaysWork Rel (Catalog.nextUpdate previous : Work Item Input R Timestamp) := by
  refine g.onSessions.bind (perform g.readClock) fun now => ?_
  split
  · exact g.onSessions.pure _
  · exact g.onSessions.throw _

/-! ## Steps -/

section Steps

open Catalog

variable {Spec Status : Type} [Managed Spec Status]

theorem validate :
    StaysWork Rel (Catalog.validate : Step Item (Resource Spec Status) _).run := by
  refine g.onSessions.bind g.request fun r => ?_
  split
  · exact g.onSessions.pure _
  · exact g.failWork _

omit [Managed Spec Status] in
theorem resolveSlug :
    StaysWork Rel (Catalog.resolveSlug : Step Item (Resource Spec Status) _).run :=
  g.onSessions.bind g.newState fun _ => g.onSessions.bind (g.ofExceptWork _) fun _ =>
    g.modifyRequest _

theorem checkDuplicate :
    StaysWork Rel (Catalog.checkDuplicate : Step Item (Resource Spec Status) _).run := by
  refine g.onSessions.bind g.requireKind fun kind => g.onSessions.bind g.newState fun state => ?_
  refine g.onSessions.ifNot (g.failWork _) (g.onSessions.bind g.request fun r => ?_)
  refine g.onSessions.bind (perform (g.findByKey _ _ _ _)) fun found => ?_
  split
  · exact g.onSessions.pure _
  · exact g.failWork _

theorem buildNewState :
    StaysWork Rel (Catalog.buildNewState : Step Item (Resource Spec Status) _).run :=
  g.onSessions.bind g.requireKind fun _ => g.onSessions.bind (g.modifyRequest _) fun _ =>
    g.onSessions.bind g.newState fun _ => g.onSessions.bind (perform g.readClock) fun _ =>
      g.onSessions.bind (perform (g.idOrNew _ _)) fun _ => g.modifyRequest _

theorem persistNewState :
    StaysWork Rel (Catalog.persistNewState :
      Work Item (Resource Spec Status) (Resource Spec Status) Unit) :=
  g.onSessions.bind g.requireKind fun _ => g.onSessions.bind g.newState fun _ =>
    g.onSessions.bind g.request fun _ => perform (g.persistResource _ _ _)

theorem persist : StaysWork Rel (Catalog.persist : Step Item (Resource Spec Status) _).run :=
  g.persistNewState

theorem loadExisting :
    StaysWork Rel (Catalog.loadExisting : Step Item (Resource Spec Status) _).run := by
  refine g.onSessions.bind g.requireKind fun kind => g.onSessions.bind g.request fun r => ?_
  dsimp only
  split
  · exact g.onSessions.bind (perform (g.load _ _ _)) fun _ => g.modifyRequest _
  · split
    · exact g.onSessions.bind (perform (g.loadByKey _ _ _ _)) fun _ =>
        g.onSessions.bind (g.modifyRequest _) fun _ => g.modifyRequest _
    · exact g.failWork _

theorem loadForApply :
    StaysWork Rel (Catalog.loadForApply : Step Item (Resource Spec Status) _).run := by
  refine g.onSessions.bind g.requireKind fun kind => g.onSessions.bind g.newState fun state =>
    g.onSessions.bind g.request fun r => ?_
  refine g.onSessions.bind (perform (g.findByKey _ _ _ _)) fun found => ?_
  refine g.onSessions.bind (perform (g.unique? _ _ _ _)) fun only => ?_
  refine g.onSessions.bind (g.modifyRequest _) fun _ => g.onSessions.bind (g.modifyRequest _)
    fun _ => ?_
  cases only with
  | none => exact g.onSessions.pure _
  | some old => exact g.onSessions.bind (g.modifyRequest _) fun _ => g.modifyRequest _

theorem buildUpdateState :
    StaysWork Rel (Catalog.buildUpdateState : Step Item (Resource Spec Status) _).run :=
  g.onSessions.bind g.existing fun _ => g.onSessions.bind g.request fun _ =>
    g.onSessions.bind (g.nextUpdate _) fun _ => g.modifyRequest _

theorem mergeStatus : StaysWork Rel (Executions.mergeStatus : Step Item WorkflowExecution R).run :=
  g.onSessions.bind g.request fun _ => g.onSessions.bind g.existing fun _ =>
    g.onSessions.bind (g.ofExceptWork _) fun _ => g.onSessions.bind (g.nextUpdate _) fun _ =>
      g.modifyRequest _

theorem extractResourceId : StaysWork Rel (Catalog.extractResourceId : Step Item String R).run :=
  g.onSessions.bind g.request fun _ => g.onSessions.ifNot (g.failWork _) (g.modifyRequest _)

theorem extractedId : StaysWork Rel (Catalog.extractedId : Work Item String R String) := by
  refine g.onSessions.bind g.request fun r => ?_
  split
  · exact g.onSessions.pure _
  · exact g.failWork _

theorem wantedId : StaysWork Rel (Catalog.wantedId : Work Item String R String) := by
  refine g.onSessions.bind g.request fun r => ?_
  split
  · exact g.extractedId
  · exact g.onSessions.pure _

theorem loadTarget :
    StaysWork Rel (Catalog.loadTarget : Step Item String (Resource Spec Status)).run :=
  g.onSessions.bind g.requireKind fun _ => g.onSessions.bind g.wantedId fun _ =>
    g.onSessions.ifNot (g.failWork _) (g.onSessions.bind g.request fun _ =>
      g.onSessions.bind (perform (g.load _ _ _)) fun _ => g.modifyRequest _)

theorem loadExistingForDelete :
    StaysWork Rel (Catalog.loadExistingForDelete : Step Item String (Resource Spec Status)).run :=
  g.onSessions.bind g.requireKind fun _ => g.onSessions.bind g.extractedId fun _ =>
    g.onSessions.bind g.request fun _ => g.onSessions.bind (perform (g.load _ _ _)) fun _ =>
      g.modifyRequest _

theorem deleteResource : StaysWork Rel (Catalog.deleteResource : Step Item String R).run := by
  refine g.onSessions.bind g.requireKind fun kind => g.onSessions.bind g.extractedId fun id =>
    g.onSessions.bind g.request fun r => ?_
  refine g.onSessions.bind (perform (g.delete _ _)) fun answer => ?_
  cases answer with
  | ok _ => exact g.onSessions.pure _
  | error failure => exact g.failWork _

theorem loadByReference :
    StaysWork Rel (Catalog.loadByReference : Step Item Reference (Resource Spec Status)).run :=
  g.onSessions.bind g.requireKind fun _ => g.onSessions.bind g.request fun _ =>
    g.onSessions.ifNot (g.failWork _) (g.onSessions.bind (g.ofExceptWork _) fun _ =>
      g.onSessions.bind (perform (g.loadByKey _ _ _ _)) fun _ => g.modifyRequest _)

end Steps

/-! ## Pipelines -/

section Pipelines

theorem runSteps {steps : List (Step Item Input R)}
    (stays : ∀ step ∈ steps, StaysWork Rel step.run) :
    StaysWork Rel (Pipeline.runSteps steps) := by
  induction steps with
  | nil => exact g.onSessions.pure _
  | cons step steps ih =>
    obtain ⟨first, rest⟩ := List.forall_mem_cons.1 stays
    refine g.onSessions.bind g.request fun r => ?_
    refine g.onSessions.bind (perform (g.check r.call)) fun _ => ?_
    exact g.onSessions.bind first fun _ => ih rest

theorem execute {p : Pipeline Item Input R} {request : Request Input R}
    (stays : ∀ step ∈ p.steps, StaysWork Rel step.run) : Stays Rel (p.execute request) :=
  fun _ => ends_execute.2 (g.runSteps stays _)

theorem write {p : Pipeline Item Input R} (call : Call) (input : Input)
    (stays : ∀ step ∈ p.steps, StaysWork Rel step.run) : Stays Rel (p.write call input) :=
  g.bind (g.execute stays) fun _ => g.ofExcept _

theorem answerNote {p : Pipeline Item Input R} (key : String) (call : Call) (input : Input)
    (stays : ∀ step ∈ p.steps, StaysWork Rel step.run) :
    Stays Rel (p.answerNote key call input) := by
  refine g.bind (g.execute stays) fun request => ?_
  split
  · exact g.pure _
  · exact g.fail _

end Pipelines

/-! ## What services share -/

section Standard

variable {Spec Status : Type} [Managed Spec Status] (kind : Kind) (call : Call)

theorem createSteps : ∀ step ∈ (Standard.createSteps :
    List (Step Item (Resource Spec Status) (Resource Spec Status))), StaysWork Rel step.run := by
  simp only [Standard.createSteps, List.forall_mem_cons]
  exact ⟨g.validate, g.resolveSlug, g.checkDuplicate, g.buildNewState, g.persist, nofun⟩

theorem updateSteps : ∀ step ∈ (Standard.updateSteps :
    List (Step Item (Resource Spec Status) (Resource Spec Status))), StaysWork Rel step.run := by
  simp only [Standard.updateSteps, List.forall_mem_cons]
  exact ⟨g.validate, g.resolveSlug, g.loadExisting, g.buildUpdateState, g.persist, nofun⟩

theorem query (id : String) : Stays Rel
    ((Standard.get kind : Pipeline Item String (Resource Spec Status)).query call id) := by
  refine g.answerNote _ call id ?_
  simp only [Standard.get, List.forall_mem_cons]
  exact ⟨g.loadTarget, nofun⟩

theorem queryByReference (reference : Reference) :
    Stays Rel ((Standard.getByReference kind :
      Pipeline Item Reference (Resource Spec Status)).query call reference) := by
  refine g.answerNote _ call reference ?_
  simp only [Standard.getByReference, List.forall_mem_cons]
  exact ⟨g.loadByReference, nofun⟩

theorem remove (id : String) :
    Stays Rel
      ((Standard.delete kind : Pipeline Item String (Resource Spec Status)).remove call id) := by
  refine g.answerNote _ call id ?_
  simp only [Standard.delete, List.forall_mem_cons]
  exact ⟨g.extractResourceId, g.loadExistingForDelete, g.deleteResource, nofun⟩

theorem apply {create update : Call → Resource Spec Status → Op Item (Resource Spec Status)}
    (creates : ∀ input, Stays Rel (create call input))
    (updates : ∀ input, Stays Rel (update call input)) (input : Resource Spec Status) :
    Stays Rel (Standard.apply kind create update call input) := by
  refine g.bind (g.execute ?_) fun request => g.bind (g.ofExcept _) fun resolved => ?_
  · simp only [Standard.applyLookup, List.forall_mem_cons]
    exact ⟨g.validate, g.resolveSlug, g.loadForApply, nofun⟩
  · split
    · exact creates resolved
    · exact updates resolved

end Standard

end Guarantee

end Steward
