import Steward.Proofs.Lookups
import Steward.Proofs.Races

/-!
# Removals

What is removed is handed back, by a line of steps of its own: it takes the id out of the input,
loads what is there and only then deletes it. Its answer is nevertheless the one that looking the
resource up gives, whatever the table holds and however the id is written. If that is a resource,
its key and no other is gone from the store; if it is a failure, the store is as before. Main
statements: `ends_query_get`, `ends_remove_delete` and `removes_looked_up`.
-/

namespace Steward

open Catalog Store

/-! ## Operations of a store that the call outlasts -/

section Outlasting

variable {Item α : Type} {w : World Item} {call : Call} {table : Table} {key : Key}

/-- The world in which an operation of the store has taken its time. -/
def World.served (w : World Item) (call : Call) : World Item :=
  w.waited call (some (w.timeline.wake (w.store.delay.getD 0)))

@[simp]
theorem store_served : (w.served call).store = w.store :=
  rfl

theorem OutlastsStore.check (lives : OutlastsStore w call) :
    w.timeline.check call = .ok () := by
  cases alive : w.timeline.check call with
  | ok => rfl
  | error failure =>
    unfold OutlastsStore Timeline.await at lives
    rw [alive] at lives
    cases lives

theorem OutlastsStore.check_served (lives : OutlastsStore w call) :
    (w.served call).timeline.check call = .ok () :=
  Timeline.check_of_await lives

variable {E : Stop → World Item → Prop}

/-- What the store is asked for happens when the operation has taken its time. -/
theorem ends_served {effect : Op Item α} {Q : α → World Item → Prop}
    (lives : OutlastsStore w call) :
    Ends (do Op.guarded call (← Op.storeDelay) effect) w Q E ↔
      Ends effect (w.served call) Q E := by
  unfold Op.storeDelay Op.guarded
  simp only [ends_bind, ends_get, ends_pure, ends_onTimeline]
  rw [lives]
  rfl

theorem ends_fetch_served {Q : Except Store.Failure ByteArray → World Item → Prop}
    (lives : OutlastsStore w call) (faultless : w.store.faults.get = none)
    (stored : w.store.backing = .memory table) :
    Ends (Op.fetch call key) w Q E ↔ Q (table.fetch key) (w.served call) := by
  rw [Op.fetch, ends_served lives, ends_onStore, store_served]
  simp only [Store.get, faultless, stored]
  rfl

theorem ends_delete_served {Q : Except Store.Failure Unit → World Item → Prop}
    (lives : OutlastsStore w call) (faultless : w.store.faults.delete = none)
    (stored : w.store.backing = .memory table) (there : (table.get? key).isSome) :
    Ends (Op.delete call key) w Q E ↔
      Q (.ok ()) { w.served call with
        store := { w.store with backing := .memory (table.erase key) } } := by
  obtain ⟨bytes, there⟩ := Option.isSome_iff_exists.1 there
  rw [Op.delete, ends_served lives, ends_onStore, store_served]
  simp only [Store.delete, faultless, stored, Table.remove, there]

/-- While the call is alive, the next step is taken. -/
theorem ends_runSteps_of_live {Input R : Type} {s : Session Item Input R} {step : Step Item Input R}
    {steps : List (Step Item Input R)} {Q : Unit → Session Item Input R → Prop}
    {E : Stop → Session Item Input R → Prop}
    (live : s.world.timeline.check s.request.call = .ok ()) :
    Ends (Pipeline.runSteps (step :: steps)) s Q E ↔
      Ends step.run s (fun _ s' => Ends (Pipeline.runSteps steps) s' Q E) E := by
  rw [ends_runSteps_cons, live]
  simp

end Outlasting

/-! ## What looking up answers -/

section Lookup

variable {Item Spec Status : Type} [Managed Spec Status]

/-- What a table holds under an id, in the words in which callers are told. -/
def held (Spec Status : Type) [Managed Spec Status] (table : Table) (kind : Kind) (id : String) :
    Except Failure (Resource Spec Status) :=
  ((table.fetch ⟨kind.name, id⟩).bind Resource.decode).mapError (·.explain kind.name id)

/-- The same for an id as callers write it. -/
def lookupAnswer (Spec Status : Type) [Managed Spec Status] (table : Table) (kind : Kind)
    (id : String) : Except Failure (Resource Spec Status) :=
  if Text.trim id = "" then .error (.invalidArgument "resource id is required")
  else held Spec Status table kind (Text.trim id)

variable {w : World Item} {call : Call} {kind : Kind} {table : Table} {id : String}

theorem held_of_fetch {bytes : ByteArray} {r : Resource Spec Status}
    (fetched : table.fetch ⟨kind.name, id⟩ = .ok bytes) (decoded : Resource.decode bytes = .ok r) :
    held Spec Status table kind id = .ok r := by
  rw [held, fetched]
  simp only [Except.bind, decoded, Except.mapError]

theorem get?_of_held {r : Resource Spec Status} (found : held Spec Status table kind id = .ok r) :
    (table.get? ⟨kind.name, id⟩).isSome := by
  unfold held Table.fetch at found
  cases there : table.get? ⟨kind.name, id⟩ with
  | none => rw [there] at found; cases found
  | some bytes => rfl

theorem ends_load_served {Q : Resource Spec Status → World Item → Prop}
    {E : Stop → World Item → Prop} (lives : OutlastsStore w call)
    (faultless : w.store.faults.get = none) (stored : w.store.backing = .memory table)
    (found : ∀ r, held Spec Status table kind id = .ok r → Q r (w.served call))
    (failed : ∀ failure, held Spec Status table kind id = .error failure →
      E (.failed failure) (w.served call)) :
    Ends (load call kind id : Op Item (Resource Spec Status)) w Q E := by
  unfold load
  rw [ends_bind, ends_fetch_served lives faultless stored]
  unfold held at found failed
  cases fetched : table.fetch ⟨kind.name, id⟩ with
  | error failure =>
    rw [fetched] at failed
    exact failed _ rfl
  | ok bytes =>
    rw [fetched] at found failed
    simp only [Except.bind] at found failed
    cases decoded : (Resource.decode bytes : Except _ (Resource Spec Status)) with
    | error failure =>
      rw [decoded] at failed
      simp only [decoded, ends_fail]
      exact failed _ rfl
    | ok r =>
      rw [decoded] at found
      simp only [decoded, ends_pure]
      exact found _ rfl

/-! ## The two pipelines -/

/-- Looking a resource up answers what the table holds, and changes nothing. -/
theorem ends_query_get (own : call.kind = some kind) (lives : OutlastsStore w call)
    (faultless : w.store.faults.get = none) (stored : w.store.backing = .memory table)
    (id : String) :
    Ends ((Standard.get kind : Pipeline Item String (Resource Spec Status)).query call id) w
      (fun r w' => lookupAnswer Spec Status table kind id = .ok r ∧ w'.store = w.store)
      fun stop w' => ∃ failure, stop = .failed failure ∧
        lookupAnswer Spec Status table kind id = .error failure ∧ w'.store = w.store := by
  unfold Pipeline.query Pipeline.answerNote
  rw [ends_bind, ends_execute]
  refine (ends_runSteps_of_live lives.check).2 ?_
  refine ends_loadTarget (forall_kind own ?_) (fun blank => ?_) nofun (not_noKind own)
  · intro id' same named
    obtain rfl := same rfl
    have answer : lookupAnswer Spec Status table kind id =
        held Spec Status table kind (Text.trim id) := if_neg named
    refine ends_load_served lives faultless stored (fun r found => ?_) fun failure failed => ?_
    · rw [ends_runSteps_nil, Request.find?_leave_self]
      exact ⟨answer.trans found, rfl⟩
    · exact ⟨failure, rfl, answer.trans failed, rfl⟩
  · exact ⟨_, rfl, if_pos (blank rfl), rfl⟩

/-- Removing a resource answers what the table holds. If that is a resource, its key is gone, and
otherwise nothing has changed. -/
theorem ends_remove_delete (own : call.kind = some kind) (lives : OutlastsStore w call)
    (again : ∀ r, lookupAnswer Spec Status table kind id = .ok r →
      OutlastsStore (w.served call) call)
    (loads : w.store.faults.get = none) (deletes : w.store.faults.delete = none)
    (stored : w.store.backing = .memory table) :
    Ends ((Standard.delete kind : Pipeline Item String (Resource Spec Status)).remove call id) w
      (fun r w' => lookupAnswer Spec Status table kind id = .ok r ∧
        w'.store = { w.store with
          backing := .memory (table.erase ⟨kind.name, Text.trim id⟩) })
      fun stop w' => ∃ failure, stop = .failed failure ∧
        lookupAnswer Spec Status table kind id = .error failure ∧ w'.store = w.store := by
  unfold Pipeline.remove Pipeline.answerNote
  rw [ends_bind, ends_execute]
  refine (ends_runSteps_of_live lives.check).2 ?_
  refine ends_extractResourceId (fun named => ?_) fun blank => ⟨_, rfl, if_pos blank, rfl⟩
  have answer : lookupAnswer Spec Status table kind id =
      held Spec Status table kind (Text.trim id) := if_neg named
  refine (ends_runSteps_of_live lives.check).2 ?_
  refine ends_loadExistingForDelete (forall_kind own fun id' noted => ?_)
    (fun unnoted => ?_) (not_noKind own)
  case refine_2 =>
    rw [Request.find?_leave_self] at unnoted
    cases unnoted
  rw [Request.find?_leave_self] at noted
  cases noted
  refine ends_load_served lives loads stored (fun r found => ?_) fun failure failed =>
    ⟨failure, rfl, answer.trans failed, rfl⟩
  -- The resource is noted. What is left is to delete it, which takes the store another while.
  refine (ends_runSteps_of_live lives.check_served).2 ?_
  refine ends_deleteStep (forall_kind own fun id' noted => ?_) (fun unnoted => ?_) (not_noKind own)
  case refine_2 =>
    rw [Request.find?_leave_of_ne _ _ _ (by decide), Request.find?_leave_self] at unnoted
    cases unnoted
  rw [Request.find?_leave_of_ne _ _ _ (by decide), Request.find?_leave_self] at noted
  cases noted
  refine (ends_delete_served (again r (answer.trans found)) deletes stored
    (get?_of_held found)).2 ⟨fun _ => ?_, nofun⟩
  rw [ends_runSteps_nil, Request.find?_leave_self]
  exact ⟨answer.trans found, rfl⟩

/-- The outcome of looking a resource up. -/
def got (Spec Status : Type) [Managed Spec Status] (w : World Item) (call : Call) (kind : Kind)
    (id : String) : Except Stop (Resource Spec Status) × World Item :=
  ((Standard.get kind : Pipeline Item String (Resource Spec Status)).query call id).outcome w

/-- The outcome of removing a resource. -/
def removed (Spec Status : Type) [Managed Spec Status] (w : World Item) (call : Call) (kind : Kind)
    (id : String) : Except Stop (Resource Spec Status) × World Item :=
  ((Standard.delete kind : Pipeline Item String (Resource Spec Status)).remove call id).outcome w

section Outcomes

variable (own : call.kind = some kind) (lives : OutlastsStore w call)
  (loads : w.store.faults.get = none) (stored : w.store.backing = .memory table)

include own lives loads stored

theorem got_eq (id : String) :
    (got Spec Status w call kind id).1 =
      (lookupAnswer Spec Status table kind id).mapError .failed := by
  have ends : Ends
      ((Standard.get kind : Pipeline Item String (Resource Spec Status)).query call id) w _ _ :=
    ends_query_get own lives loads stored id
  obtain ⟨r, w', done, found, -⟩ | ⟨stop, w', halted, failure, rfl, failed, -⟩ := ends.outcome_cases
  · rw [got, done, found]
    rfl
  · rw [got, halted, failed]
    rfl

variable (again : ∀ r, lookupAnswer Spec Status table kind id = .ok r →
    OutlastsStore (w.served call) call) (deletes : w.store.faults.delete = none)

include again deletes

theorem removed_eq :
    (removed Spec Status w call kind id).1 =
      (lookupAnswer Spec Status table kind id).mapError .failed := by
  obtain ⟨r, w', done, found, -⟩ | ⟨stop, w', halted, failure, rfl, failed, -⟩ :=
    (ends_remove_delete own lives again loads deletes stored).outcome_cases
  · rw [removed, done, found]
    rfl
  · rw [removed, halted, failed]
    rfl

theorem store_removed :
    (∀ r, (removed Spec Status w call kind id).1 = .ok r →
      (removed Spec Status w call kind id).2.store = { w.store with
        backing := .memory (table.erase ⟨kind.name, Text.trim id⟩) }) ∧
    ∀ stop, (removed Spec Status w call kind id).1 = .error stop →
      (removed Spec Status w call kind id).2.store = w.store := by
  have ends := ends_remove_delete own lives again loads deletes stored
  refine ⟨fun r done => (ends.of_outcome_ok done).2, fun stop halted => ?_⟩
  obtain ⟨failure, -, -, same⟩ := ends.of_outcome_error halted
  exact same

end Outcomes

/-! ## What is left -/

theorem name_injective : Function.Injective Kind.name := by
  intro kind kind'
  cases kind <;> cases kind' <;> simp [Kind.name]

/-- Nothing is found under the key that is gone, however the id is written. -/
theorem lookupAnswer_erase_self {id' : String} (named : Text.trim id ≠ "")
    (same : Text.trim id' = Text.trim id) :
    lookupAnswer Spec Status (table.erase ⟨kind.name, Text.trim id⟩) kind id' =
      .error (.notFound kind.name (Text.trim id)) := by
  rw [lookupAnswer, same, if_neg named, held, Table.fetch, Table.get?_erase, if_pos rfl]
  rfl

/-- Under every other key there is what there was before. -/
theorem lookupAnswer_erase_of_ne {kind' : Kind} {id' : String}
    (apart : kind' ≠ kind ∨ Text.trim id' ≠ Text.trim id) :
    lookupAnswer Spec Status (table.erase ⟨kind.name, Text.trim id⟩) kind' id' =
      lookupAnswer Spec Status table kind' id' := by
  have other : (⟨kind'.name, Text.trim id'⟩ : Key) ≠ ⟨kind.name, Text.trim id⟩ := by
    intro same
    rw [Key.mk.injEq] at same
    exact apart.elim (· (name_injective same.1)) (· same.2)
  simp only [lookupAnswer, held, Table.fetch, Table.get?_erase, if_neg other]

/-- Removing a resource of a kind answers what looking it up answers, and takes this one key out of
the table if it answers a resource. -/
structure RemovesLookedUp (Spec Status : Type) [Managed Spec Status] (w : World Item) (call : Call)
    (kind : Kind) (table : Table) (id : String) : Prop where
  same : (removed Spec Status w call kind id).1 = (got Spec Status w call kind id).1
  erased : ∀ r, (removed Spec Status w call kind id).1 = .ok r →
    (removed Spec Status w call kind id).2.store = { w.store with
      backing := .memory (table.erase ⟨kind.name, Text.trim id⟩) }
  unchanged : ∀ stop, (removed Spec Status w call kind id).1 = .error stop →
    (removed Spec Status w call kind id).2.store = w.store
  /-- What follows on the store that is left finds nothing under the id, however it is written. -/
  gone : ∀ r, (removed Spec Status w call kind id).1 = .ok r →
    ∀ (after : World Item) call' id', after.store = (removed Spec Status w call kind id).2.store →
      call'.kind = some kind → OutlastsStore after call' → Text.trim id' = Text.trim id →
      (got Spec Status after call' kind id').1 =
          .error (.failed (.notFound kind.name (Text.trim id))) ∧
        (removed Spec Status after call' kind id').1 =
          .error (.failed (.notFound kind.name (Text.trim id)))
  /-- What asks for something else is answered as before, whatever type it reads. -/
  others : ∀ r, (removed Spec Status w call kind id).1 = .ok r →
    ∀ {Spec' Status' : Type} [Managed Spec' Status'] (before after : World Item) call' kind' id',
      before.store = w.store → after.store = (removed Spec Status w call kind id).2.store →
      call'.kind = some kind' → OutlastsStore before call' → OutlastsStore after call' →
      kind' ≠ kind ∨ Text.trim id' ≠ Text.trim id →
      (got Spec' Status' after call' kind' id').1 = (got Spec' Status' before call' kind' id').1

/-- Whatever a table holds, for every kind and however the id is written, a call that lives through
it removes what it would have looked up. -/
theorem removes_looked_up (own : call.kind = some kind) (lives : OutlastsStore w call)
    (again : OutlastsStore (w.served call) call) (loads : w.store.faults.get = none)
    (deletes : w.store.faults.delete = none) (stored : w.store.backing = .memory table) :
    RemovesLookedUp Spec Status w call kind table id := by
  have answers : (removed Spec Status w call kind id).1 = _ :=
    removed_eq own lives loads stored (fun _ _ => again) deletes
  have left : (∀ r, (removed Spec Status w call kind id).1 = .ok r → _) ∧ _ :=
    store_removed own lives loads stored (fun _ _ => again) deletes
  obtain ⟨erased, unchanged⟩ := left
  constructor
  case same => rw [answers, got_eq own lives loads stored]
  case erased => exact erased
  case unchanged => exact unchanged
  case gone =>
    intro r done after call' id' left own' lives' same
    rw [erased r done] at left
    have named : Text.trim id ≠ "" := by
      intro blank
      rw [done, lookupAnswer, if_pos blank] at answers
      cases answers
    have answer : lookupAnswer Spec Status (table.erase ⟨kind.name, Text.trim id⟩) kind id' = _ :=
      lookupAnswer_erase_self named same
    have stored' : after.store.backing = .memory (table.erase ⟨kind.name, Text.trim id⟩) := by
      rw [left]
    have loads' : after.store.faults.get = none := by rw [left]; exact loads
    have deletes' : after.store.faults.delete = none := by rw [left]; exact deletes
    constructor
    · rw [got_eq own' lives' loads' stored', answer]
      rfl
    · rw [removed_eq own' lives' loads' stored' (by simp [answer]) deletes', answer]
      rfl
  case others =>
    intro r done Spec' Status' _ before after call' kind' id' first left own' lives₀ lives₁ apart
    rw [erased r done] at left
    have stored' : after.store.backing = .memory (table.erase ⟨kind.name, Text.trim id⟩) := by
      rw [left]
    rw [got_eq own' lives₁ (by rw [left]; exact loads) stored',
      got_eq own' lives₀ (by rw [first]; exact loads) (by rw [first]; exact stored),
      lookupAnswer_erase_of_ne apart]

end Lookup

/-! ## A slow store and a call with little time -/

def slowTable : Table :=
  Table.empty.put ⟨Kind.agent.name, "agt-1"⟩ (lookalike "agt-1").encode

/-- A world in which every operation of the store takes three milliseconds. -/
def slowWorld : World Agent where
  store := { backing := .memory slowTable, delay := some 3 }
  clock := ⟨fun _ => .epoch, 0⟩
  ids := ⟨fun _ => "", 0⟩

/-- A call that has seven milliseconds, enough for two of them. -/
def briefCall : Call where
  token := 0
  deadline := some 7
  kind := some .agent

theorem lookupAnswer_slowTable :
    lookupAnswer AgentSpec AgentStatus slowTable .agent " agt-1 " = .ok (lookalike "agt-1") := by
  have unlimited : AgentSpec.TurnsFit (lookalike "agt-1").spec := by
    rintro turns ⟨⟩
  have trimmed : Text.trim " agt-1 " = "agt-1" := by decide
  have fetched : slowTable.fetch ⟨Kind.agent.name, "agt-1"⟩ = .ok (lookalike "agt-1").encode := by
    rw [Table.fetch, slowTable, Table.get?_put, if_pos rfl]
  rw [lookupAnswer, trimmed, if_neg (by decide)]
  exact held_of_fetch fetched (Resource.decode_encode _ unlimited)

/-- The agent that is looked up under an id with blanks is the one that goes. -/
theorem removes_looked_up_brief :
    RemovesLookedUp AgentSpec AgentStatus slowWorld briefCall .agent slowTable " agt-1 " ∧
      (removed AgentSpec AgentStatus slowWorld briefCall .agent " agt-1 ").1 =
        .ok (lookalike "agt-1") := by
  have lives : OutlastsStore slowWorld briefCall := rfl
  have again : OutlastsStore (slowWorld.served briefCall) briefCall := rfl
  refine ⟨removes_looked_up rfl lives again rfl rfl rfl, ?_⟩
  rw [removed_eq rfl lives rfl rfl (fun _ _ => again) rfl, lookupAnswer_slowTable]
  rfl

end Steward
