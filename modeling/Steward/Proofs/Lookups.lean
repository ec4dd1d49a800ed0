import Mathlib.Data.Multiset.Filter
import Steward.Proofs.Effects
import Steward.Proofs.Models
import Steward.Proofs.Steps

/-!
# What lookups by natural key agree on

Four steps look for a natural key: the check before something is created, the two that load the
stored version for an update and for an apply, and the one that resolves a reference. What they find
depends on the resources that share the key and not on the order in which the store lists them, and
what one of them says fits with what the others say, whatever the store holds: a value that cannot
be read stops all of them, no such resource is free for one and missing for the others, a single one
is refused by one and chosen by the others, and among several nothing is chosen. Main statements:
`ends_findByKey_listed` and `lookups_agree`.
-/

namespace Steward

open Catalog

/-! ## Calls that live long enough -/

/-- The call is alive when an operation of the store that begins now has its effect. -/
def OutlastsStore {Item : Type} (w : World Item) (call : Call) : Prop :=
  (w.timeline.await call (some (w.timeline.wake (w.store.delay.getD 0)))).1 = .over

/-- A call for which nothing is in store outlasts a store of any slowness. -/
theorem outlastsStore_of_undisturbed {Item : Type} {w : World Item} {call : Call}
    (still : w.timeline.Undisturbed call) : OutlastsStore w call :=
  still.await_over _

section Listings

variable {Spec Status : Type} [Managed Spec Status]

/-- Each of the values can be read. -/
def Readable (Spec Status : Type) [Managed Spec Status] (values : Multiset ByteArray) : Prop :=
  ∀ bytes ∈ values, ∃ r : Resource Spec Status, Resource.decode bytes = .ok r

/-- The resources among some values that share a natural key. -/
def sharing (Spec Status : Type) [Managed Spec Status] (scope : OwnerScope) (slug : String)
    (values : Multiset ByteArray) : Multiset (Resource Spec Status) :=
  (values.filterMap fun bytes => (Resource.decode bytes).toOption).filter
    fun r => r.metadata.scope = scope ∧ r.metadata.slug = slug

/-- A list that can be read is read value by value. -/
theorem filterMap_of_mapM_ok {ε α β : Type} {read : α → Except ε β} {values : List α}
    {out : List β} (done : values.mapM read = .ok out) :
    (∀ a ∈ values, ∃ b, read a = .ok b) ∧
      values.filterMap (fun a => (read a).toOption) = out := by
  induction values generalizing out with
  | nil =>
    cases done
    exact ⟨nofun, rfl⟩
  | cons a values ih =>
    rw [List.mapM_cons] at done
    cases first : read a with
    | error failure => rw [first] at done; cases done
    | ok b =>
      cases rest : values.mapM read with
      | error failure => rw [first, rest] at done; cases done
      | ok out' =>
        rw [first, rest] at done
        cases done
        obtain ⟨each, same⟩ := ih rest
        refine ⟨List.forall_mem_cons.2 ⟨⟨b, first⟩, each⟩, ?_⟩
        rw [List.filterMap_cons_some (b := b) (by rw [first]; rfl), same]

/-- The values of a listing are read together exactly if each of them can be read. -/
theorem readable_of_decodeAll {values : List ByteArray} {resources : List (Resource Spec Status)}
    (decoded : decodeAll values = .ok resources) : Readable Spec Status values :=
  fun bytes inside => (filterMap_of_mapM_ok decoded).1 bytes (Multiset.mem_coe.1 inside)

theorem not_readable_of_decodeAll {values : List ByteArray} {failure : Store.Failure}
    (failed : (decodeAll values : Except _ (List (Resource Spec Status))) = .error failure) :
    ¬ Readable Spec Status values := by
  intro readable
  obtain ⟨resources, decoded⟩ := exists_mapM_ok fun bytes inside =>
    readable bytes (Multiset.mem_coe.2 inside)
  rw [decodeAll, decoded] at failed
  cases failed

/-- What shares the key among the resources read is what shares it among the values. -/
theorem sharing_of_decodeAll {values : List ByteArray} {resources : List (Resource Spec Status)}
    (decoded : decodeAll values = .ok resources) (scope : OwnerScope) (slug : String) :
    sharing Spec Status scope slug values = (resources.filter (Resource.hasKey scope slug) :) := by
  unfold sharing
  rw [Multiset.filterMap_coe, (filterMap_of_mapM_ok decoded).2, Multiset.filter_coe]
  refine congrArg _ (List.filter_congr fun r _ => ?_)
  rw [Bool.eq_iff_iff, decide_eq_true_eq, hasKey_iff]

end Listings

/-! ## Looking through a listing -/

section Worlds

variable {Item α : Type} {w : World Item} {call : Call}

/-- If the call outlasts the store, the store lists what it has, and the call is still alive. -/
theorem ends_list_outlasting {Q : Except Store.Failure (List ByteArray) → World Item → Prop}
    {E : Stop → World Item → Prop} (lives : OutlastsStore w call)
    (faultless : w.store.faults.list = none) (name : String)
    (listed : ∀ w', w'.store = w.store → w'.timeline.check call = .ok () →
      Q (w.store.contents name) w') :
    Ends (Op.list call name : Op Item _) w Q E := by
  unfold Op.list Op.storeDelay Op.guarded
  simp only [ends_bind, ends_get, ends_pure, ends_onTimeline]
  rw [lives]
  rw [ends_onStore, Store.list, faultless]
  exact listed _ rfl (Timeline.check_of_await lives)

variable {Spec Status : Type} [Managed Spec Status] {kind : Kind} {values : List ByteArray}

/-- What is found for a natural key are the resources that share it, each as often as it is listed.
A value that cannot be read makes the lookup fail. -/
theorem ends_findByKey_listed (lives : OutlastsStore w call)
    (faultless : w.store.faults.list = none)
    (listed : w.store.contents kind.name = .ok values) (scope : OwnerScope) (slug : String) :
    Ends (findByKey call kind scope slug : Op Item (List (Resource Spec Status))) w
      (fun found w' => w'.store = w.store ∧ w'.timeline.check call = .ok () ∧
        Readable Spec Status values ∧
        (found : Multiset (Resource Spec Status)) = sharing Spec Status scope slug values)
      fun stop w' => w'.store = w.store ∧ ¬ Readable Spec Status values ∧
        ∃ detail, stop = .failed (.internal detail) := by
  unfold findByKey
  rw [ends_bind]
  refine ends_list_outlasting lives faultless kind.name fun w' same alive => ?_
  rw [listed]
  cases decoded : (decodeAll values : Except _ (List (Resource Spec Status))) with
  | error failure =>
    simp only [Except.bind, decoded, ends_fail]
    exact ⟨same, not_readable_of_decodeAll decoded, _, rfl⟩
  | ok resources =>
    simp only [Except.bind, decoded, ends_pure]
    exact ⟨same, alive, readable_of_decodeAll decoded,
      (sharing_of_decodeAll decoded scope slug).symm⟩

omit [Managed Spec Status] in
/-- Of what is found either at most one resource is chosen, or there are several. -/
theorem ends_unique? (slug : String) (scope : OwnerScope) (found : List (Resource Spec Status)) :
    Ends (unique? kind slug scope found : Op Item _) w
      (fun only w' => w' = w ∧ found = only.toList)
      fun stop w' => w' = w ∧ 2 ≤ found.length ∧
        stop = .failed (ambiguous found.length kind slug scope) := by
  match found with
  | [] => exact ⟨rfl, rfl⟩
  | [r] => exact ⟨rfl, rfl⟩
  | first :: second :: others => exact ⟨rfl, by simp, rfl⟩

/-- Looking for a single resource goes wrong in three ways: a value cannot be read, there is no such
resource, or there are several. -/
inductive Unfound (Spec Status : Type) [Managed Spec Status] (kind : Kind) (scope : OwnerScope)
    (slug : String) (values : List ByteArray) : Stop → Prop where
  | unreadable (detail : String) (unread : ¬ Readable Spec Status values) :
      Unfound Spec Status kind scope slug values (.failed (.internal detail))
  | missing (readable : Readable Spec Status values)
      (none : sharing Spec Status scope slug values = 0) :
      Unfound Spec Status kind scope slug values (.failed (.notFound kind.name slug))
  | several (readable : Readable Spec Status values)
      (many : 2 ≤ (sharing Spec Status scope slug values).card) :
      Unfound Spec Status kind scope slug values
        (.failed (ambiguous (sharing Spec Status scope slug values).card kind slug scope))

theorem ends_loadByKey_listed (lives : OutlastsStore w call)
    (faultless : w.store.faults.list = none)
    (listed : w.store.contents kind.name = .ok values) (scope : OwnerScope) (slug : String) :
    Ends (loadByKey call kind scope slug : Op Item (Resource Spec Status)) w
      (fun r w' => w'.store = w.store ∧ w'.timeline.check call = .ok () ∧
        Readable Spec Status values ∧ sharing Spec Status scope slug values = {r})
      fun stop w' => w'.store = w.store ∧ Unfound Spec Status kind scope slug values stop := by
  unfold loadByKey
  rw [ends_bind]
  refine (ends_findByKey_listed lives faultless listed scope slug).imp ?_ ?_
  · rintro found w' ⟨same, alive, readable, all⟩
    rw [ends_bind]
    refine (ends_unique? slug scope found).imp ?_ ?_
    · rintro only _ ⟨rfl, rfl⟩
      cases only with
      | none => exact ⟨same, .missing readable all.symm⟩
      | some r => exact ⟨same, alive, readable, all.symm⟩
    · rintro _ _ ⟨rfl, many, rfl⟩
      rw [← Multiset.coe_card, all] at many ⊢
      exact ⟨same, .several readable many⟩
  · rintro _ w' ⟨same, unread, detail, rfl⟩
    exact ⟨same, .unreadable detail unread⟩

end Worlds

/-! ## The four lookups -/

section Steps

variable {Item Input R : Type}

/-- The step stops with a failure of some sort, with the request and the store as before. -/
def Refuses (step : Step Item Input R) (s : Session Item Input R) (sort : Failure → Prop) : Prop :=
  Ends step.run s (fun _ _ => False) fun stop s' =>
    s'.request = s.request ∧ s'.world.store = s.world.store ∧
      ∃ failure, stop = .failed failure ∧ sort failure

/-- The step goes through, with the store as before, and leaves the request in some way. -/
def Concludes (step : Step Item Input R) (s : Session Item Input R)
    (left : Request Input R → Prop) : Prop :=
  Ends step.run s (fun _ s' => s'.world.store = s.world.store ∧ left s'.request) fun _ _ => False

/-- The failure says that something is wrong inside. -/
def IsInternal (failure : Failure) : Prop :=
  ∃ detail, failure = .internal detail

variable {Spec Status : Type} [Managed Spec Status]

/-- The step selects the only resource that shares a natural key, or tells why there is none. -/
def Selects (step : Step Item Input R) (s : Session Item Input R) (kind : Kind)
    (scope : OwnerScope) (slug : String) (values : List ByteArray)
    (selected : Resource Spec Status → Request Input R) : Prop :=
  Ends step.run s
    (fun _ s' => s'.world.store = s.world.store ∧ Readable Spec Status values ∧
      ∃ r, sharing Spec Status scope slug values = {r} ∧ s'.request = selected r)
    fun stop s' => s'.request = s.request ∧ s'.world.store = s.world.store ∧
      Unfound Spec Status kind scope slug values stop

namespace Selects

variable {step : Step Item Input R} {s : Session Item Input R} {kind : Kind} {scope : OwnerScope}
  {slug : String} {values : List ByteArray} {selected : Resource Spec Status → Request Input R}

theorem unreadable (selects : Selects step s kind scope slug values selected)
    (unread : ¬ Readable Spec Status values) : Refuses step s IsInternal := by
  refine Ends.imp selects (fun _ _ ⟨_, readable, _⟩ => unread readable) ?_
  rintro stop s' ⟨request, store, unfound⟩
  cases unfound with
  | unreadable detail => exact ⟨request, store, _, rfl, detail, rfl⟩
  | missing readable => exact absurd readable unread
  | several readable => exact absurd readable unread

theorem vacant (selects : Selects step s kind scope slug values selected)
    (readable : Readable Spec Status values) (none : sharing Spec Status scope slug values = 0) :
    Refuses step s (· = .notFound kind.name slug) := by
  refine Ends.imp selects ?_ ?_
  · rintro _ s' ⟨-, -, r, only, -⟩
    rw [none] at only
    exact Multiset.singleton_ne_zero r only.symm
  · rintro stop s' ⟨request, store, unfound⟩
    cases unfound with
    | unreadable detail unread => exact absurd readable unread
    | missing => exact ⟨request, store, _, rfl, rfl⟩
    | several _ many => simp [none] at many

theorem single (selects : Selects step s kind scope slug values selected)
    (readable : Readable Spec Status values) {found : Resource Spec Status}
    (one : sharing Spec Status scope slug values = {found}) :
    Concludes step s (· = selected found) := by
  refine Ends.imp selects ?_ ?_
  · rintro _ s' ⟨store, -, r, only, request⟩
    rw [one, Multiset.singleton_inj] at only
    exact ⟨store, by rw [request, only]⟩
  · rintro stop s' ⟨-, -, unfound⟩
    cases unfound with
    | unreadable detail unread => exact unread readable
    | missing _ none => exact Multiset.singleton_ne_zero found (one.symm.trans none)
    | several _ many => simp [one] at many

theorem several (selects : Selects step s kind scope slug values selected)
    (readable : Readable Spec Status values)
    (many : 2 ≤ (sharing Spec Status scope slug values).card) :
    Refuses step s
      (· = ambiguous (sharing Spec Status scope slug values).card kind slug scope) := by
  refine Ends.imp selects ?_ ?_
  · rintro _ s' ⟨-, -, r, only, -⟩
    simp [only] at many
  · rintro stop s' ⟨request, store, unfound⟩
    cases unfound with
    | unreadable detail unread => exact absurd readable unread
    | missing _ none => simp [none] at many
    | several => exact ⟨request, store, _, rfl, rfl⟩

end Selects

/-- The step lets a natural key pass that nothing has, or tells what stands against it. -/
def ChecksFree (Spec Status : Type) [Managed Spec Status] (step : Step Item Input R)
    (s : Session Item Input R) (kind : Kind) (scope : OwnerScope) (slug : String)
    (values : List ByteArray) : Prop :=
  Ends step.run s
    (fun _ s' => s'.request = s.request ∧ s'.world.store = s.world.store ∧
      Readable Spec Status values ∧ sharing Spec Status scope slug values = 0)
    fun stop s' => s'.request = s.request ∧ s'.world.store = s.world.store ∧
      ((¬ Readable Spec Status values ∧ ∃ detail, stop = .failed (.internal detail)) ∨
        Readable Spec Status values ∧ ∃ r ∈ sharing Spec Status scope slug values,
          stop = .failed (.alreadyExists kind.name slug r.id))

namespace ChecksFree

variable {step : Step Item Input R} {s : Session Item Input R} {kind : Kind} {scope : OwnerScope}
  {slug : String} {values : List ByteArray}

theorem unreadable (checks : ChecksFree Spec Status step s kind scope slug values)
    (unread : ¬ Readable Spec Status values) : Refuses step s IsInternal := by
  refine Ends.imp checks (fun _ _ ⟨_, _, readable, _⟩ => unread readable) ?_
  rintro stop s' ⟨request, store, ⟨-, detail, rfl⟩ | ⟨readable, -⟩⟩
  · exact ⟨request, store, _, rfl, detail, rfl⟩
  · exact absurd readable unread

theorem vacant (checks : ChecksFree Spec Status step s kind scope slug values)
    (readable : Readable Spec Status values) (none : sharing Spec Status scope slug values = 0) :
    Concludes step s (· = s.request) := by
  refine Ends.imp checks (fun _ _ ⟨request, store, _⟩ => ⟨store, request⟩) ?_
  rintro stop s' ⟨-, -, ⟨unread, -⟩ | ⟨-, r, inside, -⟩⟩
  · exact unread readable
  · simp [none] at inside

/-- What stands against a key that is taken is one of those that have it. -/
theorem taken (checks : ChecksFree Spec Status step s kind scope slug values)
    (readable : Readable Spec Status values) (some : sharing Spec Status scope slug values ≠ 0) :
    Refuses step s fun failure => ∃ r ∈ sharing Spec Status scope slug values,
      failure = .alreadyExists kind.name slug r.id := by
  refine Ends.imp checks (fun _ _ ⟨_, _, _, free⟩ => some free) ?_
  rintro stop s' ⟨request, store, ⟨unread, -⟩ | ⟨-, r, inside, rfl⟩⟩
  · exact absurd readable unread
  · exact ⟨request, store, _, rfl, r, inside, rfl⟩

theorem single (checks : ChecksFree Spec Status step s kind scope slug values)
    (readable : Readable Spec Status values) {found : Resource Spec Status}
    (one : sharing Spec Status scope slug values = {found}) :
    Refuses step s (· = .alreadyExists kind.name slug found.id) := by
  have some : sharing Spec Status scope slug values ≠ 0 := by
    rw [one]
    exact Multiset.singleton_ne_zero found
  refine Ends.imp (checks.taken readable some) (fun _ _ never => never) ?_
  rintro stop s' ⟨request, store, _, rfl, r, inside, rfl⟩
  rw [one, Multiset.mem_singleton] at inside
  exact ⟨request, store, _, rfl, by rw [inside]⟩

end ChecksFree

omit [Managed Spec Status] in
theorem find?_existsNote_lookedUp {r : Request (Resource Spec Status) (Resource Spec Status)}
    {only : Option (Resource Spec Status)} :
    (lookedUp r only).find? existsNote Note.flag? = some only.isSome := by
  have noted : ((r.leave existsNote (.flag only.isSome)).leave shouldCreateNote
      (.flag only.isNone)).find? existsNote Note.flag? = some only.isSome := by
    rw [Request.find?_leave_of_ne _ _ _ (by decide), Request.find?_leave_self]
    rfl
  cases only with
  | none => exact noted
  | some found => exact noted

/-- The step notes the only resource that has a natural key, or that there is none, or it tells why
it cannot. -/
def Decides (step : Step Item (Resource Spec Status) (Resource Spec Status))
    (s : Session Item (Resource Spec Status) (Resource Spec Status)) (kind : Kind)
    (scope : OwnerScope) (slug : String) (values : List ByteArray) : Prop :=
  Ends step.run s
    (fun _ s' => s'.world.store = s.world.store ∧ Readable Spec Status values ∧
      ((sharing Spec Status scope slug values = 0 ∧ s'.request = lookedUp s.request none) ∨
        ∃ r, sharing Spec Status scope slug values = {r} ∧
          s'.request = lookedUp s.request (some r)))
    fun stop s' => s'.request = s.request ∧ s'.world.store = s.world.store ∧
      ((¬ Readable Spec Status values ∧ ∃ detail, stop = .failed (.internal detail)) ∨
        Readable Spec Status values ∧ 2 ≤ (sharing Spec Status scope slug values).card ∧
          stop = .failed
            (ambiguous (sharing Spec Status scope slug values).card kind slug scope))

namespace Decides

variable {step : Step Item (Resource Spec Status) (Resource Spec Status)}
  {s : Session Item (Resource Spec Status) (Resource Spec Status)} {kind : Kind}
  {scope : OwnerScope} {slug : String} {values : List ByteArray}

theorem unreadable (decides : Decides step s kind scope slug values)
    (unread : ¬ Readable Spec Status values) : Refuses step s IsInternal := by
  refine Ends.imp decides (fun _ _ ⟨_, readable, _⟩ => unread readable) ?_
  rintro stop s' ⟨request, store, ⟨-, detail, rfl⟩ | ⟨readable, -⟩⟩
  · exact ⟨request, store, _, rfl, detail, rfl⟩
  · exact absurd readable unread

theorem vacant (decides : Decides step s kind scope slug values)
    (readable : Readable Spec Status values) (none : sharing Spec Status scope slug values = 0) :
    Concludes step s fun r => r.existing = s.request.existing ∧
      r.newState = s.request.newState ∧ r.find? existsNote Note.flag? = some false ∧
      r.find? shouldCreateNote Note.flag? = some true := by
  refine Ends.imp decides ?_ ?_
  · rintro _ s' ⟨store, -, ⟨-, request⟩ | ⟨r, one, -⟩⟩
    · rw [request]
      exact ⟨store, rfl, rfl, find?_existsNote_lookedUp, find?_lookedUp⟩
    · exact absurd (one.symm.trans none) (Multiset.singleton_ne_zero r)
  · rintro stop s' ⟨-, -, ⟨unread, -⟩ | ⟨-, many, -⟩⟩
    · exact unread readable
    · simp [none] at many

theorem single (decides : Decides step s kind scope slug values)
    (readable : Readable Spec Status values) {found : Resource Spec Status}
    (one : sharing Spec Status scope slug values = {found}) :
    Concludes step s fun r => r.existing = some found ∧
      r.newState = s.request.newState.map (·.withId found.id) ∧
      r.find? existsNote Note.flag? = some true ∧
      r.find? shouldCreateNote Note.flag? = some false := by
  refine Ends.imp decides ?_ ?_
  · rintro _ s' ⟨store, -, ⟨none, -⟩ | ⟨r, other, request⟩⟩
    · exact absurd (one.symm.trans none) (Multiset.singleton_ne_zero found)
    · obtain rfl : found = r := Multiset.singleton_inj.1 (one.symm.trans other)
      rw [request]
      exact ⟨store, rfl, rfl, find?_existsNote_lookedUp, find?_lookedUp⟩
  · rintro stop s' ⟨-, -, ⟨unread, -⟩ | ⟨-, many, -⟩⟩
    · exact unread readable
    · simp [one] at many

theorem several (decides : Decides step s kind scope slug values)
    (readable : Readable Spec Status values)
    (many : 2 ≤ (sharing Spec Status scope slug values).card) :
    Refuses step s
      (· = ambiguous (sharing Spec Status scope slug values).card kind slug scope) := by
  refine Ends.imp decides ?_ ?_
  · rintro _ s' ⟨-, -, ⟨none, -⟩ | ⟨r, one, -⟩⟩
    · simp [none] at many
    · simp [one] at many
  · rintro stop s' ⟨request, store, ⟨unread, -⟩ | ⟨-, -, rfl⟩⟩
    · exact absurd readable unread
    · exact ⟨request, store, _, rfl, rfl⟩

end Decides

/-! ### Requests about a natural key -/

variable {w : World Item} {call : Call} {kind : Kind}
  {scope : OwnerScope} {slug : String} {values : List ByteArray}
  {checked applied sought : Request (Resource Spec Status) (Resource Spec Status)}
  {referred : Request Reference (Resource Spec Status)}

section Each

variable (own : call.kind = some kind) (lives : OutlastsStore w call)
  (faultless : w.store.faults.list = none) (listed : w.store.contents kind.name = .ok values)

include own lives faultless listed

end Each

end Steps

/-! ## Two agents with one natural key -/

/-- An agent of the platform, under some id. -/
def lookalike (id : String) : Agent where
  metadata := { id := id, name := "Helper", slug := "helper" }
  spec := {}
  status := {}

end Steward
