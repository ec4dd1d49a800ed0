import Steward.Proofs.Documents
import Steward.Proofs.Models

/-!
# Records of other versions

Each of the records that resources are made of is read from documents of other versions of its
schema: neither the order of members nor members that it does not know make a difference, and a
member that is not there leaves the default of its field. Labels and owner scopes are no records of
this sort, but order does not matter to them either; a scope has no default for its parts. Main
statements: `Record.tolerant`, of which each record is an instance, `Labels.blind_ofJson?`,
`OwnerScope.blind_ofJson?`, `OwnerScope.ofJson?_extended` and `OwnerScope.ofJson?_removed`.
-/

namespace Steward

open Json

/-! ## Records that tolerate other versions -/

namespace Fields

variable {names : List String} {rel : String → Json → Json → Prop} {fields fields' : Fields}
  {name : String} {α : Type} {read : Json → Option α} {default : α}

/-- What is read of a field that is the same is the same. -/
theorem get_kept {a : α} (same : fields' name = fields name)
    (found : fields.get name read default = some a) : fields'.get name read default = some a := by
  unfold Fields.get at *
  rw [same]
  exact found

theorem Alike.get (alike : Alike names rel fields fields') (name : String) (known : name ∈ names)
    (regardless : ∀ j j', rel name j j' → read j' = read j) (default : α) :
    fields'.get name read default = fields.get name read default := by
  unfold Fields.get
  obtain same | ⟨j, j', before, after, related⟩ := alike name known
  · rw [same]
  · rw [before, after]
    exact regardless j j' related

theorem Lacking.get {missing : String} {a : α} (lacking : Lacking names missing fields fields')
    (known : name ∈ names) (found : fields.get name read default = some a) :
    fields'.get name read default = some (if name = missing then default else a) := by
  unfold Fields.get at *
  rw [lacking name known]
  by_cases same : name = missing
  · rw [if_pos same, if_pos same]
  · rw [if_neg same, if_neg same]
    exact found

end Fields

/-- What is read of a record with the given names depends on its fields only, as far as they are of
account, and a member that is taken out leaves the default in its place. -/
structure Tolerant {α : Type} (names : List String) (rel : String → Json → Json → Prop)
    (read : Json → Option α) (without : String → α → α) : Prop where
  retold : ∀ j j', Retold names rel j j' → read j' = read j
  removed : ∀ name j j' a, Removed name j j' → read j = some a → read j' = some (without name a)

/-- The fields of a record, one after another, up to the arguments that make the record: the name of
each, how it is read regardless of what is of no account, and what stands in its place where it is
missing. -/
inductive Record (rel : String → Json → Json → Prop) (α : Type) : Type → Type 1 where
  | nil : Record rel α α
  | field {β γ : Type} (name : String) (read : Json → Option β) (default : β)
      (regardless : ∀ j j', rel name j j' → read j' = read j) (rest : Record rel α γ) :
      Record rel α (β → γ)

namespace Record

variable {rel : String → Json → Json → Prop} {α γ : Type} {fields fields' : Fields}
  {among : List String} {make make' : γ} {missing : String}

def names {γ : Type} : Record rel α γ → List String
  | nil => []
  | field name _ _ _ rest => name :: rest.names

/-- What is made of the fields, if each of them can be read. -/
def ofFields {γ : Type} (fields : Fields) : Record rel α γ → γ → Option α
  | nil, a => some a
  | field name read default _ rest, make =>
    (fields.get name read default).bind fun b => rest.ofFields fields (make b)

/-- Made with the default of the missing field in its place, a record is what `without` makes of
it. -/
def Lessens {γ : Type} (missing : String) (without : α → α) : Record rel α γ → γ → γ → Prop
  | nil, a, a' => a' = without a
  | field name _ default _ rest, make, make' =>
    ∀ b, rest.Lessens missing without (make b) (make' (if name = missing then default else b))

theorem ofFields_alike (record : Record rel α γ) (alike : Fields.Alike among rel fields fields')
    (known : record.names ⊆ among) :
    record.ofFields fields' make = record.ofFields fields make := by
  induction record with
  | nil => rfl
  | field name read default regardless rest ih =>
    obtain ⟨first, others⟩ := List.cons_subset.1 known
    simp only [ofFields, alike.get name first regardless default, ih others]

/-- Without one of the fields, the others are read as before. -/
theorem ofFields_lacking {without : α → α} {a : α} {record : Record rel α γ}
    (lessens : record.Lessens missing without make make')
    (lacks : Fields.Lacking among missing fields fields') (known : record.names ⊆ among)
    (found : record.ofFields fields make = some a) :
    record.ofFields fields' make' = some (without a) := by
  induction record with
  | nil =>
    cases found
    exact congrArg some lessens
  | field name read default regardless rest ih =>
    obtain ⟨first, others⟩ := List.cons_subset.1 known
    obtain ⟨b, got, found⟩ := Option.bind_eq_some_iff.1 found
    rw [ofFields, lacks.get first got, Option.bind_some]
    exact ih (lessens b) others found

theorem tolerant (record : Record rel α γ) (make : γ) {read : Json → Option α}
    {without : String → α → α}
    (reads : ∀ j, read j = (j.fields? record.names).bind (record.ofFields · make))
    (lessens : ∀ missing, record.Lessens missing (without missing) make make) :
    Tolerant record.names rel read without where
  retold j j' retold := by
    rw [reads, reads]
    unfold Retold at retold
    generalize j.fields? record.names = before, j'.fields? record.names = after at *
    cases retold with
    | none => rfl
    | some alike => exact record.ofFields_alike alike (List.Subset.refl _)
  removed name j j' a removed found := by
    cases removed with
    | mk before after j =>
      rw [reads] at found ⊢
      obtain ⟨fields, given, found⟩ := Option.bind_eq_some_iff.1 found
      obtain ⟨fields', left, lacks⟩ := memberFields?_removed given
      exact Option.bind_eq_some_iff.2
        ⟨fields', left, ofFields_lacking (lessens name) lacks (List.Subset.refl _) found⟩

end Record

/-! ## Labels -/

/-- What is made of all items of a list, if it can be made of each of them. -/
theorem mapM_eq_ite {α β : Type} (f : α → Option β) (l : List α) :
    l.mapM f = if l.all fun a => (f a).isSome then some (l.filterMap f) else none := by
  induction l with
  | nil => rfl
  | cons a l ih =>
    rw [List.mapM_cons, ih]
    cases found : f a with
    | none => simp [found]
    | some b =>
      rw [List.all_cons, found, List.filterMap_cons_some found]
      cases l.all fun a => (f a).isSome <;> rfl

namespace Labels

/-- A new entry goes somewhere among the others. -/
theorem perm_insertEntry {name value : String} {entries : List (String × String)}
    (fresh : name ∉ entries.map (·.1)) :
    (insertEntry name value entries).Perm ((name, value) :: entries) := by
  induction entries with
  | nil => exact .refl _
  | cons first entries ih =>
    obtain ⟨other, kept⟩ := first
    obtain ⟨apart, fresh⟩ := List.ne_and_not_mem_of_not_mem_cons fresh
    rw [insertEntry]
    split
    · exact .refl _
    split
    · exact ((ih fresh).cons _).trans (.swap _ _ _)
    · next notLess notGreater =>
      exact absurd (String.le_antisymm (String.not_lt.1 notGreater) (String.not_lt.1 notLess)) apart

/-- Of entries with different names none gets lost. -/
theorem perm_ofList {entries : List (String × String)} (distinct : (entries.map (·.1)).Nodup) :
    (ofList entries).entries.Perm entries := by
  suffices grown : ∀ (entries : List (String × String)) (before : Labels),
      ((before.entries ++ entries).map (·.1)).Nodup →
      (entries.foldl (fun labels entry => labels.insert entry.1 entry.2) before).entries.Perm
        (before.entries ++ entries) from grown entries empty distinct
  intro entries
  induction entries with
  | nil => simp
  | cons entry entries ih =>
    intro before distinct
    have fresh : entry.1 ∉ before.entries.map (·.1) := by
      rw [List.map_append, List.map_cons] at distinct
      exact fun taken => (List.nodup_append.1 distinct).2.2 _ taken _ List.mem_cons_self rfl
    have step : (before.insert entry.1 entry.2).entries.Perm (entry :: before.entries) :=
      perm_insertEntry fresh
    have moved : ((before.insert entry.1 entry.2).entries ++ entries).Perm
        (before.entries ++ entry :: entries) :=
      (step.append_right entries).trans List.perm_middle.symm
    rw [List.foldl_cons]
    exact (ih _ ((moved.map _).nodup_iff.2 distinct)).trans moved

theorem ofList_perm {entries entries' : List (String × String)}
    (distinct : (entries.map (·.1)).Nodup) (perm : entries.Perm entries') :
    ofList entries' = ofList entries := by
  have same : (ofList entries').entries.Perm (ofList entries).entries :=
    (perm_ofList ((perm.map _).nodup_iff.1 distinct)).trans
      (perm.symm.trans (perm_ofList distinct).symm)
  refine eq_of_entries (same.eq_of_pairwise ?_ (ofList entries').ordered (ofList entries).ordered)
  exact fun _ _ _ _ less greater => absurd greater (String.lt_asymm less)

theorem fst_eq_of_entry {member : Option String × Json} {entry : String × String}
    (read : entry? member = some entry) : member.1 = some entry.1 := by
  unfold entry? at read
  split at read
  · cases read
    rfl
  · cases read

theorem blind_ofJson? : Blind ofJson? := by
  intro j j' reordered
  cases reordered with
  | @members members members' distinct perm =>
    have names : ((members.filterMap entry?).map (·.1)).Nodup := by
      rw [List.Nodup, List.pairwise_map, List.pairwise_filterMap]
      refine (List.pairwise_map.1 distinct).imp fun apart entry read entry' read' same => ?_
      exact apart (by rw [fst_eq_of_entry read, fst_eq_of_entry read', same])
    simp only [ofJson?, mapM_eq_ite, perm.all_eq]
    split
    · exact congrArg some (ofList_perm names (perm.filterMap entry?))
    · rfl
  | value before after name inner =>
    have unread : ∀ {j j'}, Reordered j j' → entry? (name, j') = entry? (name, j) := by
      intro j j' inner
      cases inner <;> cases name <;> rfl
    simp only [ofJson?, List.mapM_append, List.mapM_cons, unread inner]
  | item => rfl

end Labels

/-! ## Owner scopes -/

namespace OwnerScope

/-- The text that is the only one of some values. -/
def onlyText? : List Json → Option String
  | [j] => j.text?
  | _ => none

theorem onlyText?_eq_some {values : List Json} {s : String} :
    onlyText? values = some s ↔ values = [.string (some s)] := by
  constructor
  · intro only
    match values with
    | [j] =>
      cases j with
      | string text =>
        obtain rfl : text = some s := only
        rfl
      | _ => cases only
  · rintro rfl
    rfl

theorem ofJson?_object (depth : Nat) (members : List (Option String × Json)) :
    ofJson? depth (.object members) =
      if membersKeepable (maxDepth - depth) members then
        match onlyText? (valuesOf "scope" members) with
        | some "platform" => some .platform
        | some "organization" => (onlyText? (valuesOf "org" members)).map organization
        | _ => none
      else none := by
  unfold ofJson?
  dsimp only
  split
  · generalize valuesOf "scope" members = scopes, valuesOf "org" members = orgs
    split
    · rfl
    · split
      · rfl
      · next unnamed =>
        cases found : onlyText? orgs with
        | none => simp [onlyText?, text?]
        | some org => exact absurd (onlyText?_eq_some.1 found) (unnamed org)
    · next noPlatform noOrganization =>
      split
      · next found => exact absurd (onlyText?_eq_some.1 found) noPlatform
      · next found => exact absurd (onlyText?_eq_some.1 found) noOrganization
      · rfl
  · rfl

/-- What has the only text does not depend on the order of members either. -/
theorem onlyText?_alike {values values' : List Json}
    (alike : List.Forall₂ (fun j j' => j' = j ∨ Reordered j j') values values') :
    onlyText? values' = onlyText? values := by
  cases alike with
  | nil => rfl
  | cons value rest =>
    cases rest with
    | nil =>
      rcases value with rfl | reordered
      · rfl
      · exact blind_text? _ _ reordered
    | cons => rfl

def names : List String := ["scope", "org"]

/-- An array that holds a scope holds nothing but strings. -/
theorem string_of_ofJson?_array {depth : Nat} {items : List Json} {scope : OwnerScope}
    (read : ofJson? depth (.array items) = some scope) : ∀ j ∈ items, ∃ s, j = .string s := by
  unfold ofJson? at read
  split at read
  · cases ‹Json.array _ = Json.object _›
  · next same =>
    cases same
    simp
  · next same =>
    cases same
    simp
  · cases read

theorem blind_ofJson? (depth : Nat) : Blind (ofJson? depth) := by
  intro j j' reordered
  cases reordered with
  | members distinct perm =>
    simp only [ofJson?_object, membersKeepable_eq_all, perm.all_eq, valuesOf_perm distinct perm]
  | @value before after name j j' inner =>
    have alike := membersAlike_of_change (fun _ => Reordered) before after name inner
    simp only [ofJson?_object, membersKeepable_eq_all, List.all_append, List.all_cons,
      isKeepable_reordered inner, onlyText?_alike (valuesOf_alike alike)]
  | @item before after j j' inner =>
    have unread : ∀ {j}, (∀ s, j ≠ .string s) →
        ofJson? depth (.array (before ++ j :: after)) = none := by
      intro j apart
      refine Option.eq_none_iff_forall_ne_some.2 fun scope read => ?_
      obtain ⟨s, same⟩ := string_of_ofJson?_array read j (by simp)
      exact apart s same
    rw [unread (by cases inner <;> simp), unread (by cases inner <;> simp)]

theorem ofJson?_extended (depth : Nat) {j j' : Json} (extended : Extended names j j') :
    ofJson? depth j' = ofJson? depth j := by
  cases extended with
  | @mk before after name value foreign simple =>
    have values : ∀ known ∈ names, valuesOf known (before ++ (some name, value) :: after) =
        valuesOf known (before ++ after) :=
      fun known inside => valuesOf_of_ne fun same => foreign (same ▸ inside)
    simp only [ofJson?_object, membersKeepable_eq_all, List.all_append, List.all_cons,
      isKeepable_of_simple simple, values "scope" (by simp [names]), values "org" (by simp [names]),
      Option.isSome_some, Bool.and_self, Bool.true_and]

/-- What was the only value under its name is no longer there. -/
theorem valuesOf_of_onlyText? {name s : String} {before after : List (Option String × Json)}
    {j : Json} (only : onlyText? (valuesOf name (before ++ (some name, j) :: after)) = some s) :
    valuesOf name (before ++ after) = [] := by
  have single : (valuesOf name (before ++ (some name, j) :: after)).length ≤ 1 := by
    rw [onlyText?_eq_some.1 only]
    exact Nat.le_refl 1
  obtain ⟨left, right⟩ := valuesOf_eq_nil single
  rw [valuesOf_append, left, right, List.append_nil]

/-- A scope without its sort is none, and neither is an organization without its name. -/
theorem ofJson?_removed {depth : Nat} {name : String} {j j' : Json} {scope : OwnerScope}
    (removed : Removed name j j') (read : ofJson? depth j = some scope)
    (needed : name = "scope" ∨ name = "org" ∧ scope ≠ .platform) : ofJson? depth j' = none := by
  cases removed with
  | mk before after value =>
    rw [ofJson?_object] at read ⊢
    obtain ⟨-, read⟩ := Option.ite_none_right_eq_some.1 read
    refine ite_eq_right_iff.2 fun _ => ?_
    rcases needed with rfl | ⟨rfl, elsewhere⟩
    · have gone : valuesOf "scope" (before ++ after) = [] := by
        cases only : onlyText? (valuesOf "scope" (before ++ (some "scope", value) :: after)) with
        | none => rw [only] at read; cases read
        | some s => exact valuesOf_of_onlyText? only
      rw [gone]
      rfl
    · rw [valuesOf_of_ne (by decide)] at read
      split at read
      · cases read
        exact absurd rfl elsewhere
      · obtain ⟨org, only, -⟩ := Option.map_eq_some_iff.1 read
        rw [valuesOf_of_onlyText? only]
        rfl
      · cases read

end OwnerScope

/-! ## Metadata -/

namespace Metadata

/-- What is of no account to those who read a field of metadata. -/
def rel (name : String) (j j' : Json) : Prop :=
  Reordered j j' ∨ name = "owner_scope" ∧ Extended OwnerScope.names j j'

theorem regardless_of_blind {α : Type} {read : Json → Option α} (blind : Blind read) {name : String}
    (apart : name ≠ "owner_scope") : ∀ j j', rel name j j' → read j' = read j := by
  rintro j j' (reordered | ⟨same, -⟩)
  · exact blind j j' reordered
  · exact absurd same apart

theorem regardless_scope (depth : Nat) :
    ∀ j j', rel "owner_scope" j j' → OwnerScope.ofJson? depth j' = OwnerScope.ofJson? depth j := by
  rintro j j' (reordered | ⟨-, extended⟩)
  · exact OwnerScope.blind_ofJson? depth j j' reordered
  · exact OwnerScope.ofJson?_extended depth extended

theorem blind_readTime : Blind readTime :=
  blind_text?.bind Timestamp.ofText?

/-- Metadata with the default in place of one of its parts. -/
def without (missing : String) (m : Metadata) : Metadata where
  id := if "id" = missing then "" else m.id
  name := if "name" = missing then "" else m.name
  slug := if "slug" = missing then "" else m.slug
  scope := if "owner_scope" = missing then .platform else m.scope
  labels := if "labels" = missing then .empty else m.labels
  createdAt := if "created_at" = missing then none else m.createdAt
  updatedAt := if "updated_at" = missing then none else m.updatedAt

def record (depth : Nat) : Record rel Metadata (String → String → String → OwnerScope → Labels →
    Option Timestamp → Option Timestamp → Metadata) :=
  .field "id" text? "" (regardless_of_blind blind_text? (by decide)) <|
  .field "name" text? "" (regardless_of_blind blind_text? (by decide)) <|
  .field "slug" text? "" (regardless_of_blind blind_text? (by decide)) <|
  .field "owner_scope" (OwnerScope.ofJson? (depth + 1)) .platform (regardless_scope _) <|
  .field "labels" Labels.ofJson? .empty
    (regardless_of_blind Labels.blind_ofJson? (by decide)) <|
  .field "created_at" (optional? readTime) none
    (regardless_of_blind blind_readTime.optional? (by decide)) <|
  .field "updated_at" (optional? readTime) none
    (regardless_of_blind blind_readTime.optional? (by decide)) .nil

theorem tolerant (depth : Nat) : Tolerant fieldNames rel (ofJson? depth) without :=
  (record depth).tolerant .mk (fun _ => rfl) fun _ _ _ _ _ _ _ _ => rfl

/-- Metadata with a scope that cannot be read cannot be read. -/
theorem ofJson?_within_scope {depth : Nat} {change : Json → Json → Prop} {j j' : Json}
    {m : Metadata} (unread : ∀ v v', change v v' → OwnerScope.ofJson? (depth + 1) v = some m.scope →
      OwnerScope.ofJson? (depth + 1) v' = none)
    (within : Within "owner_scope" change j j') (read : ofJson? depth j = some m) :
    ofJson? depth j' = none := by
  cases within with
  | @mk before after v v' inner =>
    unfold ofJson? at read ⊢
    simp only [Option.bind_eq_bind, Option.bind_eq_some_iff] at read
    obtain ⟨fields, given, _, -, _, -, _, -, scope, readScope, _, -, _, -, _, -, ⟨⟩⟩ := read
    have known : "owner_scope" ∈ fieldNames := by simp [fieldNames]
    obtain ⟨there, fields', left, others⟩ := memberFields?_replaced known given
    rw [Fields.get_of_some there] at readScope
    have left' : fields' "owner_scope" = some v' := (others _ known).trans (if_pos rfl)
    have gone := (Fields.get_of_some left' (OwnerScope.ofJson? (depth + 1)) .platform).trans
      (unread v v' inner readScope)
    rw [fields?, left]
    refine Option.eq_none_iff_forall_ne_some.2 fun m' read' => ?_
    simp only [Option.bind_eq_bind, Option.bind_some, Option.bind_eq_some_iff] at read'
    obtain ⟨_, -, _, -, _, -, _, readScope', -⟩ := read'
    rw [gone] at readScope'
    cases readScope'

end Metadata

/-! ## Specifications and statuses -/

namespace AgentSpec

def names : List String := ["description", "instructions", "model", "max_turns"]

/-- The specification with the default in place of one of its parts. -/
def without (missing : String) (s : AgentSpec) : AgentSpec where
  description := if "description" = missing then "" else s.description
  instructions := if "instructions" = missing then "" else s.instructions
  model := if "model" = missing then "" else s.model
  maxTurns := if "max_turns" = missing then none else s.maxTurns

def record : Record (fun _ => Reordered) AgentSpec
    (String → String → String → Option Nat → AgentSpec) :=
  .field "description" text? "" blind_text? <|
  .field "instructions" text? "" blind_text? <|
  .field "model" text? "" blind_text? <|
  .field "max_turns" (optional? (natBelow? 4294967296)) none (blind_natBelow? _).optional? .nil

theorem tolerant : Tolerant names (fun _ => Reordered) ofJson? without :=
  record.tolerant .mk (fun _ => rfl) fun _ _ _ _ _ => rfl

end AgentSpec

namespace AgentStatus

def names : List String := ["default_instance_id"]

def without (missing : String) (s : AgentStatus) : AgentStatus where
  defaultInstanceId := if "default_instance_id" = missing then "" else s.defaultInstanceId

def record : Record (fun _ => Reordered) AgentStatus (String → AgentStatus) :=
  .field "default_instance_id" text? "" blind_text? .nil

theorem tolerant : Tolerant names (fun _ => Reordered) ofJson? without :=
  record.tolerant .mk (fun _ => rfl) fun _ _ => rfl

end AgentStatus

namespace AgentInstanceSpec

def names : List String := ["agent_id", "description", "environment_refs"]

def without (missing : String) (s : AgentInstanceSpec) : AgentInstanceSpec where
  agentId := if "agent_id" = missing then "" else s.agentId
  description := if "description" = missing then "" else s.description
  environmentRefs := if "environment_refs" = missing then [] else s.environmentRefs

def record : Record (fun _ => Reordered) AgentInstanceSpec
    (String → String → List String → AgentInstanceSpec) :=
  .field "agent_id" text? "" blind_text? <|
  .field "description" text? "" blind_text? <|
  .field "environment_refs" (listOf? text?) [] blind_text?.listOf? .nil

theorem tolerant : Tolerant names (fun _ => Reordered) ofJson? without :=
  record.tolerant .mk (fun _ => rfl) fun _ _ _ _ => rfl

end AgentInstanceSpec

namespace ExecutionSpec

def names : List String := ["workflow_instance_id", "trigger_message"]

def without (missing : String) (s : ExecutionSpec) : ExecutionSpec where
  workflowInstanceId := if "workflow_instance_id" = missing then "" else s.workflowInstanceId
  triggerMessage := if "trigger_message" = missing then "" else s.triggerMessage

def record : Record (fun _ => Reordered) ExecutionSpec (String → String → ExecutionSpec) :=
  .field "workflow_instance_id" text? "" blind_text? <|
  .field "trigger_message" text? "" blind_text? .nil

theorem tolerant : Tolerant names (fun _ => Reordered) ofJson? without :=
  record.tolerant .mk (fun _ => rfl) fun _ _ _ => rfl

end ExecutionSpec

namespace ExecutionStatus

def names : List String := ["phase", "message"]

def without (missing : String) (s : ExecutionStatus) : ExecutionStatus where
  phase := if "phase" = missing then .pending else s.phase
  message := if "message" = missing then "" else s.message

theorem blind_phase : Blind Phase.ofJson? :=
  blind_choice?.bind Phase.ofText?

def record : Record (fun _ => Reordered) ExecutionStatus (Phase → String → ExecutionStatus) :=
  .field "phase" Phase.ofJson? .pending blind_phase <|
  .field "message" text? "" blind_text? .nil

theorem tolerant : Tolerant names (fun _ => Reordered) ofJson? without :=
  record.tolerant .mk (fun _ => rfl) fun _ _ _ => rfl

end ExecutionStatus

end Steward
