import Steward.Proofs.Json
import Steward.Proofs.Timestamp
import Steward.Resource.Codec

/-!
# Resources that are stored are read

The stored bytes of a resource hold that resource. What its specification and its status have to
satisfy for this is gathered in `LawfulManaged`. Main statement: `decode_encode`.
-/

namespace Steward

/-! ## Records -/

namespace Json

theorem isPlain_record {members : List (String × Json)} :
    IsPlain (record members) ↔ ∀ member ∈ members, IsPlain member.2 := by
  rw [record, IsPlain]
  induction members with
  | nil => simp [MembersPlain]
  | cons member members ih => simp [MembersPlain, ih]

@[simp]
theorem isPlain_text (s : String) : IsPlain (text s) := rfl

theorem isPlain_texts (texts : List String) : IsPlain (.array (texts.map text)) := by
  rw [IsPlain]
  induction texts with
  | nil => trivial
  | cons s texts ih => exact ⟨isPlain_text s, ih⟩

/-- The members with a name, among members that all have text for a name. -/
theorem valuesOf_record (name : String) (members : List (String × Json)) :
    valuesOf name (members.map fun (name, value) => (some name, value)) =
      (members.filter (·.1 == name)).map (·.2) := by
  induction members with
  | nil => rfl
  | cons member members ih =>
    obtain ⟨other, value⟩ := member
    simp only [valuesOf, List.map_cons, List.filter_cons] at ih ⊢
    by_cases same : other = name
    · simp only [same, beq_self_eq_true, if_true, List.map_cons]
      rw [ih]
    · have differ : (some other == some name) = false := by simpa using same
      have differ' : (other == name) = false := by simpa using same
      simp only [differ, differ']
      exact ih

/-- Of members with different names, those with a given name are the one that a lookup finds. -/
theorem filter_eq_lookup (name : String) {members : List (String × Json)}
    (distinct : (members.map (·.1)).Nodup) :
    (members.filter (·.1 == name)).map (·.2) = (members.lookup name).toList := by
  induction members with
  | nil => rfl
  | cons member members ih =>
    obtain ⟨other, value⟩ := member
    rw [List.map_cons, List.nodup_cons] at distinct
    by_cases same : other = name
    · subst same
      have absent : members.filter (·.1 == other) = [] := by
        rw [List.filter_eq_nil_iff]
        intro member inside
        have := distinct.1
        simp only [List.mem_map, not_exists, not_and] at this
        simpa using this member inside
      simp [absent]
    · have differ : (other == name) = false := by simpa using same
      have differ' : (name == other) = false := by simpa using Ne.symm same
      simp [List.lookup_cons, differ, differ', ih distinct.2]

/-- The members as the fields of a record. -/
def given (members : List (String × Json)) : Fields :=
  fun name => members.lookup name

theorem memberFields?_record (names : List String) {members : List (String × Json)}
    (distinct : (members.map (·.1)).Nodup) :
    memberFields? names (members.map fun (name, value) => (some name, value)) =
      some (given members) := by
  have values : ∀ name, valuesOf name (members.map fun (name, value) => (some name, value)) =
      (members.lookup name).toList := by
    intro name
    rw [valuesOf_record, filter_eq_lookup name distinct]
  have once : ∀ found : Option Json, found.toList.length ≤ 1 ∧ found.toList.head? = found := by
    intro found
    cases found <;> simp
  have named : (members.map fun (name, value) => (some name, value)).all (·.1.isSome) = true := by
    simp
  have single : (names.all fun name => (valuesOf name
      (members.map fun (name, value) => (some name, value))).length ≤ 1) = true := by
    simp [values, once]
  rw [memberFields?, named, single]
  simp only [Bool.and_self, if_true, values, once]
  rfl

/-- The fields of a record whose members have different names are its members. -/
theorem fields?_record (names : List String) {members : List (String × Json)}
    (distinct : (members.map (·.1)).Nodup) :
    (record members).fields? names = some (given members) :=
  memberFields?_record names distinct

theorem text?_text (s : String) : (text s).text? = some s := rfl

theorem mapM_text? (texts : List String) : (texts.map text).mapM text? = some texts := by
  induction texts with
  | nil => rfl
  | cons s texts ih => simp [text?_text, ih]

end Json

theorem Fields.get_of_some {α : Type} {fields : Fields} {name : String} {j : Json}
    (written : fields name = some j) (read : Json → Option α) (default : α) :
    fields.get name read default = read j := by
  rw [Fields.get, written]

theorem Fields.get_of_none {α : Type} {fields : Fields} {name : String}
    (absent : fields name = none) (read : Json → Option α) (default : α) :
    fields.get name read default = some default := by
  rw [Fields.get, absent]

/-! ## Labels -/

/-- An entry whose name comes after all others goes to the end. -/
theorem insertEntry_last {name value : String} {entries : List (String × String)}
    (last : ∀ entry ∈ entries, entry.1 < name) :
    insertEntry name value entries = entries ++ [(name, value)] := by
  induction entries with
  | nil => rfl
  | cons first entries ih =>
    obtain ⟨other, kept⟩ := first
    have less : other < name := last _ List.mem_cons_self
    have notLess : ¬ name < other := String.lt_asymm less
    rw [insertEntry, if_neg notLess, if_pos less,
      ih fun entry inside => last entry (List.mem_cons_of_mem _ inside)]
    rfl

namespace Labels

theorem eq_of_entries {a b : Labels} (same : a.entries = b.entries) : a = b := by
  cases a; cases b; cases same; rfl

theorem ofList_entries (labels : Labels) : ofList labels.entries = labels := by
  suffices grown : ∀ (entries : List (String × String)) (before : Labels)
      (ordered : (before.entries ++ entries).Pairwise fun a b => a.1 < b.1),
      (entries.foldl (fun labels entry => labels.insert entry.1 entry.2) before).entries =
        before.entries ++ entries from
    eq_of_entries (grown labels.entries empty labels.ordered)
  intro entries
  induction entries with
  | nil => simp
  | cons entry entries ih =>
    intro before ordered
    have last : ∀ earlier ∈ before.entries, earlier.1 < entry.1 := fun earlier inside =>
      (List.pairwise_append.1 ordered).2.2 earlier inside entry List.mem_cons_self
    have step : (before.insert entry.1 entry.2).entries = before.entries ++ [entry] :=
      insertEntry_last last
    rw [List.foldl_cons, ih _ (by simpa [step] using ordered), step]
    simp

theorem ofJson?_toJson (labels : Labels) : ofJson? labels.toJson = some labels := by
  have read : ∀ entries : List (String × String),
      ((entries.map fun entry => (entry.1, Json.text entry.2)).map
        fun member => (some member.1, member.2)).mapM entry? = some entries := by
    intro entries
    induction entries with
    | nil => rfl
    | cons entry entries ih =>
      rw [List.map_cons, List.map_cons, List.mapM_cons, ih]
      rfl
  rw [toJson, Json.record, ofJson?]
  exact (congrArg (Option.map ofList) (read labels.entries)).trans
    (congrArg some (ofList_entries labels))

theorem isPlain_toJson (labels : Labels) : labels.toJson.IsPlain := by
  rw [toJson, Json.isPlain_record]
  intro member inside
  obtain ⟨entry, -, rfl⟩ := List.mem_map.1 inside
  exact Json.isPlain_text entry.2

end Labels

/-! ## Metadata -/

theorem OwnerScope.ofJson?_toJson (scope : OwnerScope) : ofJson? 3 scope.toJson = some scope := by
  cases scope with
  | platform => rfl
  | organization org =>
    have scopes : Json.valuesOf "scope" [(some "scope", .text "organization"),
        (some "org", .text org)] = [.text "organization"] := rfl
    have orgs : Json.valuesOf "org" [(some "scope", .text "organization"),
        (some "org", .text org)] = [.text org] := rfl
    have keepable : Json.membersKeepable (Json.maxDepth - 3) [(some "scope", .text "organization"),
        (some "org", .text org)] = true := rfl
    simp only [toJson, Json.record, List.map_cons, List.map_nil, ofJson?, keepable, scopes, orgs]
    rfl

theorem OwnerScope.isPlain_toJson (scope : OwnerScope) : scope.toJson.IsPlain := by
  cases scope <;> simp [toJson, Json.isPlain_record]

namespace Metadata

theorem readTime_text (t : Timestamp) :
    Json.optional? readTime (.text t.text) = some (some t) := by
  simp [Json.optional?, Json.text, readTime, Json.text?, Timestamp.ofText?_text]

/-- The members of metadata. -/
def members (m : Metadata) : List (String × Json) :=
  [("id", .text m.id), ("name", .text m.name), ("slug", .text m.slug),
    ("owner_scope", m.scope.toJson)] ++
  (if m.labels.isEmpty then [] else [("labels", m.labels.toJson)]) ++
  timeMember "created_at" m.createdAt ++ timeMember "updated_at" m.updatedAt

theorem nodup_members (m : Metadata) : (m.members.map (·.1)).Nodup := by
  cases created : m.createdAt <;> cases updated : m.updatedAt <;> unfold members <;> split <;>
    simp [created, updated, timeMember]

theorem given_labels (m : Metadata) :
    Json.given m.members "labels" = if m.labels.isEmpty then none else some m.labels.toJson := by
  cases created : m.createdAt <;> cases updated : m.updatedAt <;> unfold members <;> split <;>
    simp [Json.given, created, updated, timeMember, List.lookup_cons]

theorem given_created (m : Metadata) :
    Json.given m.members "created_at" = m.createdAt.map fun t => .text t.text := by
  cases created : m.createdAt <;> cases updated : m.updatedAt <;> unfold members <;> split <;>
    simp [Json.given, created, updated, timeMember, List.lookup_cons]

theorem given_updated (m : Metadata) :
    Json.given m.members "updated_at" = m.updatedAt.map fun t => .text t.text := by
  cases created : m.createdAt <;> cases updated : m.updatedAt <;> unfold members <;> split <;>
    simp [Json.given, created, updated, timeMember, List.lookup_cons]

theorem get_labels (m : Metadata) :
    (Json.given m.members).get "labels" Labels.ofJson? .empty = some m.labels := by
  have written := given_labels m
  by_cases none : m.labels.isEmpty = true
  · have same : Labels.empty = m.labels :=
      Labels.eq_of_entries (List.isEmpty_iff.1 none).symm
    rw [if_pos none] at written
    rw [Fields.get_of_none written, same]
  · rw [if_neg none] at written
    rw [Fields.get_of_some written, Labels.ofJson?_toJson]

/-- A moment that is set is read back, and one that is left out stays unset. -/
theorem get_time {fields : Fields} {name : String} {time : Option Timestamp}
    (written : fields name = time.map fun t => .text t.text) :
    fields.get name (Json.optional? readTime) none = some time := by
  cases time with
  | none => rw [Fields.get_of_none written]
  | some t => rw [Fields.get_of_some written, readTime_text]

theorem ofJson?_toJson (m : Metadata) : ofJson? 2 m.toJson = some m := by
  have fields : m.toJson.fields? fieldNames = some (Json.given m.members) :=
    Json.fields?_record fieldNames m.nodup_members
  have id : Json.given m.members "id" = some (.text m.id) := rfl
  have name : Json.given m.members "name" = some (.text m.name) := rfl
  have slug : Json.given m.members "slug" = some (.text m.slug) := rfl
  have scope : Json.given m.members "owner_scope" = some m.scope.toJson := rfl
  have scopeRead : OwnerScope.ofJson? (2 + 1) m.scope.toJson = some m.scope :=
    OwnerScope.ofJson?_toJson m.scope
  rw [ofJson?, fields]
  simp only [Option.bind_eq_bind, Option.bind_some, Fields.get_of_some id, Fields.get_of_some name,
    Fields.get_of_some slug, Fields.get_of_some scope, Json.text?_text, scopeRead,
    get_labels, get_time (given_created m), get_time (given_updated m)]
  rfl

theorem isPlain_toJson (m : Metadata) : m.toJson.IsPlain := by
  have plain : ∀ member ∈ m.members, member.2.IsPlain := by
    cases created : m.createdAt <;> cases updated : m.updatedAt <;> unfold members <;> split <;>
      simp [created, updated, timeMember, OwnerScope.isPlain_toJson, Labels.isPlain_toJson]
  exact Json.isPlain_record.2 plain

end Metadata

/-! ## Resources -/

/-- A form in which the values of a certain sort are read back as they were written. -/
structure Form.Lawful {α : Type} (form : Form α) (fits : α → Prop) : Prop where
  read_write : ∀ a, fits a → form.read (form.write a) = some a
  isPlain_write : ∀ a, (form.write a).IsPlain

/-- A specification and a status that can be stored and read, and whose rules survive an update. -/
class LawfulManaged (Spec Status : Type) [Managed Spec Status] where
  /-- The written form of a specification has room for its numbers. -/
  Fits : Spec → Prop
  lawful_spec : (Managed.specForm Status : Form Spec).Lawful Fits
  lawful_status : ∀ form : Form Status, Managed.statusForm Spec = some form →
    form.Lawful fun _ => True
  /-- A status that is not written is always the same. -/
  unwritten_status : (Managed.statusForm Spec : Option (Form Status)) = none →
    ∀ status : Status, status = Managed.freshStatus Spec
  fits_of_valid : ∀ spec : Spec, Managed.violation? Status spec = none → Fits spec
  valid_merge : ∀ stored requested : Spec, Managed.violation? Status stored = none →
    Managed.violation? Status requested = none →
    Managed.violation? Status (Managed.merge Status stored requested) = none

namespace Resource

variable {Spec Status : Type} [Managed Spec Status]

/-- The members of a resource. -/
def members (r : Resource Spec Status) : List (String × Json) :=
  [("api_version", .text r.apiVersion), ("kind", .text r.kindName),
    ("metadata", r.metadata.toJson),
    ("spec", (Managed.specForm Status : Form Spec).write r.spec)] ++
  statusMember Spec r.status

theorem nodup_members (r : Resource Spec Status) : (r.members.map (·.1)).Nodup := by
  unfold members statusMember
  split <;> simp

theorem isSoundMember_members (r : Resource Spec Status) :
    (r.members.map fun (name, value) => (some name, value)).all
      (isSoundMember (ownMembers Spec Status)) = true := by
  have keepable : ∀ s : String, (Json.text s).isKeepable (Json.maxDepth - 1) = true := fun _ => rfl
  unfold members statusMember ownMembers
  split <;> simp [isSoundMember, keepable]

variable [LawfulManaged Spec Status]

theorem readStatus_members (r : Resource Spec Status) :
    readStatus Spec (Json.given r.members) = some r.status := by
  cases written : (Managed.statusForm Spec : Option (Form Status)) with
  | none =>
    simp only [readStatus, written]
    rw [LawfulManaged.unwritten_status written r.status]
  | some form =>
    have status : Json.given r.members "status" = some (form.write r.status) := by
      simp [Json.given, members, statusMember, written, List.lookup_cons]
    simp only [readStatus, written]
    rw [Fields.get_of_some status,
      (LawfulManaged.lawful_status form written).read_write r.status trivial]

theorem ofJson?_toJson (r : Resource Spec Status) (fits : LawfulManaged.Fits Status r.spec) :
    ofJson? r.toJson = some r := by
  have written : r.toJson = .object (r.members.map fun (name, value) => (some name, value)) := rfl
  have fields := Json.memberFields?_record (ownMembers Spec Status ++ ["api_version", "kind"])
    r.nodup_members
  have sound := r.isSoundMember_members
  have metadata : Json.given r.members "metadata" = some r.metadata.toJson := rfl
  have version : Json.given r.members "api_version" = some (.text r.apiVersion) := rfl
  have kind : Json.given r.members "kind" = some (.text r.kindName) := rfl
  have spec : Json.given r.members "spec" =
      some ((Managed.specForm Status : Form Spec).write r.spec) := rfl
  have specRead := LawfulManaged.lawful_spec.read_write r.spec fits
  rw [written, ofJson?, fields]
  simp only [sound, if_true, Option.bind_eq_bind, Option.bind_some, metadata,
    Fields.get_of_some version, Fields.get_of_some kind, Fields.get_of_some spec, Json.text?_text,
    Metadata.ofJson?_toJson, specRead, readStatus_members]
  rfl

theorem isPlain_toJson (r : Resource Spec Status) : r.toJson.IsPlain := by
  have plain : ∀ member ∈ r.members, member.2.IsPlain := by
    have spec : ((Managed.specForm Status : Form Spec).write r.spec).IsPlain :=
      LawfulManaged.lawful_spec.isPlain_write r.spec
    unfold members statusMember
    split
    · next form written =>
      have status := (LawfulManaged.lawful_status form written).isPlain_write r.status
      simp [Metadata.isPlain_toJson, spec, status]
    · simp [Metadata.isPlain_toJson, spec]
  exact Json.isPlain_record.2 plain

/-- A resource is read back from its stored bytes. -/
theorem decode_encode (r : Resource Spec Status) (fits : LawfulManaged.Fits Status r.spec) :
    decode r.encode = .ok r := by
  rw [decode, encode, Json.ofBytes?_compact r.isPlain_toJson, Option.bind_some,
    ofJson?_toJson r fits]

end Resource

end Steward
