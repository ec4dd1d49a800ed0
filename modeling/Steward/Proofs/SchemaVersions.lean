import Mathlib.Logic.Relation
import Steward.Proofs.Records

/-!
# Resources of other versions of the schema

A resource stays readable when another version of the program has written it. Members may come in
any order, in any object of the document, and there may be more of them, as long as their names are
not known: what is read stays the same. Members may also be missing: what is read then has the
default in their place. Only the metadata has to be there, and in a scope its sort and the
organization. Main statements: `ofJson?_of_harmless`, `ofJson?_removed` and `tolerates_versions`.
-/

namespace Steward

open Json

/-! ## Harmless changes -/

namespace Json

/-- A change that means nothing to those who know certain names in the objects at certain places: of
order, or by a member that they do not know. -/
def Harmless (sites : List (List String × List String)) (j j' : Json) : Prop :=
  Reordered j j' ∨ ∃ site ∈ sites, At site.1 (Extended site.2) j j'

variable {name : String} {change : Json → Json → Prop} {j j' : Json}

theorem isKeepable_within
    (kept : ∀ j j', change j j' → ∀ room, isKeepable room j' = isKeepable room j)
    (within : Within name change j j') (room : Nat) : isKeepable room j' = isKeepable room j := by
  cases within with
  | mk before after inner =>
    cases room with
    | zero => rfl
    | succ room =>
      simp only [isKeepable, membersKeepable_eq_all, List.all_append, List.all_cons,
        kept _ _ inner room]

theorem isKeepable_at {known path : List String} (extended : At path (Extended known) j j')
    (room : Nat) : isKeepable room j' = isKeepable room j := by
  induction path generalizing j j' room with
  | nil => exact isKeepable_extended extended room
  | cons name path ih => exact isKeepable_within (fun _ _ inner => ih inner) extended room

end Json

/-! ## Types of resources -/

/-- A specification and a status that tolerate other versions. -/
class Versioned (Spec Status : Type) [Managed Spec Status] extends LawfulManaged Spec Status where
  specNames : List String
  statusNames : List String
  /-- The specification with the default in place of one of its parts. -/
  withoutSpec : String → Spec → Spec
  /-- The status with the default in place of one of its parts. -/
  withoutStatus : String → Status → Status
  tolerantSpec : Tolerant specNames (fun _ => Reordered)
    (Managed.specForm Status : Form Spec).read withoutSpec
  tolerantStatus : ∀ form : Form Status, Managed.statusForm Spec = some form →
    Tolerant statusNames (fun _ => Reordered) form.read withoutStatus

instance : Versioned AgentSpec AgentStatus where
  specNames := AgentSpec.names
  statusNames := AgentStatus.names
  withoutSpec := AgentSpec.without
  withoutStatus := AgentStatus.without
  tolerantSpec := AgentSpec.tolerant
  tolerantStatus := by
    rintro form ⟨⟩
    exact AgentStatus.tolerant

instance : Versioned AgentInstanceSpec Unit where
  specNames := AgentInstanceSpec.names
  statusNames := []
  withoutSpec := AgentInstanceSpec.without
  withoutStatus _ status := status
  tolerantSpec := AgentInstanceSpec.tolerant
  tolerantStatus := nofun

instance : Versioned ExecutionSpec ExecutionStatus where
  specNames := ExecutionSpec.names
  statusNames := ExecutionStatus.names
  withoutSpec := ExecutionSpec.without
  withoutStatus := ExecutionStatus.without
  tolerantSpec := ExecutionSpec.tolerant
  tolerantStatus := by
    rintro form ⟨⟩
    exact ExecutionStatus.tolerant

namespace Resource

variable {Spec Status : Type} [Managed Spec Status]

/-- The members of a resource that are known. -/
def names (Spec Status : Type) [Managed Spec Status] : List String :=
  ownMembers Spec Status ++ ["api_version", "kind"]

theorem mem_ownMembers (Spec Status : Type) [Managed Spec Status] {name : String}
    (known : name = "metadata" ∨ name = "spec") : name ∈ ownMembers Spec Status := by
  unfold ownMembers
  obtain rfl | rfl := known <;> split <;> simp

theorem mem_names (Spec Status : Type) [Managed Spec Status] {name : String}
    (known : name = "metadata" ∨ name = "spec" ∨ name = "api_version" ∨ name = "kind") :
    name ∈ names Spec Status := by
  unfold names ownMembers
  obtain rfl | rfl | rfl | rfl := known <;> split <;> simp

theorem status_mem_names {form : Form Status} (written : Managed.statusForm Spec = some form) :
    "status" ∈ names Spec Status := by
  simp [names, ownMembers, written]

/-- The places in a resource that may have members more, with the names that are known there. -/
def sites (Spec Status : Type) [Managed Spec Status] [Versioned Spec Status] :
    List (List String × List String) :=
  [([], names Spec Status), (["metadata"], Metadata.fieldNames),
    (["metadata", "owner_scope"], OwnerScope.names),
    (["spec"], Versioned.specNames Spec Status), (["status"], Versioned.statusNames Spec Status)]

/-- Every member can be read or has a place of its own. -/
def isSound (Spec Status : Type) [Managed Spec Status] : Json → Bool
  | .object members => members.all (isSoundMember (ownMembers Spec Status))
  | _ => false

/-- The resource that fields give. -/
def ofFields? (fields : Fields) : Option (Resource Spec Status) := do
  let metadata ← fields "metadata"
  let form : Form Spec := Managed.specForm Status
  return {
    apiVersion := ← fields.get "api_version" Json.text? ""
    kindName := ← fields.get "kind" Json.text? ""
    metadata := ← Metadata.ofJson? 2 metadata
    spec := ← fields.get "spec" form.read form.blank
    status := ← readStatus Spec fields }

theorem ofJson?_eq (j : Json) : (ofJson? j : Option (Resource Spec Status)) =
    if isSound Spec Status j then (j.fields? (names Spec Status)).bind ofFields? else none := by
  cases j <;> rfl

theorem ofFields?_eq_some {fields : Fields} {r : Resource Spec Status} :
    ofFields? fields = some r ↔
      (∃ j, fields "metadata" = some j ∧ Metadata.ofJson? 2 j = some r.metadata) ∧
      fields.get "api_version" Json.text? "" = some r.apiVersion ∧
      fields.get "kind" Json.text? "" = some r.kindName ∧
      fields.get "spec" (Managed.specForm Status : Form Spec).read
        (Managed.specForm Status : Form Spec).blank = some r.spec ∧
      readStatus Spec fields = some r.status := by
  unfold ofFields?
  simp only [Option.bind_eq_bind, Option.bind_eq_some_iff]
  constructor
  · rintro ⟨j, given, version, readVersion, kind, readKind, metadata, readMetadata, spec, readSpec,
      status, readStatus, ⟨⟩⟩
    exact ⟨⟨j, given, readMetadata⟩, readVersion, readKind, readSpec, readStatus⟩
  · rintro ⟨⟨j, given, readMetadata⟩, readVersion, readKind, readSpec, readStatus⟩
    exact ⟨j, given, _, readVersion, _, readKind, _, readMetadata, _, readSpec, _, readStatus, rfl⟩

/-! ## Members that are sound -/

section Sound

variable {own : List String} {name : Option String} {j j' : Json}

theorem isSoundMember_congr
    (kept : isKeepable (maxDepth - 1) j' = isKeepable (maxDepth - 1) j) :
    isSoundMember own (name, j') = isSoundMember own (name, j) := by
  cases name with
  | none => rfl
  | some name => rw [isSoundMember, isSoundMember, kept]

theorem isSound_reordered (reordered : Reordered j j') :
    isSound Spec Status j' = isSound Spec Status j := by
  cases reordered with
  | members distinct perm => exact perm.symm.all_eq
  | value before after name inner =>
    simp only [isSound, List.all_append, List.all_cons,
      isSoundMember_congr (isKeepable_reordered inner _)]
  | item => rfl

theorem isSound_within {name : String} {change : Json → Json → Prop}
    (kept : ∀ j j', change j j' → ∀ room, isKeepable room j' = isKeepable room j)
    (within : Within name change j j') : isSound Spec Status j' = isSound Spec Status j := by
  cases within with
  | mk before after inner =>
    simp only [isSound, List.all_append, List.all_cons, isSoundMember_congr (kept _ _ inner _)]

theorem isSound_at {known path : List String} (extended : At path (Extended known) j j') :
    isSound Spec Status j' = isSound Spec Status j := by
  cases path with
  | nil =>
    cases extended with
    | mk before after foreign simple =>
      simp [isSound, isSoundMember, isKeepable_of_simple simple]
  | cons name path => exact isSound_within (fun _ _ inner => isKeepable_at inner) extended

theorem isSound_removed {name : String} (removed : Removed name j j')
    (sound : isSound Spec Status j = true) : isSound Spec Status j' = true := by
  cases removed with
  | mk before after j =>
    simp only [isSound, List.all_append, List.all_cons, Bool.and_eq_true] at sound ⊢
    exact ⟨sound.1, sound.2.2⟩

end Sound

/-! ## Members that are missing -/

/-- The status of a resource that is written without one. -/
def blankStatus (Spec Status : Type) [Managed Spec Status] : Status :=
  match (Managed.statusForm Spec : Option (Form Status)) with
  | some form => form.blank
  | none => Managed.freshStatus Spec

/-- The resource with the default in place of one of its parts, other than the metadata. -/
def without (missing : String) (r : Resource Spec Status) : Resource Spec Status where
  apiVersion := if "api_version" = missing then "" else r.apiVersion
  kindName := if "kind" = missing then "" else r.kindName
  metadata := r.metadata
  spec := if "spec" = missing then (Managed.specForm Status : Form Spec).blank else r.spec
  status := if "status" = missing then blankStatus Spec Status else r.status

variable {name : String} {change : Json → Json → Prop} {j j' : Json} {r : Resource Spec Status}

theorem readStatus_lacking {missing : String} {fields fields' : Fields} {status : Status}
    (lacks : Fields.Lacking (names Spec Status) missing fields fields')
    (read : readStatus Spec fields = some status) :
    readStatus Spec fields' =
      some (if "status" = missing then blankStatus Spec Status else status) := by
  unfold readStatus at read ⊢
  cases written : (Managed.statusForm Spec : Option (Form Status)) with
  | some form =>
    simp only [written, blankStatus] at read ⊢
    exact lacks.get (status_mem_names written) read
  | none =>
    simp only [written, blankStatus] at read ⊢
    cases read
    rw [ite_self]

/-- A resource that lacks a member is read with the default in its place, unless it is the
metadata. -/
theorem ofJson?_removed (removed : Removed name j j') (found : ofJson? j = some r) :
    ofJson? j' = if name = "metadata" then none else some (r.without name) := by
  rw [ofJson?_eq] at found ⊢
  obtain ⟨sound, found⟩ := Option.ite_none_right_eq_some.1 found
  rw [if_pos (isSound_removed removed sound)]
  cases removed with
  | mk before after value =>
    obtain ⟨fields, given, found⟩ := Option.bind_eq_some_iff.1 found
    obtain ⟨fields', left, lacks⟩ := memberFields?_removed given
    rw [fields?, left, Option.bind_some]
    obtain ⟨⟨metadata, there, readMetadata⟩, version, kind, spec, status⟩ :=
      ofFields?_eq_some.1 found
    split
    · next same =>
      have missing : fields' "metadata" = none :=
        (lacks _ (mem_names Spec Status (by simp))).trans (if_pos same.symm)
      rw [ofFields?, missing]
      rfl
    · next apart =>
      refine ofFields?_eq_some.2 ⟨⟨metadata, ?_, readMetadata⟩, ?_, ?_, ?_, ?_⟩
      · have same := lacks _ (mem_names Spec Status (.inl rfl))
        exact same.trans ((if_neg (Ne.symm apart)).trans there)
      · exact lacks.get (mem_names Spec Status (by simp)) version
      · exact lacks.get (mem_names Spec Status (by simp)) kind
      · exact lacks.get (mem_names Spec Status (by simp)) spec
      · exact readStatus_lacking lacks status

/-! ## Members that are replaced -/

theorem isSound_within_own (own : name ∈ ownMembers Spec Status)
    (within : Within name change j j') : isSound Spec Status j' = isSound Spec Status j := by
  cases within with
  | mk before after inner =>
    simp only [isSound, List.all_append, List.all_cons, isSoundMember,
      List.contains_iff_mem.2 own, Bool.true_or]

/-- A resource is read with another value in one place. -/
theorem ofFields?_replaced (own : name ∈ ownMembers Spec Status) (within : Within name change j j')
    (found : ofJson? j = some r) :
    ∃ (v v' : Json) (fields fields' : Fields), change v v' ∧
      (ofFields? fields = some r ∧ fields name = some v) ∧
      ((ofJson? j' : Option (Resource Spec Status)) = ofFields? fields' ∧ fields' name = some v') ∧
      ∀ other ∈ names Spec Status, other ≠ name → fields' other = fields other := by
  rw [ofJson?_eq] at found
  obtain ⟨sound, found⟩ := Option.ite_none_right_eq_some.1 found
  rw [ofJson?_eq, isSound_within_own own within, if_pos sound]
  cases within with
  | @mk before after v v' inner =>
    obtain ⟨fields, given, found⟩ := Option.bind_eq_some_iff.1 found
    have known : name ∈ names Spec Status := List.mem_append_left _ own
    obtain ⟨there, fields', left, others⟩ := memberFields?_replaced known given
    refine ⟨v, v', fields, fields', inner, ⟨found, there⟩, ⟨?_, ?_⟩, fun other inside apart => ?_⟩
    · rw [fields?, left, Option.bind_some]
    · rw [others name known, if_pos rfl]
    · rw [others other inside, if_neg apart]

theorem readStatus_kept {fields fields' : Fields} {status : Status}
    (same : ∀ form : Form Status, Managed.statusForm Spec = some form →
      fields' "status" = fields "status")
    (found : readStatus Spec fields = some status) : readStatus Spec fields' = some status := by
  unfold readStatus at *
  split at found
  · next form written => exact Fields.get_kept (same form written) found
  · exact found

theorem ofJson?_within_metadata {m : Option Metadata}
    (reads : ∀ v v', change v v' → Metadata.ofJson? 2 v = some r.metadata →
      Metadata.ofJson? 2 v' = m)
    (within : Within "metadata" change j j') (found : ofJson? j = some r) :
    ofJson? j' = m.map fun m => r.withMetadata fun _ => m := by
  obtain ⟨v, v', fields, fields', inner, ⟨found, there⟩, ⟨reading, left⟩, others⟩ :=
    ofFields?_replaced (mem_ownMembers Spec Status (by simp)) within found
  obtain ⟨⟨value, same, readMetadata⟩, version, kind, spec, status⟩ := ofFields?_eq_some.1 found
  obtain rfl : v = value := Option.some.inj (there.symm.trans same)
  have replaced := reads v v' inner readMetadata
  rw [reading]
  cases m with
  | none =>
    refine Option.eq_none_iff_forall_ne_some.2 fun r' read' => ?_
    obtain ⟨⟨value, same, readMetadata⟩, -⟩ := ofFields?_eq_some.1 read'
    obtain rfl : v' = value := Option.some.inj (left.symm.trans same)
    rw [replaced] at readMetadata
    cases readMetadata
  | some m =>
    exact ofFields?_eq_some.2 ⟨⟨v', left, replaced⟩,
      Fields.get_kept (others _ (mem_names _ _ (by simp)) (by decide)) version,
      Fields.get_kept (others _ (mem_names _ _ (by simp)) (by decide)) kind,
      Fields.get_kept (others _ (mem_names _ _ (by simp)) (by decide)) spec,
      readStatus_kept (fun _ written => others _ (status_mem_names written) (by decide)) status⟩

theorem ofJson?_within_spec {spec : Spec}
    (reads : ∀ v v', change v v' → (Managed.specForm Status : Form Spec).read v = some r.spec →
      (Managed.specForm Status : Form Spec).read v' = some spec)
    (within : Within "spec" change j j') (found : ofJson? j = some r) :
    ofJson? j' = some { r with spec := spec } := by
  obtain ⟨v, v', fields, fields', inner, ⟨found, there⟩, ⟨reading, left⟩, others⟩ :=
    ofFields?_replaced (mem_ownMembers Spec Status (by simp)) within found
  obtain ⟨⟨value, same, readMetadata⟩, version, kind, readSpec, status⟩ := ofFields?_eq_some.1 found
  rw [Fields.get_of_some there] at readSpec
  rw [reading]
  exact ofFields?_eq_some.2 ⟨
    ⟨value, (others _ (mem_names _ _ (by simp)) (by decide)).trans same, readMetadata⟩,
    Fields.get_kept (others _ (mem_names _ _ (by simp)) (by decide)) version,
    Fields.get_kept (others _ (mem_names _ _ (by simp)) (by decide)) kind,
    (Fields.get_of_some left _ _).trans (reads v v' inner readSpec),
    readStatus_kept (fun _ written => others _ (status_mem_names written) (by decide)) status⟩

theorem ofJson?_within_status {form : Form Status} {status : Status}
    (written : Managed.statusForm Spec = some form)
    (reads : ∀ v v', change v v' → form.read v = some r.status → form.read v' = some status)
    (within : Within "status" change j j') (found : ofJson? j = some r) :
    ofJson? j' = some { r with status := status } := by
  have own : "status" ∈ ownMembers Spec Status := by simp [ownMembers, written]
  have reader : ∀ fields, readStatus Spec fields = fields.get "status" form.read form.blank :=
    fun fields => by simp only [readStatus, written]
  obtain ⟨v, v', fields, fields', inner, ⟨found, there⟩, ⟨reading, left⟩, others⟩ :=
    ofFields?_replaced own within found
  obtain ⟨⟨value, same, readMetadata⟩, version, kind, spec, former⟩ := ofFields?_eq_some.1 found
  rw [reader, Fields.get_of_some there] at former
  rw [reading]
  exact ofFields?_eq_some.2 ⟨
    ⟨value, (others _ (mem_names _ _ (by simp)) (by decide)).trans same, readMetadata⟩,
    Fields.get_kept (others _ (mem_names _ _ (by simp)) (by decide)) version,
    Fields.get_kept (others _ (mem_names _ _ (by simp)) (by decide)) kind,
    Fields.get_kept (others _ (mem_names _ _ (by simp)) (by decide)) spec,
    (reader fields').trans ((Fields.get_of_some left _ _).trans (reads v v' inner former))⟩

/-- The fields that count give the resource. -/
theorem ofFields?_kept {fields fields' : Fields}
    (same : ∀ name ∈ names Spec Status, fields' name = fields name)
    (found : ofFields? fields = some r) : ofFields? fields' = some r := by
  obtain ⟨⟨value, there, readMetadata⟩, version, kind, spec, status⟩ := ofFields?_eq_some.1 found
  exact ofFields?_eq_some.2 ⟨⟨value, (same _ (mem_names _ _ (by simp))).trans there, readMetadata⟩,
    Fields.get_kept (same _ (mem_names _ _ (by simp))) version,
    Fields.get_kept (same _ (mem_names _ _ (by simp))) kind,
    Fields.get_kept (same _ (mem_names _ _ (by simp))) spec,
    readStatus_kept (fun _ written => same _ (status_mem_names written)) status⟩

/-- A status that nobody reads may be anything that can be kept. -/
theorem ofJson?_within_unwritten
    (unwritten : (Managed.statusForm Spec : Option (Form Status)) = none)
    (kept : ∀ v v', change v v' → ∀ room, isKeepable room v = true → isKeepable room v' = true)
    (within : Within "status" change j j') (found : ofJson? j = some r) :
    ofJson? j' = some r := by
  have unknown : "status" ∉ names Spec Status := by simp [names, ownMembers, unwritten]
  rw [ofJson?_eq] at found ⊢
  obtain ⟨sound, found⟩ := Option.ite_none_right_eq_some.1 found
  cases within with
  | @mk before after v v' inner =>
    have sound' :
        isSound Spec Status (.object (before ++ (some "status", v') :: after)) = true := by
      simp only [isSound, List.all_append, List.all_cons, Bool.and_eq_true, isSoundMember,
        Bool.or_eq_true] at sound ⊢
      exact ⟨sound.1, sound.2.1.imp_right (kept _ _ inner _), sound.2.2⟩
    have values : ∀ name ∈ names Spec Status,
        valuesOf name (before ++ (some "status", v') :: after) =
          valuesOf name (before ++ (some "status", v) :: after) := by
      intro name inside
      have apart : name ≠ "status" := fun same => unknown (same ▸ inside)
      rw [valuesOf_of_ne apart, valuesOf_of_ne apart]
    have named : (before ++ (some "status", v') :: after).all (·.1.isSome) =
        (before ++ (some "status", v) :: after).all (·.1.isSome) := by simp
    have alike : Option.Rel (Fields.Alike (names Spec Status) fun _ _ _ => False) _ _ :=
      memberFields?_of_valuesOf named values
    rw [if_pos sound']
    rw [fields?] at found ⊢
    obtain ⟨fields, given, found⟩ := Option.bind_eq_some_iff.1 found
    rw [given] at alike
    generalize memberFields? (names Spec Status) (before ++ (some "status", v') :: after) = given'
      at alike ⊢
    cases alike with
    | some same =>
      refine ofFields?_kept (fun name inside => (same name inside).resolve_right ?_) found
      rintro ⟨_, _, _, _, never⟩
      exact never

/-! ## Changes that mean nothing -/

variable [Versioned Spec Status]

/-- What is of no account to those who read a part of a resource. -/
def rel (Spec Status : Type) [Managed Spec Status] [Versioned Spec Status] (name : String)
    (j j' : Json) : Prop :=
  Reordered j j' ∨
    name = "metadata" ∧
      (Extended Metadata.fieldNames j j' ∨ Within "owner_scope" (Extended OwnerScope.names) j j') ∨
    name = "spec" ∧ Extended (Versioned.specNames Spec Status) j j' ∨
    name = "status" ∧ Extended (Versioned.statusNames Spec Status) j j'

theorem retold_of_harmless (harmless : Harmless (sites Spec Status) j j') :
    Retold (names Spec Status) (rel Spec Status) j j' := by
  obtain reordered | ⟨site, inside, extended⟩ := harmless
  · exact (retold_of_reordered reordered).mono fun _ _ _ => .inl
  simp only [sites, List.mem_cons, List.not_mem_nil, or_false] at inside
  obtain rfl | rfl | rfl | rfl | rfl := inside
  · exact retold_of_extended extended (List.Subset.refl _)
  · refine (retold_of_within extended).mono ?_
    rintro _ j j' ⟨⟨⟩, inner⟩
    exact .inr (.inl ⟨rfl, .inl inner⟩)
  · refine (retold_of_within extended).mono ?_
    rintro _ j j' ⟨⟨⟩, inner⟩
    exact .inr (.inl ⟨rfl, .inr inner⟩)
  · refine (retold_of_within extended).mono ?_
    rintro _ j j' ⟨⟨⟩, inner⟩
    exact .inr (.inr (.inl ⟨rfl, inner⟩))
  · refine (retold_of_within extended).mono ?_
    rintro _ j j' ⟨⟨⟩, inner⟩
    exact .inr (.inr (.inr ⟨rfl, inner⟩))

theorem regardless_metadata (related : rel Spec Status "metadata" j j') :
    Metadata.ofJson? 2 j' = Metadata.ofJson? 2 j := by
  refine (Metadata.tolerant 2).retold j j' ?_
  simp only [rel, true_and, String.reduceEq, false_and, or_false] at related
  obtain reordered | extended | within := related
  · exact (retold_of_reordered reordered).mono fun _ _ _ => .inl
  · exact retold_of_extended extended (List.Subset.refl _)
  · refine (retold_of_within within).mono ?_
    rintro _ j j' ⟨⟨⟩, inner⟩
    exact .inr ⟨rfl, inner⟩

theorem regardless_spec (related : rel Spec Status "spec" j j') :
    (Managed.specForm Status : Form Spec).read j' =
      (Managed.specForm Status : Form Spec).read j := by
  refine Versioned.tolerantSpec.retold j j' ?_
  simp only [rel, true_and, String.reduceEq, false_and, false_or, or_false] at related
  obtain reordered | extended := related
  · exact retold_of_reordered reordered
  · exact retold_of_extended extended (List.Subset.refl _)

theorem regardless_status {form : Form Status} (written : Managed.statusForm Spec = some form)
    (related : rel Spec Status "status" j j') : form.read j' = form.read j := by
  refine (Versioned.tolerantStatus form written).retold j j' ?_
  simp only [rel, true_and, String.reduceEq, false_and, false_or] at related
  obtain reordered | extended := related
  · exact retold_of_reordered reordered
  · exact retold_of_extended extended (List.Subset.refl _)

theorem regardless_text {name : String}
    (apart : name ≠ "metadata" ∧ name ≠ "spec" ∧ name ≠ "status")
    (related : rel Spec Status name j j') : text? j' = text? j := by
  obtain reordered | ⟨same, -⟩ | ⟨same, -⟩ | ⟨same, -⟩ := related
  · exact blind_text? _ _ reordered
  · exact absurd same apart.1
  · exact absurd same apart.2.1
  · exact absurd same apart.2.2

/-- The fields that are alike give the same resource. -/
theorem ofFields?_alike {fields fields' : Fields}
    (alike : Fields.Alike (names Spec Status) (rel Spec Status) fields fields') :
    (ofFields? fields' : Option (Resource Spec Status)) = ofFields? fields := by
  have metadata : ∀ m, (∃ j, fields' "metadata" = some j ∧ Metadata.ofJson? 2 j = some m) ↔
      ∃ j, fields "metadata" = some j ∧ Metadata.ofJson? 2 j = some m := by
    intro m
    obtain same | ⟨j, j', before, after, related⟩ :=
      alike "metadata" (mem_names Spec Status (.inl rfl))
    · rw [same]
    · simp [before, after, regardless_metadata related]
  have status : readStatus Spec fields' = (readStatus Spec fields : Option Status) := by
    unfold readStatus
    split
    · next form written =>
      exact alike.get _ (status_mem_names written) (fun _ _ => regardless_status written) _
    · rfl
  have texts : ∀ name, name = "api_version" ∨ name = "kind" →
      fields'.get name text? "" = fields.get name text? "" := by
    intro name known
    refine alike.get _ (mem_names Spec Status (by simp [known])) (fun _ _ => regardless_text ?_) _
    obtain rfl | rfl := known <;> decide
  refine Option.ext fun r => ?_
  rw [ofFields?_eq_some, ofFields?_eq_some, metadata, status, texts _ (.inl rfl),
    texts _ (.inr rfl),
    alike.get _ (mem_names Spec Status (by simp)) (fun _ _ => regardless_spec) _]

theorem ofJson?_of_harmless (harmless : Harmless (sites Spec Status) j j') :
    (ofJson? j' : Option (Resource Spec Status)) = ofJson? j := by
  have sound : isSound Spec Status j' = isSound Spec Status j := by
    obtain reordered | ⟨site, -, extended⟩ := harmless
    · exact isSound_reordered reordered
    · exact isSound_at extended
  have retold := retold_of_harmless harmless
  unfold Retold at retold
  rw [ofJson?_eq, ofJson?_eq, sound]
  generalize j.fields? (names Spec Status) = before, j'.fields? (names Spec Status) = after at *
  cases retold with
  | none => rfl
  | some alike => simp only [Option.bind_some, ofFields?_alike alike]

/-! ## Other versions -/

/-- Resources of a type are read from documents of other versions of their schema. -/
structure ToleratesVersions (Spec Status : Type) [Managed Spec Status] [Versioned Spec Status] :
    Prop where
  /-- Decoding bytes is reading the document that they hold. -/
  decoded : ∀ bytes j, Json.ofBytes? bytes = some j → ∀ r : Resource Spec Status,
    decode bytes = .ok r ↔ ofJson? j = some r
  /-- Any number of harmless changes leaves the resource as it is. -/
  unchanged : ∀ j j' (r : Resource Spec Status), ofJson? j = some r →
    Relation.ReflTransGen (Harmless (sites Spec Status)) j j' → ofJson? j' = some r
  /-- A missing member takes its default. -/
  withoutMember : ∀ name j j' (r : Resource Spec Status), ofJson? j = some r → name ≠ "metadata" →
    Removed name j j' → ofJson? j' = some (r.without name)
  withoutMetadataMember : ∀ name j j' (r : Resource Spec Status), ofJson? j = some r →
    At ["metadata"] (Removed name) j j' → ofJson? j' = some (r.withMetadata (·.without name))
  withoutSpecMember : ∀ name j j' (r : Resource Spec Status), ofJson? j = some r →
    At ["spec"] (Removed name) j j' →
    ofJson? j' = some { r with spec := Versioned.withoutSpec Status name r.spec }
  withoutStatusMember : ∀ name j j' (r : Resource Spec Status), ofJson? j = some r →
    At ["status"] (Removed name) j j' →
    ofJson? j' = some { r with status := Versioned.withoutStatus Spec name r.status }
  /-- What has no default has to be there. -/
  noMetadata : ∀ j j' (r : Resource Spec Status), ofJson? j = some r →
    Removed "metadata" j j' → (ofJson? j' : Option (Resource Spec Status)) = none
  noSort : ∀ j j' (r : Resource Spec Status), ofJson? j = some r →
    At ["metadata", "owner_scope"] (Removed "scope") j j' →
    (ofJson? j' : Option (Resource Spec Status)) = none
  noOrganization : ∀ j j' (r : Resource Spec Status) org, ofJson? j = some r →
    r.metadata.scope = .organization org →
    At ["metadata", "owner_scope"] (Removed "org") j j' →
    (ofJson? j' : Option (Resource Spec Status)) = none

theorem toleratesVersions : ToleratesVersions Spec Status where
  decoded bytes j spelled r := by
    unfold decode
    rw [spelled, Option.bind_some]
    cases (ofJson? j : Option (Resource Spec Status)) <;> simp
  unchanged j j' r found changes := by
    induction changes with
    | refl => exact found
    | tail _ harmless ih => exact (ofJson?_of_harmless harmless).trans ih
  withoutMember name j j' r found apart removed :=
    (ofJson?_removed removed found).trans (if_neg apart)
  withoutMetadataMember name j j' r found within := by
    refine ofJson?_within_metadata (m := some (r.metadata.without name))
      (fun v v' removed read => ?_) within found
    exact (Metadata.tolerant 2).removed name v v' r.metadata removed read
  withoutSpecMember name j j' r found within := by
    refine ofJson?_within_spec (fun v v' removed read => ?_) within found
    exact Versioned.tolerantSpec.removed name v v' r.spec removed read
  withoutStatusMember name j j' r found within := by
    cases written : (Managed.statusForm Spec : Option (Form Status)) with
    | some form =>
      refine ofJson?_within_status written (fun v v' removed read => ?_) within found
      exact (Versioned.tolerantStatus form written).removed name v v' r.status removed read
    | none =>
      have only := LawfulManaged.unwritten_status written
      have same : Versioned.withoutStatus Spec name r.status = r.status :=
        (only _).trans (only r.status).symm
      rw [same]
      exact ofJson?_within_unwritten written
        (fun _ _ removed _ keepable => isKeepable_removed removed keepable) within found
  noMetadata j j' r found removed := (ofJson?_removed removed found).trans (if_pos rfl)
  noSort j j' r found within := by
    refine ofJson?_within_metadata (m := none) (fun v v' inner read => ?_) within found
    refine Metadata.ofJson?_within_scope (fun w w' removed readScope => ?_) inner read
    exact OwnerScope.ofJson?_removed removed readScope (.inl rfl)
  noOrganization j j' r org found elsewhere within := by
    refine ofJson?_within_metadata (m := none) (fun v v' inner read => ?_) within found
    refine Metadata.ofJson?_within_scope (fun w w' removed readScope => ?_) inner read
    exact OwnerScope.ofJson?_removed removed readScope (.inr ⟨rfl, by simp [elsewhere]⟩)

end Resource

/-- All three types of resources are read from documents of other versions. -/
theorem tolerates_versions :
    Resource.ToleratesVersions AgentSpec AgentStatus ∧
      Resource.ToleratesVersions AgentInstanceSpec Unit ∧
      Resource.ToleratesVersions ExecutionSpec ExecutionStatus :=
  ⟨Resource.toleratesVersions, Resource.toleratesVersions, Resource.toleratesVersions⟩

/-- A scout that belongs to an organization. -/
def fieldScout : Agent where
  apiVersion := apiVersion
  kindName := "Agent"
  metadata := { id := "agt-1", name := "Scout", slug := "scout", scope := .organization "acme" }
  spec := { instructions := "Look around.", model := "small" }
  status := {}

/-- The scout as another version writes it, with or without a model. The kind comes first, an
organization before its sort, and there are members that are not known. -/
def scoutElsewhere (model : List (String × Json)) : Json :=
  .record [
    ("kind", .text "Agent"), ("api_version", .text apiVersion),
    ("metadata", .record [
      ("id", .text "agt-1"), ("name", .text "Scout"), ("slug", .text "scout"),
      ("owner_scope", .record [("org", .text "acme"), ("scope", .text "organization")]),
      ("color", .text "red")]),
    ("spec", .record <|
      [("description", .text ""), ("instructions", .text "Look around.")] ++ model),
    ("status", .record [("default_instance_id", .text "")]), ("archived", .bool false)]

theorem isPlain_scoutElsewhere {model : List (String × Json)}
    (plain : ∀ member ∈ model, IsPlain member.2) : (scoutElsewhere model).IsPlain := by
  simp only [scoutElsewhere, isPlain_record, List.mem_cons, List.not_mem_nil, or_false,
    forall_eq_or_imp, forall_eq, List.mem_append]
  simp only [isPlain_text, true_and]
  refine ⟨?_, trivial⟩
  rintro member ((rfl | rfl) | given)
  · exact isPlain_text _
  · exact isPlain_text _
  · exact plain member given

/-- The scout is read from the document into which another version has put it, and without a model
from that of a version that knows of none. -/
theorem tolerates_versions_scout :
    Relation.ReflTransGen (Harmless (Resource.sites AgentSpec AgentStatus)) fieldScout.toJson
        (scoutElsewhere [("model", .text "small")]) ∧
      At ["spec"] (Removed "model") (scoutElsewhere [("model", .text "small")])
        (scoutElsewhere []) ∧
      Resource.decode (Text.utf8 (scoutElsewhere [("model", .text "small")]).compact) =
        .ok fieldScout ∧
      Resource.decode (Text.utf8 (scoutElsewhere []).compact) =
        .ok ({ fieldScout with spec := { instructions := "Look around." } } : Agent) := by
  have moved : Relation.ReflTransGen (Harmless (Resource.sites AgentSpec AgentStatus))
      fieldScout.toJson (scoutElsewhere [("model", .text "small")]) := by
    -- The scope, the members of the resource, the metadata, and what comes last.
    refine .head (.inl <| .value [_, _] [_, _] (some "metadata") <|
      .value [_, _, _] [] (some "owner_scope") <| .members (by decide) (.swap _ _ [])) ?_
    refine .head (.inl <| .members (by decide) (.swap _ _ _)) ?_
    refine .head (.inr ⟨(["metadata"], _), .tail _ (.head _), .mk [_, _] [_, _] <|
      .mk [_, _, _, _] [] (by decide : "color" ∉ Metadata.fieldNames) (.text "red")⟩) ?_
    exact .single (.inr ⟨([], _), .head _, .mk [_, _, _, _, _] [] (by decide) (.bool false)⟩)
  have fewer : At ["spec"] (Removed "model") (scoutElsewhere [("model", .text "small")])
      (scoutElsewhere []) :=
    .mk [_, _, _] [_, _] (.mk [_, _] [] _)
  have stored : Resource.ofJson? fieldScout.toJson = some fieldScout :=
    Resource.ofJson?_toJson fieldScout (by rintro _ ⟨⟩)
  have read := tolerates_versions.1.unchanged _ _ _ stored moved
  have written : ∀ model, (∀ member ∈ model, IsPlain member.2) → ∀ r : Agent,
      Resource.decode (Text.utf8 (scoutElsewhere model).compact) = .ok r ↔
        Resource.ofJson? (scoutElsewhere model) = some r :=
    fun _ plain =>
      tolerates_versions.1.decoded _ _ (ofBytes?_compact (isPlain_scoutElsewhere plain))
  refine ⟨moved, fewer, (written _ (by simp) _).2 read, (written _ (by simp) _).2 ?_⟩
  exact tolerates_versions.1.withoutSpecMember _ _ _ _ read fewer

end Steward
