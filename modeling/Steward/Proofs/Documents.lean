import Mathlib.Data.List.Forall2
import Steward.Proofs.Codec

/-!
# Changes to documents

A document can change in ways that mean nothing to those who read records from it: the members of
an object come in another order, or there are more of them. It can also lose a member. For each of
these changes, what becomes of the fields of a record: reordering and foreign members leave them
alike, and a member that is taken out leaves its field empty. Main statements:
`retold_of_reordered`, `retold_of_extended`, `retold_of_within`, `memberFields?_removed` and
`memberFields?_replaced`.
-/

namespace Steward

/-- The fields with the given names are the same, or differ in a way that is of no account. -/
def Fields.Alike (names : List String) (rel : String → Json → Json → Prop)
    (fields fields' : Fields) : Prop :=
  ∀ name ∈ names, fields' name = fields name ∨
    ∃ j j', fields name = some j ∧ fields' name = some j' ∧ rel name j j'

/-- The second fields lack one that the first may have, and are otherwise the same. -/
def Fields.Lacking (names : List String) (missing : String) (fields fields' : Fields) : Prop :=
  ∀ name ∈ names, fields' name = if name = missing then none else fields name

/-- The fields of two documents are alike, or neither document has any. -/
def Retold (names : List String) (rel : String → Json → Json → Prop) (j j' : Json) : Prop :=
  Option.Rel (Fields.Alike names rel) (j.fields? names) (j'.fields? names)

theorem Retold.mono {names : List String} {rel rel' : String → Json → Json → Prop} {j j' : Json}
    (retold : Retold names rel j j') (weaker : ∀ name j j', rel name j j' → rel' name j j') :
    Retold names rel' j j' := by
  unfold Retold at *
  generalize j.fields? names = before, j'.fields? names = after at *
  cases retold with
  | none => exact .none
  | some alike =>
    refine .some fun name inside => (alike name inside).imp_right ?_
    rintro ⟨v, v', first, second, related⟩
    exact ⟨v, v', first, second, weaker name v v' related⟩

namespace Json

/-! ## Changes -/

/-- A change to the value of a member of an object. -/
inductive Within (name : String) (change : Json → Json → Prop) : Json → Json → Prop where
  | mk (before after : List (Option String × Json)) {j j' : Json} (inner : change j j') :
      Within name change (.object (before ++ (some name, j) :: after))
        (.object (before ++ (some name, j') :: after))

/-- A change at the end of a path of member names. -/
def At (path : List String) (change : Json → Json → Prop) : Json → Json → Prop :=
  path.foldr Within change

/-- The members of one object, with different names, have come into another order. -/
inductive Reordered : Json → Json → Prop where
  | members {members members' : List (Option String × Json)} (distinct : (members.map (·.1)).Nodup)
      (perm : members.Perm members') : Reordered (.object members) (.object members')
  | value (before after : List (Option String × Json)) (name : Option String) {j j' : Json}
      (inner : Reordered j j') :
      Reordered (.object (before ++ (name, j) :: after)) (.object (before ++ (name, j') :: after))
  | item (before after : List Json) {j j' : Json} (inner : Reordered j j') :
      Reordered (.array (before ++ j :: after)) (.array (before ++ j' :: after))

/-- A string, a boolean or null. -/
inductive Simple : Json → Prop where
  | null : Simple .null
  | bool (b : Bool) : Simple (.bool b)
  | text (s : String) : Simple (.text s)

/-- An object has a simple member more, with a name that is not known. -/
inductive Extended (known : List String) : Json → Json → Prop where
  | mk (before after : List (Option String × Json)) {name : String} {j : Json}
      (foreign : name ∉ known) (simple : Simple j) :
      Extended known (.object (before ++ after)) (.object (before ++ (some name, j) :: after))

/-- An object has lost a member. -/
inductive Removed (name : String) : Json → Json → Prop where
  | mk (before after : List (Option String × Json)) (j : Json) :
      Removed name (.object (before ++ (some name, j) :: after)) (.object (before ++ after))

/-! ## Values by name -/

variable {names : List String} {name : String} {members members' : List (Option String × Json)}
  {before after : List (Option String × Json)} {j j' : Json}

theorem valuesOf_append : valuesOf name (before ++ after) =
    valuesOf name before ++ valuesOf name after := by
  simp [valuesOf]

theorem valuesOf_cons_self :
    valuesOf name ((some name, j) :: after) = j :: valuesOf name after := by
  simp [valuesOf]

theorem valuesOf_cons_of_ne {other : Option String} (apart : other ≠ some name) :
    valuesOf name ((other, j) :: after) = valuesOf name after := by
  simp [valuesOf, apart]

/-- Of members with different names, at most one has a given name. -/
theorem length_valuesOf_le (distinct : (members.map (·.1)).Nodup) :
    (valuesOf name members).length ≤ 1 := by
  induction members with
  | nil => simp [valuesOf]
  | cons member members ih =>
    obtain ⟨other, j⟩ := member
    obtain ⟨absent, distinct⟩ := List.nodup_cons.1 distinct
    by_cases same : other = some name
    · subst same
      have none : valuesOf name members = [] := by
        simp only [valuesOf, List.map_eq_nil_iff, List.filter_eq_nil_iff, beq_iff_eq]
        intro member inside found
        exact absent (List.mem_map.2 ⟨member, inside, found⟩)
      simp [valuesOf_cons_self, none]
    · rw [valuesOf_cons_of_ne same]
      exact ih distinct

/-- The order of members with different names does not matter. -/
theorem valuesOf_perm (distinct : (members.map (·.1)).Nodup) (perm : members.Perm members') :
    valuesOf name members' = valuesOf name members := by
  have values : (valuesOf name members).Perm (valuesOf name members') :=
    (perm.filter _).map _
  have single : (valuesOf name members).length ≤ 1 := length_valuesOf_le distinct
  match found : valuesOf name members with
  | [] =>
    rw [found] at values
    exact values.nil_eq.symm
  | [j] =>
    rw [found] at values
    exact List.perm_singleton.1 values.symm
  | _ :: _ :: _ =>
    rw [found] at single
    simp at single

/-- Members under the same names, whose values are the same or related. -/
def MembersAlike (rel : Option String → Json → Json → Prop) :
    List (Option String × Json) → List (Option String × Json) → Prop :=
  List.Forall₂ fun member member' =>
    member'.1 = member.1 ∧ (member'.2 = member.2 ∨ rel member.1 member.2 member'.2)

variable {rel : Option String → Json → Json → Prop}

theorem membersAlike_refl (members : List (Option String × Json)) :
    MembersAlike rel members members :=
  List.forall₂_same.2 fun _ _ => ⟨rfl, .inl rfl⟩

/-- A change to one value leaves the members alike. -/
theorem membersAlike_of_change (rel : Option String → Json → Json → Prop)
    (before after : List (Option String × Json)) (name : Option String) (inner : rel name j j') :
    MembersAlike rel (before ++ (name, j) :: after) (before ++ (name, j') :: after) :=
  List.rel_append (membersAlike_refl before)
    (List.Forall₂.cons ⟨rfl, .inr inner⟩ (membersAlike_refl after))

theorem valuesOf_alike (alike : MembersAlike rel members members') :
    List.Forall₂ (fun j j' => j' = j ∨ rel (some name) j j') (valuesOf name members)
      (valuesOf name members') := by
  induction alike with
  | nil => exact .nil
  | @cons member member' members members' same _ ih =>
    obtain ⟨other, j⟩ := member
    obtain ⟨other', j'⟩ := member'
    obtain ⟨rfl, value⟩ := same
    by_cases here : other' = some name
    · subst here
      rw [valuesOf_cons_self, valuesOf_cons_self]
      exact .cons value ih
    · rw [valuesOf_cons_of_ne here, valuesOf_cons_of_ne here]
      exact ih

/-! ## Fields -/

/-- What members that are alike give are fields that are alike. -/
theorem memberFields?_alike (alike : MembersAlike rel members members') :
    Option.Rel (Fields.Alike names fun name => rel (some name)) (memberFields? names members)
      (memberFields? names members') := by
  have named : members'.all (·.1.isSome) = members.all (·.1.isSome) := by
    induction alike with
    | nil => rfl
    | cons same _ ih => rw [List.all_cons, List.all_cons, same.1, ih]
  have lengths : (fun name => decide ((valuesOf name members').length ≤ 1)) =
      fun name => decide ((valuesOf name members).length ≤ 1) :=
    funext fun name => by rw [(valuesOf_alike alike).length_eq]
  unfold memberFields?
  rw [named, lengths]
  split
  · refine .some fun name _ => ?_
    have values : List.Forall₂ _ (valuesOf name members) (valuesOf name members') :=
      valuesOf_alike alike
    generalize valuesOf name members = first, valuesOf name members' = second at values
    cases values with
    | nil => exact .inl rfl
    | @cons j j' _ _ value _ =>
      rcases value with rfl | related
      · exact .inl rfl
      · exact .inr ⟨j, j', rfl, rfl, related⟩
  · exact .none

/-- Members with different names give the same fields in any order. -/
theorem memberFields?_perm (distinct : (members.map (·.1)).Nodup) (perm : members.Perm members') :
    memberFields? names members' = memberFields? names members := by
  unfold memberFields?
  simp only [perm.all_eq, valuesOf_perm distinct perm]

/-- Members that agree on the names that count give fields that agree on them. -/
theorem memberFields?_of_valuesOf {rel : String → Json → Json → Prop}
    (named : members'.all (·.1.isSome) = members.all (·.1.isSome))
    (values : ∀ name ∈ names, valuesOf name members' = valuesOf name members) :
    Option.Rel (Fields.Alike names rel) (memberFields? names members)
      (memberFields? names members') := by
  have single : (names.all fun name => (valuesOf name members').length ≤ 1) =
      names.all fun name => (valuesOf name members).length ≤ 1 := by
    rw [Bool.eq_iff_iff]
    simp only [List.all_eq_true, decide_eq_true_eq]
    exact forall₂_congr fun name inside => by rw [values name inside]
  unfold memberFields?
  rw [named, single]
  split
  · exact .some fun name inside => .inl (by rw [values name inside])
  · exact .none

/-- Items that are the same or related stand for fields that are alike. -/
theorem lookup_zip_alike {rel : Json → Json → Prop} {items items' : List Json}
    (alike : List.Forall₂ (fun j j' => j' = j ∨ rel j j') items items') (names : List String) :
    (names.zip items').lookup name = (names.zip items).lookup name ∨
      ∃ j j', (names.zip items).lookup name = some j ∧
        (names.zip items').lookup name = some j' ∧ rel j j' := by
  induction alike generalizing names with
  | nil => exact .inl rfl
  | @cons j j' items items' value _ ih =>
    cases names with
    | nil => exact .inl rfl
    | cons other names =>
      simp only [List.zip_cons_cons, List.lookup_cons]
      cases name == other with
      | false => exact ih names
      | true =>
        rcases value with rfl | related
        · exact .inl rfl
        · exact .inr ⟨j, j', rfl, rfl, related⟩

theorem alike_refl {rel : String → Json → Json → Prop} :
    ∀ fields : Option Fields, Option.Rel (Fields.Alike names rel) fields fields
  | none => .none
  | some _ => .some fun _ _ => .inl rfl

theorem retold_of_reordered (reordered : Reordered j j') :
    Retold names (fun _ => Reordered) j j' := by
  cases reordered with
  | members distinct perm =>
    simp only [Retold, fields?, memberFields?_perm distinct perm]
    exact alike_refl _
  | value before after name inner =>
    exact memberFields?_alike (membersAlike_of_change (fun _ => Reordered) before after name inner)
  | @item before after j j' inner =>
    have alike : List.Forall₂ (fun j j' => j' = j ∨ Reordered j j') (before ++ j :: after)
        (before ++ j' :: after) :=
      List.rel_append (List.forall₂_same.2 fun _ _ => .inl rfl)
        (.cons (.inr inner) (List.forall₂_same.2 fun _ _ => .inl rfl))
    simp only [Retold, fields?, alike.length_eq]
    split
    · exact .some fun name _ => lookup_zip_alike alike names
    · exact .none

/-- Members with names that are not known are of no account. -/
theorem retold_of_extended {known : List String} {rel : String → Json → Json → Prop}
    (extended : Extended known j j') (all : names ⊆ known) : Retold names rel j j' := by
  cases extended with
  | @mk before after other value foreign simple =>
    refine memberFields?_of_valuesOf (by simp) fun name inside => ?_
    have apart : some other ≠ some name := by
      rintro ⟨⟩
      exact foreign (all inside)
    rw [valuesOf_append, valuesOf_append, valuesOf_cons_of_ne apart]

theorem retold_of_within {change : Json → Json → Prop} (within : Within name change j j') :
    Retold names (fun other j j' => some other = some name ∧ change j j') j j' := by
  cases within with
  | mk before after inner =>
    exact memberFields?_alike
      (membersAlike_of_change (fun other j j' => other = some name ∧ change j j') before after
        (some name) ⟨rfl, inner⟩)

/-! ## Members that are taken out or replaced -/

theorem memberFields?_eq_some {fields : Fields} :
    memberFields? names members = some fields ↔
      ((∀ member ∈ members, member.1.isSome) ∧
        ∀ name ∈ names, (valuesOf name members).length ≤ 1) ∧
      (fun name => (valuesOf name members).head?) = fields := by
  unfold memberFields?
  simp only [Option.ite_none_right_eq_some, Option.some.injEq, Bool.and_eq_true, List.all_eq_true,
    decide_eq_true_eq]

/-- Where a name may occur only once, it does not occur elsewhere. -/
theorem valuesOf_eq_nil
    (single : (valuesOf name (before ++ (some name, j) :: after)).length ≤ 1) :
    valuesOf name before = [] ∧ valuesOf name after = [] := by
  rw [valuesOf_append, valuesOf_cons_self, List.length_append, List.length_cons] at single
  constructor <;> rw [← List.length_eq_zero_iff] <;> omega

theorem valuesOf_of_ne {other : String} (apart : other ≠ name) :
    valuesOf other (before ++ (some name, j) :: after) = valuesOf other (before ++ after) := by
  rw [valuesOf_append, valuesOf_append, valuesOf_cons_of_ne (by simpa using Ne.symm apart)]

/-- A member that is taken out leaves its field empty and all others as they were. -/
theorem memberFields?_removed {fields : Fields}
    (read : memberFields? names (before ++ (some name, j) :: after) = some fields) :
    ∃ fields', memberFields? names (before ++ after) = some fields' ∧
      Fields.Lacking names name fields fields' := by
  obtain ⟨⟨named, single⟩, rfl⟩ := memberFields?_eq_some.1 read
  have values : ∀ other ∈ names, valuesOf other (before ++ after) =
      if other = name then [] else valuesOf other (before ++ (some name, j) :: after) := by
    intro other inside
    split
    · next same =>
      subst same
      obtain ⟨left, right⟩ := valuesOf_eq_nil (single other inside)
      rw [valuesOf_append, left, right, List.append_nil]
    · next apart => rw [valuesOf_of_ne apart]
  refine ⟨_, memberFields?_eq_some.2 ⟨⟨fun member inside => named member ?_, ?_⟩, rfl⟩, ?_⟩
  · exact List.mem_append.2 ((List.mem_append.1 inside).imp_right (List.mem_cons_of_mem _))
  · intro other inside
    rw [values other inside]
    split
    · exact Nat.zero_le 1
    · exact single other inside
  · intro other inside
    dsimp only
    rw [values other inside]
    split <;> rfl

/-- A value that is replaced stands in its field, and all others are as they were. -/
theorem memberFields?_replaced {fields : Fields} (known : name ∈ names)
    (read : memberFields? names (before ++ (some name, j) :: after) = some fields) :
    fields name = some j ∧ ∃ fields',
      memberFields? names (before ++ (some name, j') :: after) = some fields' ∧
      ∀ other ∈ names, fields' other = if other = name then some j' else fields other := by
  obtain ⟨⟨named, single⟩, rfl⟩ := memberFields?_eq_some.1 read
  obtain ⟨left, right⟩ := valuesOf_eq_nil (single name known)
  have value : ∀ j, valuesOf name (before ++ (some name, j) :: after) = [j] := by
    intro j
    rw [valuesOf_append, valuesOf_cons_self, left, right, List.nil_append]
  have values : ∀ other ∈ names, valuesOf other (before ++ (some name, j') :: after) =
      if other = name then [j'] else valuesOf other (before ++ (some name, j) :: after) := by
    intro other inside
    split
    · next same => rw [same, value]
    · next apart => rw [valuesOf_of_ne apart, valuesOf_of_ne apart]
  refine ⟨congrArg List.head? (value j), _,
    memberFields?_eq_some.2 ⟨⟨fun member inside => ?_, ?_⟩, rfl⟩, ?_⟩
  · rcases List.mem_append.1 inside with earlier | later
    · exact named member (List.mem_append_left _ earlier)
    · rcases List.mem_cons.1 later with rfl | later
      · rfl
      · exact named member (List.mem_append_right _ (List.mem_cons_of_mem _ later))
  · intro other inside
    rw [values other inside]
    split
    · exact Nat.le_refl 1
    · exact single other inside
  · intro other inside
    rw [values other inside]
    split <;> rfl

/-! ## Reading without regard to the order of members -/

section Blind

variable {α β : Type} {read : Json → Option α}

/-- What is read does not depend on the order of members. -/
def Blind (read : Json → Option α) : Prop :=
  ∀ j j', Reordered j j' → read j' = read j

theorem blind_text? : Blind text? := by
  intro j j' reordered
  cases reordered <;> rfl

theorem blind_natBelow? (bound : Nat) : Blind (natBelow? bound) := by
  intro j j' reordered
  cases reordered <;> rfl

theorem Blind.bind (blind : Blind read) (next : α → Option β) :
    Blind fun j => (read j).bind next :=
  fun j j' reordered => congrArg (·.bind next) (blind j j' reordered)

theorem Blind.optional? (blind : Blind read) : Blind (optional? read) := by
  intro j j' reordered
  have same := blind j j' reordered
  cases reordered <;> exact congrArg (Option.map some) same

theorem Blind.listOf? (blind : Blind read) : Blind (listOf? read) := by
  intro j j' reordered
  cases reordered with
  | members => rfl
  | value => rfl
  | item before after inner =>
    simp only [Json.listOf?, List.mapM_append, List.mapM_cons, blind _ _ inner]

theorem choice?_eq_none (several : 2 ≤ members.length) : choice? (.object members) = none := by
  match members, several with
  | (_, value) :: _ :: _, _ => cases value <;> rfl

/-- A choice has no members that could change their places. -/
theorem blind_choice? : Blind choice? := by
  intro j j' reordered
  cases reordered with
  | @members members members' distinct perm =>
    match members, perm with
    | [], perm => rw [perm.nil_eq]
    | [member], perm => rw [List.perm_singleton.1 perm.symm]
    | first :: second :: rest, perm =>
      have several : 2 ≤ (first :: second :: rest).length := by simp
      rw [choice?_eq_none several, choice?_eq_none (several.trans_eq perm.length_eq)]
  | value before after name inner =>
    by_cases alone : before = [] ∧ after = []
    · obtain ⟨rfl, rfl⟩ := alone
      cases inner <;> rfl
    · have several : ∀ j : Json, 2 ≤ (before ++ (name, j) :: after).length := by
        intro j
        rw [← List.length_eq_zero_iff, ← List.length_eq_zero_iff] at alone
        rw [List.length_append, List.length_cons]
        omega
      rw [choice?_eq_none (several _), choice?_eq_none (several _)]
  | item => rfl

end Blind

/-! ## Values that are kept -/

theorem areKeepable_eq_all (room : Nat) (items : List Json) :
    areKeepable room items = items.all (isKeepable room) := by
  induction items with
  | nil => rfl
  | cons item items ih => rw [areKeepable, ih, List.all_cons]

theorem membersKeepable_eq_all (room : Nat) (members : List (Option String × Json)) :
    membersKeepable room members =
      members.all fun member => member.1.isSome && isKeepable room member.2 := by
  induction members with
  | nil => rfl
  | cons member members ih =>
    obtain ⟨name, j⟩ := member
    rw [membersKeepable, ih, List.all_cons]

theorem isKeepable_of_simple (simple : Simple j) (room : Nat) : isKeepable room j = true := by
  cases simple <;> rfl

theorem isKeepable_reordered (reordered : Reordered j j') (room : Nat) :
    isKeepable room j' = isKeepable room j := by
  induction reordered generalizing room with
  | members distinct perm =>
    cases room with
    | zero => rfl
    | succ room => simp only [isKeepable, membersKeepable_eq_all, perm.all_eq]
  | value before after name _ ih =>
    cases room with
    | zero => rfl
    | succ room =>
      simp only [isKeepable, membersKeepable_eq_all, List.all_append, List.all_cons, ih room]
  | item before after _ ih =>
    cases room with
    | zero => rfl
    | succ room =>
      simp only [isKeepable, areKeepable_eq_all, List.all_append, List.all_cons, ih room]

theorem isKeepable_extended {known : List String} (extended : Extended known j j') (room : Nat) :
    isKeepable room j' = isKeepable room j := by
  cases extended with
  | mk before after foreign simple =>
    cases room with
    | zero => rfl
    | succ room =>
      simp [isKeepable, membersKeepable_eq_all, isKeepable_of_simple simple]

theorem isKeepable_removed (removed : Removed name j j') {room : Nat}
    (keepable : isKeepable room j = true) : isKeepable room j' = true := by
  cases removed with
  | mk before after j =>
    cases room with
    | zero => cases keepable
    | succ room =>
      simp only [isKeepable, membersKeepable_eq_all, List.all_append, List.all_cons,
        Bool.and_eq_true] at keepable ⊢
      exact ⟨keepable.1, keepable.2.2⟩

end Json

end Steward
