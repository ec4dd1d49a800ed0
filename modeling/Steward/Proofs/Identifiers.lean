import Steward.Proofs.Effects

/-!
# Generated ids

The texts that tell generated ids apart are made of lowercase letters and digits. So a generated id
is taken as it is, blanks or not: nothing is trimmed off it, and it can stand in a key. Main
statements: `Supply.wordy_ids`, `IdFor.accepted` and `IdFor.begins`.
-/

namespace Steward

open Store

/-! ## Plain texts -/

/-- The text is made of lowercase letters, digits and hyphens, and not empty. -/
structure Plain (text : String) : Prop where
  there : text ≠ ""
  chars : ∀ c ∈ text.toList, Slug.isWordChar c = true ∨ c = '-'

section Plain

/-- The characters of a plain text lie between the hyphen and the last lowercase letter, without the
two that follow the hyphen. -/
theorem code_of_isWordChar {c : Char} (word : Slug.isWordChar c = true ∨ c = '-') :
    c.toNat = 45 ∨ (48 ≤ c.toNat ∧ c.toNat ≤ 122 ∧ c.toNat ≠ 92) := by
  rcases word with word | rfl
  · simp only [Slug.isWordChar, Bool.or_eq_true, Bool.and_eq_true, decide_eq_true_eq, Char.le_def,
      UInt32.le_iff_toNat_le] at word
    have same : c.toNat = c.val.toNat := rfl
    refine .inr ?_
    rcases word with ⟨low, high⟩ | ⟨low, high⟩
    · have low : 97 ≤ c.val.toNat := low
      have high : c.val.toNat ≤ 122 := high
      omega
    · have low : 48 ≤ c.val.toNat := low
      have high : c.val.toNat ≤ 57 := high
      omega
  · exact .inl rfl

variable {text : String}

theorem Plain.isBlank_eq_false (plain : Plain text) {c : Char} (inside : c ∈ text.toList) :
    Text.isBlank c = false := by
  have code := code_of_isWordChar (plain.chars c inside)
  simp only [Text.isBlank, Bool.or_eq_false_iff, Bool.and_eq_false_iff, beq_eq_false_iff_ne,
    decide_eq_false_iff_not]
  omega

/-- There are no blanks at its ends. -/
theorem Plain.trim (plain : Plain text) : Text.trim text = text := by
  have solid : ∀ cs : List Char, (∀ c ∈ cs, c ∈ text.toList) → Text.dropBlanks cs = cs := by
    intro cs inside
    cases cs with
    | nil => rfl
    | cons c cs =>
      have seen : Text.isBlank c = false := plain.isBlank_eq_false (inside c List.mem_cons_self)
      rw [Text.dropBlanks, List.dropWhile_cons_of_neg (by simp [seen])]
  rw [Text.trim, Text.trimmed, solid _ fun _ inside => inside,
    solid _ fun c inside => List.mem_reverse.1 inside, List.reverse_reverse, String.ofList_toList]

theorem hasDoubleDot_eq_false {cs : List Char} (dotless : '.' ∉ cs) : hasDoubleDot cs = false := by
  induction cs with
  | nil => rfl
  | cons c cs ih =>
    obtain ⟨other, dotless⟩ := not_or.1 (mt List.mem_cons.2 dotless)
    unfold hasDoubleDot
    split
    · next same =>
      cases same
      exact absurd rfl other
    · next same =>
      cases same
      exact ih dotless
    · rfl

/-- It can be a segment of a key. -/
theorem Plain.isSegment (plain : Plain text) : isSegment text = true := by
  have apart : ∀ d : Char, (d.toNat ≠ 45 ∧ (d.toNat < 48 ∨ d.toNat = 92)) → d ∉ text.toList := by
    intro d other inside
    have code := code_of_isWordChar (plain.chars d inside)
    omega
  have dotless : '.' ∉ text.toList := apart '.' (by decide)
  have slashless : '/' ∉ text.toList := apart '/' (by decide)
  have backslashless : '\\' ∉ text.toList := apart '\\' (by decide)
  have there : text.toList ≠ [] := by
    intro none
    refine plain.there ?_
    rw [← String.ofList_toList (s := text), none]
  have unhidden : text.toList.head? ≠ some '.' := fun hidden =>
    dotless (List.mem_of_head? hidden)
  have whole : ∀ c ∈ text.toList, c ≠ '/' ∧ c ≠ '\\' := by
    intro c inside
    exact ⟨fun same => slashless (same ▸ inside), fun same => backslashless (same ▸ inside)⟩
  simp [Store.isSegment, there, unhidden, hasDoubleDot_eq_false dotless]
  exact whole

/-- It can stand in a key of any kind. -/
theorem Plain.accepted (plain : Plain text) (kind : Kind) :
    checkKey ⟨kind.name, text⟩ = .ok () := by
  have known : checkSegment kind.name = .ok () := by cases kind <;> decide
  rw [checkKey, known, checkSegment, if_pos plain.isSegment]
  rfl

end Plain

/-! ## Texts for ids -/

/-- The texts are made of lowercase letters and digits. -/
def Supply.Wordy (ids : Supply String) : Prop :=
  ∀ n, ∀ c ∈ (ids.draw n).toList, Slug.isWordChar c = true

/-- One text over and over is wordy if it is made of these once. -/
theorem Supply.wordy_const {text : String} (word : text.toList.all Slug.isWordChar = true)
    (used : Nat) : Supply.Wordy ⟨fun _ => text, used⟩ :=
  fun _ => List.all_eq_true.1 word

/-- The digits of base 32 are lowercase letters and digits. -/
theorem Text.isWordChar_base32 (width n : Nat) :
    ∀ c ∈ base32 width n, Slug.isWordChar c = true := by
  induction width generalizing n with
  | zero =>
    intro c inside
    cases inside
  | succ width ih =>
    intro c inside
    rw [base32, List.mem_append, List.mem_singleton] at inside
    rcases inside with inside | rfl
    · exact ih _ c inside
    · have digits : ∀ i < 32, Slug.isWordChar (base32Digits.getD i '0') = true := by decide
      exact digits _ (Nat.mod_lt _ (by decide))

/-- So are the texts that the program draws. -/
theorem Supply.wordy_ids (moment random : Nat) : (Supply.ids moment random).Wordy := by
  intro n c inside
  have inside : c ∈ Text.base32 10 moment ++ Text.base32 16 (random + n) := by
    simpa [Supply.ids, Text.identifier] using inside
  rcases List.mem_append.1 inside with inside | inside
  · exact Text.isWordChar_base32 10 moment c inside
  · exact Text.isWordChar_base32 16 (random + n) c inside

section Ids

variable {kind : Kind} {ids : Supply String}

/-- What is drawn later is wordy as well. -/
theorem Supply.Wordy.of_leads {Item : Type} {w w' : World Item} {t : Table} (wordy : w.ids.Wordy)
    (leads : Leads w t w') : w'.ids.Wordy := by
  unfold Supply.Wordy
  rw [leads.draw]
  exact wordy

theorem Kind.toList_id (kind : Kind) (unique : String) :
    (kind.id unique).toList = kind.idStem.toList ++ '-' :: unique.toList := by
  simp [Kind.id]

theorem Kind.id_ne_empty (kind : Kind) (unique : String) : kind.id unique ≠ "" := by
  intro none
  have chars := kind.toList_id unique
  rw [none] at chars
  simp at chars

/-- No new resource is without an id. -/
theorem IdFor.ne_empty {chosen id : String} (named : IdFor kind ids chosen id) : id ≠ "" := by
  rcases named with ⟨some, rfl⟩ | ⟨-, n, -, rfl⟩
  · exact some
  · exact kind.id_ne_empty (ids.draw n)

/-- An id made of such a text is plain. -/
theorem Supply.Wordy.plain_id (wordy : ids.Wordy) (kind : Kind) (n : Nat) :
    Plain (kind.id (ids.draw n)) := by
  have stem : kind.idStem.toList.all Slug.isWordChar = true := by cases kind <;> rfl
  refine ⟨kind.id_ne_empty (ids.draw n), fun c inside => ?_⟩
  rw [kind.toList_id, List.mem_append, List.mem_cons] at inside
  rcases inside with inside | rfl | inside
  · exact .inl (List.all_eq_true.1 stem c inside)
  · exact .inr rfl
  · exact .inl (wordy n c inside)

/-- A new resource for which no id was chosen has a plain one. -/
theorem IdFor.plain (wordy : ids.Wordy) {id : String} (named : IdFor kind ids "" id) :
    Plain id := by
  rcases named with ⟨chosen, -⟩ | ⟨-, n, -, rfl⟩
  · exact absurd rfl chosen
  · exact wordy.plain_id kind n

/-- The id of a new resource can stand in a key, if the one that was chosen for it can. -/
theorem IdFor.accepted (wordy : ids.Wordy) {chosen id : String}
    (usable : chosen = "" ∨ checkKey ⟨kind.name, chosen⟩ = .ok ())
    (named : IdFor kind ids chosen id) : checkKey ⟨kind.name, id⟩ = .ok () := by
  rcases named with ⟨some, rfl⟩ | ⟨-, n, -, rfl⟩
  · exact usable.resolve_left some
  · exact (wordy.plain_id kind n).accepted kind

/-- An id that was not chosen begins with the letters of its kind. -/
theorem IdFor.begins {id : String} (named : IdFor kind ids "" id) :
    (kind.idStem ++ "-").toList.isPrefixOf id.toList = true := by
  rcases named with ⟨chosen, -⟩ | ⟨-, n, -, rfl⟩
  · exact absurd rfl chosen
  · have chars : (kind.id (ids.draw n)).toList =
        (kind.idStem ++ "-").toList ++ (ids.draw n).toList := String.toList_append
    rw [List.isPrefixOf_iff_prefix, chars]
    exact List.prefix_append _ _

end Ids

end Steward
