import Mathlib.Data.List.DropRight
import Steward.Proofs.Identifiers
import Steward.Proofs.Validity

/-!
# The spelling of slugs

What is made of a name is empty or spelled as a slug is: words of lowercase letters and digits, with
single hyphens between them. A text that is spelled so, and is short enough, is the slug of itself.
So the slugs that can stand in a URL are the texts, other than the empty one, that stay as they are
when a slug is made of them. Main statements: `urlSafe_ofName` and `urlSafe_iff`.
-/

namespace Steward.Slug

open Steward.Text

/-- Words of word characters, with single hyphens between them. -/
inductive Spelled : List Char → Prop where
  | last {c : Char} (word : isWordChar c = true) : Spelled [c]
  | next {c : Char} {cs : List Char} (word : isWordChar c = true) (rest : Spelled cs) :
      Spelled (c :: cs)
  | hyphen {c : Char} {cs : List Char} (word : isWordChar c = true) (rest : Spelled cs) :
      Spelled (c :: '-' :: cs)

/-- A slug that can stand in a URL as it is. -/
structure UrlSafe (slug : String) : Prop where
  spelled : Spelled slug.toList
  short : slug.length ≤ 63

section Spelling

variable {c : Char} {cs kept : List Char} {slug name : String}

theorem isWordChar_hyphen : isWordChar '-' = false := by decide

theorem Spelled.begins (spelled : Spelled cs) :
    ∃ c rest, cs = c :: rest ∧ isWordChar c = true := by
  cases spelled with
  | last word => exact ⟨_, _, rfl, word⟩
  | next word rest => exact ⟨_, _, rfl, word⟩
  | hyphen word rest => exact ⟨_, _, rfl, word⟩

theorem Spelled.chars (spelled : Spelled cs) : ∀ d ∈ cs, isWordChar d = true ∨ d = '-' := by
  induction spelled with
  | last word =>
    intro d inside
    rw [List.mem_singleton.1 inside]
    exact .inl word
  | next word rest ih => exact List.forall_mem_cons.2 ⟨.inl word, ih⟩
  | hyphen word rest ih =>
    exact List.forall_mem_cons.2 ⟨.inl word, List.forall_mem_cons.2 ⟨.inr rfl, ih⟩⟩

/-! ## Slugs of names -/

/-- What is kept after a word character goes on from it, with a hyphen if something was skipped. -/
theorem spelled_cons_words (word : isWordChar c = true) (pending : Bool) (cs : List Char) :
    Spelled (c :: words true pending cs) := by
  induction cs generalizing c pending with
  | nil => exact .last word
  | cons d cs ih =>
    rw [words]
    by_cases another : isWordChar d = true
    · rw [if_pos another]
      cases pending with
      | false => exact .next word (ih another false)
      | true => exact .hyphen word (ih another false)
    · rw [if_neg another]
      exact ih word true

theorem spelled_words (pending : Bool) (cs : List Char) :
    words false pending cs = [] ∨ Spelled (words false pending cs) := by
  induction cs generalizing pending with
  | nil => exact .inl rfl
  | cons c cs ih =>
    rw [words]
    by_cases word : isWordChar c = true
    · rw [if_pos word]
      exact .inr (spelled_cons_words word false cs)
    · rw [if_neg word]
      exact ih true

/-- The beginning of a slug is one, unless it ends with a hyphen. -/
theorem Spelled.of_prefix (spelled : Spelled cs) (start : kept <+: cs) (some : kept ≠ [])
    (ends : kept.getLast some ≠ '-') : Spelled kept := by
  induction spelled generalizing kept with
  | last word =>
    obtain ⟨c, none, rfl⟩ := List.exists_cons_of_ne_nil some
    obtain ⟨rfl, empty⟩ := List.cons_prefix_cons.1 start
    rw [List.prefix_nil.1 empty]
    exact .last word
  | next word rest ih =>
    obtain ⟨c, more, rfl⟩ := List.exists_cons_of_ne_nil some
    obtain ⟨rfl, start'⟩ := List.cons_prefix_cons.1 start
    by_cases alone : more = []
    · rw [alone]
      exact .last word
    · rw [List.getLast_cons alone] at ends
      exact .next word (ih start' alone ends)
  | hyphen word rest ih =>
    obtain ⟨c, more, rfl⟩ := List.exists_cons_of_ne_nil some
    obtain ⟨rfl, start'⟩ := List.cons_prefix_cons.1 start
    by_cases alone : more = []
    · rw [alone]
      exact .last word
    obtain ⟨d, words, rfl⟩ := List.exists_cons_of_ne_nil alone
    obtain ⟨rfl, start''⟩ := List.cons_prefix_cons.1 start'
    -- The beginning cannot end right after the hyphen.
    by_cases dangling : words = []
    · subst dangling
      exact absurd rfl ends
    · rw [List.getLast_cons alone, List.getLast_cons dangling] at ends
      exact .hyphen word (ih start'' dangling ends)

/-- The cut leaves a slug. -/
theorem Spelled.cut (spelled : Spelled cs) : Spelled (cut cs) := by
  obtain ⟨c, rest, rfl, word⟩ := spelled.begins
  have some := cut_ne_nil rest word
  unfold Slug.cut at some ⊢
  split at some
  · next short =>
    rw [if_pos short]
    exact spelled
  · next long =>
    rw [if_neg long]
    have start : ((c :: rest).take maxLength).rdropWhile (· == '-') <+: c :: rest :=
      (List.rdropWhile_prefix _ _).trans (List.take_prefix _ _)
    have ends := List.rdropWhile_last_not (· == '-') _ some
    exact spelled.of_prefix start some fun hyphen => ends (beq_iff_eq.2 hyphen)

/-- What is made of a name is empty or can stand in a URL. -/
theorem urlSafe_ofName (name : String) : ofName name = "" ∨ UrlSafe (ofName name) := by
  have short := length_ofName name
  rcases spelled_words false (name.toList.flatMap lowercase) with none | spelled
  · left
    rw [ofName, none]
    rfl
  · right
    refine ⟨?_, short⟩
    rw [ofName, String.toList_ofList]
    exact spelled.cut

/-! ## Slugs of slugs -/

/-- Word characters and hyphens are lowercase already. -/
theorem lowercase_of_word (plain : isWordChar c = true ∨ c = '-') : lowercase c = [c] := by
  have ascii : c.toNat < 128 := by
    have code := code_of_isWordChar plain
    omega
  have small : ¬ (c.val ≥ 'A'.val ∧ c.val ≤ 'Z'.val) := by
    rcases plain with word | rfl
    · simp only [isWordChar, Bool.or_eq_true, Bool.and_eq_true, decide_eq_true_eq, Char.le_def]
        at word
      rintro ⟨low, high⟩
      rcases word with ⟨low', -⟩ | ⟨-, high'⟩
      · exact absurd (UInt32.le_trans low' high) (by decide : ¬ 'a'.val ≤ 'Z'.val)
      · exact absurd (UInt32.le_trans low high') (by decide : ¬ 'A'.val ≤ '9'.val)
    · decide
  have same : c.toLower = c := dif_neg small
  rw [lowercase, if_pos ascii, same]

theorem Spelled.flatMap_lowercase (spelled : Spelled cs) : cs.flatMap lowercase = cs := by
  have each : ∀ d ∈ cs, lowercase d = [d] := fun d inside =>
    lowercase_of_word (spelled.chars d inside)
  rw [List.flatMap_congr each, List.flatMap_singleton']

/-- Only hyphens are skipped in a slug, and each of them is put back. -/
theorem Spelled.words (spelled : Spelled cs) (started : Bool) : words started false cs = cs := by
  induction spelled generalizing started with
  | last word => simp [Slug.words, word]
  | next word rest ih => simp [Slug.words, word, ih]
  | hyphen word rest ih =>
    obtain ⟨d, ds, rfl, word'⟩ := rest.begins
    have same : Slug.words true false ds = ds := by simpa [Slug.words, word'] using ih true
    simp [Slug.words, word, word', isWordChar_hyphen, same]

/-- A slug that can stand in a URL is the slug of itself. -/
theorem UrlSafe.ofName (safe : UrlSafe slug) : ofName slug = slug := by
  have short : slug.toList.length ≤ maxLength := safe.short
  rw [Slug.ofName, safe.spelled.flatMap_lowercase, safe.spelled.words, cut, if_pos short,
    String.ofList_toList]

theorem UrlSafe.ne_empty (safe : UrlSafe slug) : slug ≠ "" := by
  rintro rfl
  obtain ⟨c, rest, none, -⟩ := safe.spelled.begins
  cases none

/-- The slugs that can stand in a URL are those that making a slug of them leaves as they are. -/
theorem urlSafe_iff : UrlSafe slug ↔ slug ≠ "" ∧ Slug.ofName slug = slug := by
  constructor
  · intro safe
    exact ⟨safe.ne_empty, safe.ofName⟩
  · rintro ⟨some, same⟩
    have safe := (urlSafe_ofName slug).resolve_left (by rw [same]; exact some)
    rwa [same] at safe

/-- Making a slug of a slug that was made of a name changes nothing. -/
theorem ofName_ofName (name : String) : Slug.ofName (Slug.ofName name) = Slug.ofName name := by
  rcases urlSafe_ofName name with none | safe
  · rw [none]
    rfl
  · exact safe.ofName

instance : DecidablePred UrlSafe := fun _ => decidable_of_iff _ urlSafe_iff.symm

example : UrlSafe "code-reviewer-v2" ∧ ¬ UrlSafe "Code_Reviewer" ∧ ¬ UrlSafe "code--reviewer" := by
  decide

end Spelling

end Steward.Slug
