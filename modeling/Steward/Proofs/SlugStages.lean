import Mathlib.Computability.Language
import Steward.Proofs.Slugs

/-!
# Slugs, stage by stage

A slug is made of a name in one pass over its characters. Here the same is described in stages, each
over the whole text: everything is lowercased, what is no word character becomes a hyphen, runs of
hyphens collapse into one, both ends are trimmed, the text is cut and its end is trimmed again. Main
statements: `words_eq_stages` for the pass, `spelled_iff_mem_pattern` for the form that a slug has,
and `slugs_described`.
-/

namespace Steward.Slug

open Steward.Text
open scoped Computability

/-! ## The stages -/

/-- What is no word character becomes a hyphen. -/
def hyphenated (c : Char) : Char :=
  if isWordChar c then c else '-'

/-- One hyphen for every run of them. -/
def collapse : List Char → List Char
  | [] => []
  | c :: cs => if c = '-' ∧ cs.head? = some '-' then collapse cs else c :: collapse cs

/-- The text without the hyphens that it begins with. -/
def trimStart (cs : List Char) : List Char :=
  cs.dropWhile (· == '-')

/-- The text without the hyphens that it ends with. -/
def trimEnd (cs : List Char) : List Char :=
  cs.rdropWhile (· == '-')

/-- The slug of a display name, stage by stage. -/
def described (name : String) : String :=
  let lowered := name.toList.flatMap lowercase
  let single := collapse (lowered.map hyphenated)
  let trimmed := trimEnd (trimStart single)
  String.ofList (trimEnd (trimmed.take 63))

/-! ## The form of a slug -/

/-- The texts of one or more word characters. -/
def oneWord : Language Char :=
  {cs | cs ≠ [] ∧ ∀ c ∈ cs, isWordChar c = true}

/-- The texts that match `[a-z0-9]+(-[a-z0-9]+)*`. -/
def pattern : Language Char :=
  oneWord * ({['-']} * oneWord)∗

section Stages

variable {c : Char} {cs : List Char}

/-! ## What the stages do to a character in front -/

theorem ne_hyphen_of_word (word : isWordChar c = true) : c ≠ '-' := by
  rintro rfl
  exact absurd word (by decide)

theorem hyphenated_of_word (word : isWordChar c = true) : hyphenated c = c :=
  if_pos word

theorem hyphenated_of_other (other : ¬ isWordChar c = true) : hyphenated c = '-' :=
  if_neg other

theorem collapse_cons_of_ne (solid : c ≠ '-') : collapse (c :: cs) = c :: collapse cs := by
  simp [collapse, solid]

theorem collapse_hyphen_cons_of_ne (solid : c ≠ '-') :
    collapse ('-' :: c :: cs) = '-' :: c :: collapse cs := by
  simp [collapse, solid]

theorem collapse_hyphen_hyphen : collapse ('-' :: '-' :: cs) = collapse ('-' :: cs) := by
  simp [collapse]

/-- A hyphen in front of a text goes when the beginning is trimmed. -/
theorem trimStart_collapse_hyphen : trimStart (collapse ('-' :: cs)) = trimStart (collapse cs) := by
  by_cases another : cs.head? = some '-'
  · simp [collapse, another]
  · simp [collapse, another, trimStart]

theorem trimStart_cons_of_ne (solid : c ≠ '-') : trimStart (c :: cs) = c :: cs := by
  simp [trimStart, solid]

/-- Trimming the end reaches a character only if nothing is left after it. -/
theorem trimEnd_cons_of_ne_nil (left : trimEnd cs ≠ []) : trimEnd (c :: cs) = c :: trimEnd cs := by
  have some : cs.reverse.dropWhile (· == '-') ≠ [] := by
    intro none
    exact left (by rw [trimEnd, List.rdropWhile, none, List.reverse_nil])
  simp [trimEnd, List.rdropWhile, List.dropWhile_append, some]

theorem trimEnd_cons_of_ne (solid : c ≠ '-') : trimEnd (c :: cs) = c :: trimEnd cs := by
  by_cases left : trimEnd cs = []
  · have all : cs.reverse.dropWhile (· == '-') = [] := List.reverse_eq_nil_iff.1 left
    simp [trimEnd, List.rdropWhile, List.dropWhile_append, all, solid]
  · exact trimEnd_cons_of_ne_nil left

/-! ## One pass -/

/-- After a first word character, what is kept is the collapsed rest, with its end trimmed. What was
skipped since the last word character stands in front of the rest as a hyphen. -/
theorem words_true_eq_stages (cs : List Char) :
    words true false cs = trimEnd (collapse (cs.map hyphenated)) ∧
      words true true cs = trimEnd (collapse ('-' :: cs.map hyphenated)) := by
  induction cs with
  | nil => exact ⟨rfl, rfl⟩
  | cons c cs ih =>
    obtain ⟨kept, skipped⟩ := ih
    rw [words, words, List.map_cons]
    by_cases word : isWordChar c = true
    · have solid := ne_hyphen_of_word word
      rw [if_pos word, if_pos word, hyphenated_of_word word, collapse_cons_of_ne solid,
        collapse_hyphen_cons_of_ne solid, trimEnd_cons_of_ne solid, kept]
      refine ⟨rfl, ?_⟩
      rw [trimEnd_cons_of_ne_nil, trimEnd_cons_of_ne solid]
      · rfl
      · rw [trimEnd_cons_of_ne solid]
        exact List.cons_ne_nil _ _
    · rw [if_neg word, if_neg word, hyphenated_of_other word, collapse_hyphen_hyphen]
      exact ⟨skipped, skipped⟩

/-- What is kept of a text is the collapsed text with both ends trimmed. Nothing that was skipped
before the first word character counts. -/
theorem words_eq_stages (pending : Bool) (cs : List Char) :
    words false pending cs = trimEnd (trimStart (collapse (cs.map hyphenated))) := by
  induction cs generalizing pending with
  | nil => rfl
  | cons c cs ih =>
    rw [words, List.map_cons]
    by_cases word : isWordChar c = true
    · have solid := ne_hyphen_of_word word
      rw [if_pos word, hyphenated_of_word word, collapse_cons_of_ne solid,
        trimStart_cons_of_ne solid, trimEnd_cons_of_ne solid, (words_true_eq_stages cs).1]
      rfl
    · rw [if_neg word, hyphenated_of_other word, trimStart_collapse_hyphen]
      exact ih true

/-- Cutting a text whose end is trimmed is cutting any text and trimming the end. -/
theorem cut_trimEnd (cs : List Char) : cut (trimEnd cs) = trimEnd ((trimEnd cs).take 63) := by
  unfold cut
  split
  · next short =>
    have whole : (trimEnd cs).take 63 = trimEnd cs := List.take_of_length_le short
    rw [whole]
    exact (List.rdropWhile_idempotent _ _).symm
  · rfl

theorem ofName_eq_described (name : String) : ofName name = described name := by
  rw [ofName, words_eq_stages, cut_trimEnd]
  rfl

/-! ## One form -/

theorem Spelled.mem_pattern (spelled : Spelled cs) : cs ∈ pattern := by
  rw [pattern, Language.mem_mul]
  induction spelled with
  | @last c word => exact ⟨[c], ⟨by simp, by simpa using word⟩, [], Language.nil_mem_kstar _, rfl⟩
  | @next c cs word rest ih =>
    obtain ⟨first, ⟨-, all⟩, others, inside, rfl⟩ := ih
    exact ⟨c :: first, ⟨List.cons_ne_nil _ _, List.forall_mem_cons.2 ⟨word, all⟩⟩, others, inside,
      rfl⟩
  | @hyphen c cs word rest ih =>
    obtain ⟨first, one, others, inside, rfl⟩ := ih
    obtain ⟨parts, rfl, each⟩ := Language.mem_kstar.1 inside
    refine ⟨[c], ⟨by simp, by simpa using word⟩, ('-' :: first) ++ parts.flatten, ?_, rfl⟩
    rw [Language.mem_kstar]
    refine ⟨('-' :: first) :: parts, rfl, List.forall_mem_cons.2 ⟨?_, each⟩⟩
    exact Language.mem_mul.2 ⟨['-'], rfl, first, one, rfl⟩

/-- A word is spelled as a slug, alone or with a hyphen and a slug after it. -/
theorem spelled_of_oneWord (one : cs ∈ oneWord) {rest : List Char}
    (follows : rest = [] ∨ ∃ more, rest = '-' :: more ∧ Spelled more) : Spelled (cs ++ rest) := by
  obtain ⟨some, all⟩ := one
  induction cs with
  | nil => exact absurd rfl some
  | cons c cs ih =>
    obtain ⟨word, all⟩ := List.forall_mem_cons.1 all
    by_cases alone : cs = []
    · subst alone
      rcases follows with rfl | ⟨more, rfl, spelled⟩
      · exact .last word
      · exact .hyphen word spelled
    · exact .next word (ih alone all)

/-- A text is spelled as a slug exactly if it matches the pattern. -/
theorem spelled_iff_mem_pattern : Spelled cs ↔ cs ∈ pattern := by
  refine ⟨Spelled.mem_pattern, fun matched => ?_⟩
  obtain ⟨first, one, others, repeated, rfl⟩ := Language.mem_mul.1 matched
  obtain ⟨parts, rfl, each⟩ := Language.mem_kstar.1 repeated
  clear matched repeated
  induction parts generalizing first with
  | nil => exact spelled_of_oneWord one (.inl rfl)
  | cons part parts ih =>
    obtain ⟨joined, others⟩ := List.forall_mem_cons.1 each
    obtain ⟨hyphen, rfl, second, one', rfl⟩ := Language.mem_mul.1 joined
    have spelled := ih second one' others
    refine spelled_of_oneWord one (.inr ⟨second ++ parts.flatten, ?_, spelled⟩)
    rw [List.flatten_cons, List.append_assoc, List.singleton_append]

/-- What is made of a name is what the stages make of it. So it is empty or matches the pattern, is
short, and stays as it is when a slug is made of it. -/
theorem slugs_described (name : String) :
    ofName name = described name ∧
      (ofName name = "" ∨ (ofName name).toList ∈ pattern) ∧
      (ofName name).length ≤ 63 ∧
      ofName (ofName name) = ofName name := by
  refine ⟨ofName_eq_described name, ?_, length_ofName name, ofName_ofName name⟩
  rcases urlSafe_ofName name with none | safe
  · exact .inl none
  · exact .inr (spelled_iff_mem_pattern.1 safe.spelled)

/-- A Kelvin sign has a lowercase that is a word character, and a capital I with a dot above has one
of two characters. -/
example : described " --\u212Aelvin,  \u0130stanbul!-- " = "kelvin-i-stanbul" := by decide

end Stages

end Steward.Slug
