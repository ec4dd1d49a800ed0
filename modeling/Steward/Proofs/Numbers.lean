import Mathlib.Data.List.TakeWhile
import Steward.Proofs.Digits
import Steward.Text.Natural

/-!
# Texts of numbers

Which characters are the text of a number, and what is wrong with all others: a grammar for the
reader of numbers, and for the blanks that are cut off before it. Main statements: `trimmed_eq_iff`,
`natural_ok_iff` and `natural_error_iff`.
-/

namespace Steward.Text

/-! ## Blanks at the ends -/

/-- What is left of characters without the blanks at their ends. -/
def Trimmed (cs core : List Char) : Prop :=
  ∃ before after, cs = before ++ core ++ after ∧ (∀ c ∈ before, isBlank c) ∧
    (∀ c ∈ after, isBlank c) ∧ (∀ c ∈ core.head?, isBlank c = false) ∧
    ∀ c ∈ core.getLast?, isBlank c = false

theorem dropBlanks_append {before rest : List Char} (blank : ∀ c ∈ before, isBlank c)
    (solid : ∀ c ∈ rest.head?, isBlank c = false) : dropBlanks (before ++ rest) = rest := by
  rw [dropBlanks, List.dropWhile_append_of_pos blank]
  cases rest with
  | nil => rfl
  | cons c rest => rw [List.dropWhile_cons_of_neg (by simp [solid c rfl])]

/-- The blanks that are dropped are all that there are in front. -/
theorem exists_dropBlanks (cs : List Char) : ∃ before, cs = before ++ dropBlanks cs ∧
    (∀ c ∈ before, isBlank c) ∧ ∀ c ∈ (dropBlanks cs).head?, isBlank c = false := by
  refine ⟨cs.takeWhile isBlank, List.takeWhile_append_dropWhile.symm,
    fun c taken => List.mem_takeWhile_imp taken, fun c first => ?_⟩
  have stops := List.head?_dropWhile_not isBlank cs
  rw [show (cs.dropWhile isBlank).head? = some c from first] at stops
  simpa using stops

theorem trimmed_eq {cs core : List Char} (trims : Trimmed cs core) : trimmed cs = core := by
  obtain ⟨before, after, rfl, blankBefore, blankAfter, first, last⟩ := trims
  by_cases empty : core = []
  · have blank : ∀ c ∈ before ++ after, isBlank c := by
      simpa [or_imp, forall_and] using ⟨blankBefore, blankAfter⟩
    have dropped : dropBlanks (before ++ after ++ []) = [] := dropBlanks_append blank nofun
    rw [List.append_nil] at dropped
    rw [trimmed, empty, List.append_nil, dropped]
    rfl
  · have firstOfBoth : ∀ c ∈ (core ++ after).head?, isBlank c = false := by
      obtain ⟨c, core, rfl⟩ := List.exists_cons_of_ne_nil empty
      exact first
    rw [trimmed, List.append_assoc, dropBlanks_append blankBefore firstOfBoth, List.reverse_append,
      dropBlanks_append (by simpa using blankAfter) (by simpa using last), List.reverse_reverse]

theorem trimmed_trimmed (cs : List Char) : Trimmed cs (trimmed cs) := by
  obtain ⟨before, split, blankBefore, first⟩ := exists_dropBlanks cs
  obtain ⟨behind, split', blankBehind, last⟩ := exists_dropBlanks (dropBlanks cs).reverse
  have front : dropBlanks cs = trimmed cs ++ behind.reverse := by
    rw [trimmed, ← List.reverse_append, ← split', List.reverse_reverse]
  refine ⟨before, behind.reverse, ?_, blankBefore, by simpa using blankBehind, ?_, ?_⟩
  · rw [List.append_assoc, ← front, ← split]
  · intro c isFirst
    refine first c ?_
    rw [front, List.head?_append, Option.mem_def.1 isFirst]
    rfl
  · simpa [trimmed] using last

theorem trimmed_eq_iff {cs core : List Char} : trimmed cs = core ↔ Trimmed cs core :=
  ⟨fun same => same ▸ trimmed_trimmed cs, trimmed_eq⟩

/-! ## Digit by digit -/

/-- The value of digits after those of another number. -/
def valueAfter (soFar : Nat) (ds : List Digit) : Nat :=
  ds.foldl (fun n d => 10 * n + d.val) soFar

theorem le_valueAfter (soFar : Nat) (ds : List Digit) : soFar ≤ valueAfter soFar ds := by
  induction ds generalizing soFar with
  | nil => exact Nat.le_refl soFar
  | cons d ds ih => exact Nat.le_trans (by omega) (ih (10 * soFar + d.val))

theorem Digit.toChar_of_ofChar? {c : Char} {d : Digit} (found : ofChar? c = some d) :
    d.toChar = c := by
  unfold ofChar? at found
  split at found
  · obtain rfl := Option.some.inj found
    rw [toChar, Nat.add_sub_cancel' (by omega), Char.ofNat_toNat]
  · cases found

/-- What comes of reading characters on after the digits of a number: the number that they add up
to, or the first fault. -/
def Continues (soFar : Nat) (cs : List Char) : Except NumberFault Nat → Prop
  | .ok n => ∃ ds, cs = digitChars ds ∧ valueAfter soFar ds = n ∧ n < naturalBound
  | .error .empty => False
  | .error .invalidDigit => ∃ ds c rest, cs = digitChars ds ++ c :: rest ∧
      valueAfter soFar ds < naturalBound ∧ Digit.ofChar? c = none
  | .error .tooLarge => ∃ ds d rest, cs = digitChars (ds ++ [d]) ++ rest ∧
      valueAfter soFar ds < naturalBound ∧ naturalBound ≤ valueAfter soFar (ds ++ [d])

/-- One digit more in front. -/
theorem Continues.cons {soFar : Nat} {d : Digit} {cs : List Char} {r : Except NumberFault Nat}
    (rest : Continues (10 * soFar + d.val) cs r) : Continues soFar (d.toChar :: cs) r := by
  match r, rest with
  | .ok n, ⟨ds, spelt, value, fits⟩ => exact ⟨d :: ds, by rw [spelt]; rfl, value, fits⟩
  | .error .invalidDigit, ⟨ds, c, rest, spelt, fits, wrong⟩ =>
    exact ⟨d :: ds, c, rest, by rw [spelt]; rfl, fits, wrong⟩
  | .error .tooLarge, ⟨ds, e, rest, spelt, fits, large⟩ =>
    exact ⟨d :: ds, e, rest, by rw [spelt]; rfl, fits, large⟩

theorem continues_readNatural {soFar : Nat} (small : soFar < naturalBound) (cs : List Char) :
    Continues soFar cs (readNatural soFar cs) := by
  induction cs generalizing soFar with
  | nil => exact ⟨[], rfl, rfl, small⟩
  | cons c cs ih =>
    rw [readNatural]
    split
    · next wrong => exact ⟨[], c, cs, rfl, small, wrong⟩
    · next d found =>
      obtain rfl := Digit.toChar_of_ofChar? found
      split
      · next fits => exact (ih fits).cons
      · next large => exact ⟨[], d, cs, rfl, small, Nat.not_lt.1 large⟩

theorem readNatural_digitChars_append {soFar : Nat} {ds : List Digit} (rest : List Char)
    (fits : valueAfter soFar ds < naturalBound) :
    readNatural soFar (digitChars ds ++ rest) = readNatural (valueAfter soFar ds) rest := by
  induction ds generalizing soFar with
  | nil => rfl
  | cons d ds ih =>
    have small : 10 * soFar + d.val < naturalBound := (le_valueAfter _ ds).trans_lt fits
    simp only [digitChars, List.map_cons, List.cons_append, readNatural, Digit.ofChar?_toChar,
      if_pos small]
    exact ih fits

theorem readNatural_eq_iff {soFar : Nat} (small : soFar < naturalBound) {cs : List Char}
    {r : Except NumberFault Nat} : readNatural soFar cs = r ↔ Continues soFar cs r := by
  refine ⟨fun same => same ▸ continues_readNatural small cs, fun continues => ?_⟩
  match r, continues with
  | .ok n, ⟨ds, spelt, value, fits⟩ =>
    have run := readNatural_digitChars_append [] (value.symm ▸ fits)
    rw [List.append_nil] at run
    rw [spelt, run, value, readNatural]
  | .error .invalidDigit, ⟨ds, c, rest, spelt, fits, wrong⟩ =>
    rw [spelt, readNatural_digitChars_append _ fits, readNatural]
    simp only [wrong]
  | .error .tooLarge, ⟨ds, d, rest, spelt, fits, large⟩ =>
    have beyond : ¬10 * valueAfter soFar ds + d.val < naturalBound := by
      simpa [valueAfter] using large
    rw [spelt, digitChars, List.map_append, List.append_assoc, ← digitChars,
      readNatural_digitChars_append _ fits]
    simp only [List.map_cons, List.map_nil, List.cons_append, List.nil_append, readNatural,
      Digit.ofChar?_toChar, if_neg beyond]

/-! ## With a sign -/

/-- Characters without the plus sign in front of them, if there is one. -/
def unsigned : List Char → List Char
  | '+' :: cs => cs
  | cs => cs

/-- Characters are the text of a number that 64 bits hold: one or more digits, after a plus sign or
none. -/
def Denotes (cs : List Char) (n : Nat) : Prop :=
  ∃ ds, ds ≠ [] ∧ (cs = digitChars ds ∨ cs = '+' :: digitChars ds) ∧ value ds = n ∧ n < 2 ^ 64

/-- What is wrong with characters that are not the text of a number, from the left to the right:
there are none, or none but a sign; a character is no digit; the number becomes too large. -/
def Spoiled (cs : List Char) : NumberFault → Prop
  | .empty => cs = []
  | .invalidDigit => cs = ['+'] ∨ ∃ ds c rest, unsigned cs = digitChars ds ++ c :: rest ∧
      value ds < 2 ^ 64 ∧ Digit.ofChar? c = none
  | .tooLarge => ∃ ds d rest, unsigned cs = digitChars (ds ++ [d]) ++ rest ∧
      value ds < 2 ^ 64 ∧ 2 ^ 64 ≤ value (ds ++ [d])

theorem naturalBound_eq : naturalBound = 2 ^ 64 := by
  norm_num [naturalBound]

theorem unsigned_of_ne {c : Char} {cs : List Char} (other : c ≠ '+') :
    unsigned (c :: cs) = c :: cs := by
  unfold unsigned
  split
  · next same => exact absurd (List.cons.inj same).1 other
  · rfl

theorem unsigned_eq_nil_iff {cs : List Char} : unsigned cs = [] ↔ cs = [] ∨ cs = ['+'] := by
  unfold unsigned
  split
  · simp
  · next unlike =>
    refine ⟨.inl, ?_⟩
    rintro (rfl | rfl)
    · rfl
    · exact absurd rfl (unlike [])

/-- It does not matter to digits whether there is a sign. -/
theorem unsigned_eq_digitChars_iff {cs : List Char} {ds : List Digit} (some : ds ≠ []) :
    unsigned cs = digitChars ds ↔ cs = digitChars ds ∨ cs = '+' :: digitChars ds := by
  constructor
  · intro spelt
    unfold unsigned at spelt
    split at spelt
    · exact .inr (by rw [spelt])
    · exact .inl spelt
  · rintro (rfl | rfl)
    · obtain ⟨d, ds, rfl⟩ := List.exists_cons_of_ne_nil some
      exact unsigned_of_ne (toChar_ne_plus d)
    · rfl

theorem denotes_iff {cs : List Char} {n : Nat} (some : unsigned cs ≠ []) :
    Denotes cs n ↔ Continues 0 (unsigned cs) (.ok n) := by
  constructor
  · rintro ⟨ds, digits, spelt, value, fits⟩
    exact ⟨ds, (unsigned_eq_digitChars_iff digits).2 spelt, value, naturalBound_eq ▸ fits⟩
  · rintro ⟨ds, spelt, value, fits⟩
    have digits : ds ≠ [] := by
      rintro rfl
      exact some spelt
    exact ⟨ds, digits, (unsigned_eq_digitChars_iff digits).1 spelt, value, naturalBound_eq ▸ fits⟩

theorem spoiled_iff {cs : List Char} {fault : NumberFault} (some : unsigned cs ≠ []) :
    Spoiled cs fault ↔ Continues 0 (unsigned cs) (.error fault) := by
  obtain ⟨full, more⟩ := not_or.1 (mt unsigned_eq_nil_iff.2 some)
  cases fault with
  | empty => exact iff_of_false full id
  | invalidDigit =>
    rw [Spoiled, ← naturalBound_eq]
    exact or_iff_right more
  | tooLarge =>
    rw [Spoiled, ← naturalBound_eq]
    exact Iff.rfl

theorem natural_eq {cs : List Char} (some : unsigned cs ≠ []) :
    natural cs = readNatural 0 (unsigned cs) := by
  obtain ⟨full, more⟩ := not_or.1 (mt unsigned_eq_nil_iff.2 some)
  unfold natural
  split
  · exact absurd rfl full
  · exact absurd rfl more
  · rfl
  · next unlike =>
    rw [unsigned]
    exact unlike

theorem natural_ok_iff {cs : List Char} {n : Nat} : natural cs = .ok n ↔ Denotes cs n := by
  by_cases some : unsigned cs = []
  · have failed : natural cs ≠ .ok n := by
      rcases unsigned_eq_nil_iff.1 some with rfl | rfl <;> nofun
    refine iff_of_false failed ?_
    rintro ⟨ds, digits, spelt, -⟩
    rw [(unsigned_eq_digitChars_iff digits).2 spelt] at some
    exact digits (List.map_eq_nil_iff.1 some)
  · rw [natural_eq some, denotes_iff some, readNatural_eq_iff (by decide)]

theorem natural_error_iff {cs : List Char} {fault : NumberFault} :
    natural cs = .error fault ↔ Spoiled cs fault := by
  by_cases some : unsigned cs = []
  · rcases unsigned_eq_nil_iff.1 some with rfl | rfl <;> cases fault <;>
      simp [natural, Spoiled, unsigned, digitChars]
  · rw [natural_eq some, spoiled_iff some, readNatural_eq_iff (by decide)]

example : natural ['+', '0', '7'] = .ok 7 := by decide

end Steward.Text
