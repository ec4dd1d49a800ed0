import Mathlib.Tactic.IntervalCases
import Steward.Text.Blank
import Steward.Timestamp.Text

/-!
# Digits that are written are read

Facts about numbers as lists of digits that more than one written form rests on: the width of a
padded number, its value, and that a scan takes the digits of a number and leaves what follows.
-/

namespace Steward.Text

/-! ## Characters of digits -/

theorem isBlank_toChar (d : Digit) : isBlank d.toChar = false := by
  revert d; decide

theorem toChar_ne_minus (d : Digit) : d.toChar ≠ '-' := by
  revert d; decide

theorem toChar_ne_plus (d : Digit) : d.toChar ≠ '+' := by
  revert d; decide

/-- What follows does not begin with a digit. -/
def EndsDigits (rest : List Char) : Prop :=
  ∀ c ∈ rest.head?, Digit.ofChar? c = none

/-! ## Values and widths -/

theorem digits_ne_nil (n : Nat) : digits n ≠ [] := by
  rw [digits]
  split <;> simp

theorem value_zeros (count : Nat) (ds : List Digit) :
    value (List.replicate count Digit.zero ++ ds) = value ds := by
  induction count with
  | zero => rfl
  | succ count ih =>
    rw [List.replicate_succ, List.cons_append, ← ih]
    rfl

theorem value_padded (width n : Nat) : value (padded width n) = n := by
  rw [padded, value_zeros, value_digits]

theorem padded_ne_nil (width n : Nat) : padded width n ≠ [] := by
  simp [padded, digits_ne_nil]

theorem length_digits_le {width n : Nat} (positive : 0 < width) (small : n < 10 ^ width) :
    (digits n).length ≤ width := by
  induction width generalizing n with
  | zero => omega
  | succ width ih =>
    rw [digits]
    split
    · simp
    · next large =>
      have widthPositive : 0 < width := by
        rcases Nat.eq_zero_or_pos width with rfl | h
        · simp at small; omega
        · exact h
      have smaller : n / 10 < 10 ^ width := by
        rw [Nat.pow_succ] at small; omega
      simpa using ih widthPositive smaller

theorem length_padded {width n : Nat} (positive : 0 < width) (small : n < 10 ^ width) :
    (padded width n).length = width := by
  have fits := length_digits_le positive small
  simp only [padded, List.length_append, List.length_replicate]
  omega

/-! ## Scans -/

theorem spanDigits_digitChars (ds : List Digit) {rest : List Char} (ends : EndsDigits rest) :
    spanDigits (digitChars ds ++ rest) = (ds, rest) := by
  induction ds with
  | nil =>
    cases rest with
    | nil => rfl
    | cons c rest => simp [digitChars, spanDigits, ends c rfl]
  | cons d ds ih =>
    simp only [digitChars, List.map_cons, List.cons_append] at ih ⊢
    simp only [spanDigits, Digit.ofChar?_toChar]
    rw [ih]

end Steward.Text

namespace Steward.Timestamp

open Steward.Text

theorem spanUpTo_digitChars (ds : List Digit) (rest : List Char) :
    spanUpTo ds.length (digitChars ds ++ rest) = (ds, rest) := by
  induction ds with
  | nil => simp [spanUpTo, digitChars]
  | cons d ds ih =>
    simp only [digitChars, List.map_cons, List.cons_append, List.length_cons] at ih ⊢
    simp only [spanUpTo, Digit.ofChar?_toChar]
    rw [ih]

end Steward.Timestamp
