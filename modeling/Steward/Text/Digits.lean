/-!
# Decimal digits

Numbers as lists of decimal digits, the most significant first. Main statement: the digits of a
number, with any zeros before them, have that number as their value.
-/

namespace Steward.Text

abbrev Digit := Fin 10

namespace Digit

def zero : Digit := ⟨0, by decide⟩

def toChar (d : Digit) : Char :=
  Char.ofNat (48 + d.val)

def ofChar? (c : Char) : Option Digit :=
  if h : 48 ≤ c.toNat ∧ c.toNat < 58 then some ⟨c.toNat - 48, by omega⟩ else none

theorem ofChar?_toChar (d : Digit) : ofChar? d.toChar = some d := by
  revert d; decide

end Digit

/-- The digits of a number, without zeros in front. -/
def digits (n : Nat) : List Digit :=
  if h : n < 10 then [⟨n, h⟩] else digits (n / 10) ++ [⟨n % 10, by omega⟩]
termination_by n

def value (ds : List Digit) : Nat :=
  ds.foldl (fun n d => 10 * n + d.val) 0

/-- The digits of a number, with zeros in front up to a width. -/
def padded (width n : Nat) : List Digit :=
  List.replicate (width - (digits n).length) Digit.zero ++ digits n

def digitChars (ds : List Digit) : List Char :=
  ds.map Digit.toChar

/-- The digits that a list of characters starts with, and the characters after them. -/
def spanDigits : List Char → List Digit × List Char
  | [] => ([], [])
  | c :: cs =>
    match Digit.ofChar? c with
    | some d => (d :: (spanDigits cs).1, (spanDigits cs).2)
    | none => ([], c :: cs)

theorem value_append_singleton (ds : List Digit) (d : Digit) :
    value (ds ++ [d]) = 10 * value ds + d.val := by
  simp [value]

theorem value_digits (n : Nat) : value (digits n) = n := by
  rw [digits]
  split
  · simp [value]
  · rw [value_append_singleton, value_digits (n / 10)]
    simp only
    omega
termination_by n

end Steward.Text
