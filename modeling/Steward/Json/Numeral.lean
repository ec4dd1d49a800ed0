import Steward.Text.Digits

/-!
# Numerals

Numbers as they are written in JSON, digit by digit.
-/

namespace Steward

open Steward.Text

/-- A number as written: sign, whole part, digits after the point, and the exponent with its
sign. -/
structure Numeral where
  negative : Bool := false
  whole : List Digit
  fraction : List Digit := []
  exponent : Option (Bool × List Digit) := none
deriving DecidableEq

namespace Numeral

/-- The plain numeral of a natural number. -/
def ofNat (n : Nat) : Numeral where
  whole := digits n

/-- The natural number that a numeral without sign, point and exponent stands for. -/
def nat? (n : Numeral) : Option Nat :=
  if n.negative then none
  else if n.fraction = [] ∧ n.exponent = none then some (value n.whole) else none

theorem nat?_ofNat (n : Nat) : (ofNat n).nat? = some n := by
  simp [ofNat, nat?, value_digits]

end Numeral

end Steward
