import Steward.Json.Shortest
import Steward.Text.Natural

/-!
# Numbers

What becomes of a numeral when its number is kept: an integer of 64 bits if it is written as one,
and otherwise a number of double precision. Only the leading digits that fit 64 bits count.
-/

namespace Steward

open Steward.Text

/-- A number as it is kept. -/
inductive Number where
  | integer (n : Int)
  | double (negative : Bool) (magnitude : Double)
deriving DecidableEq

namespace Number

/-- The least integer that 64 bits with a sign hold is the negative of this. -/
def halfBound : Nat := 9223372036854775808

/-- What lies just beyond the largest exponent. -/
def exponentBound : Nat := 2147483648

/-- Appends digits to a number as long as it fits 64 bits, and answers those that are left. -/
def fill (n : Nat) : List Digit → Nat × List Digit
  | [] => (n, [])
  | d :: ds => if 10 * n + d.val < naturalBound then fill (10 * n + d.val) ds else (n, d :: ds)

/-- A number times a power of ten that is still to be applied. An exponent that is too large to be
a number is no harm if the number is zero or is to be made smaller. -/
def withExponent (significand : Nat) (pending : Int) : Option (Bool × List Digit) → Option Double
  | none => Double.scaled? significand pending
  | some (negative, ds) =>
    if value ds < exponentBound then
      Double.scaled? significand (if negative then pending - value ds else pending + value ds)
    else if significand = 0 ∨ negative then some 0 else none

/-- An integer of 64 bits. Zero with a sign is none. -/
def integer? (negative : Bool) (n : Nat) : Option Number :=
  if !negative then some (.integer n)
  else if 0 < n ∧ n ≤ halfBound then some (.integer (-n)) else none

def numeral : Number → Numeral
  | integer n => { Numeral.ofNat n.natAbs with negative := n < 0 }
  | double negative x => x.numeral negative

end Number

namespace Numeral

open Number

/-- The number that is kept of a numeral, unless it is too large. -/
def number? (n : Numeral) : Option Number :=
  let (leading, left) := fill 0 n.whole
  let (significand, rest) := fill leading n.fraction
  let pending : Int := left.length - (n.fraction.length - rest.length)
  let asInteger := if left = [] ∧ n.fraction = [] ∧ n.exponent = none
    then integer? n.negative leading else none
  asInteger <|> (withExponent significand pending n.exponent).map (.double n.negative)

/-- The numeral of the number that is kept. -/
def kept (n : Numeral) : Numeral :=
  (n.number?.map Number.numeral).getD n

end Numeral

end Steward
