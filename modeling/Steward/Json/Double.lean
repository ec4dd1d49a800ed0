/-!
# Binary numbers of double precision

The finite binary numbers of double precision, without sign. Such a number is a multiple of the
smallest one that is not zero, and is counted in units of it. Products and quotients are exact, and
rounded to 53 binary digits once.
-/

namespace Steward

/-- A number of double precision, as a multiple of the smallest one. -/
abbrev Double := Nat

namespace Double

def one : Double := Nat.pow 2 1074

/-- What lies just beyond the largest number. -/
def bound : Double := Nat.pow 2 2098

/-- The number nearest to a quotient, the even one of two. The bits of a number beyond the 53rd are
zero, so numbers of its size lie `gap` apart. -/
def nearest (n d : Nat) : Double :=
  let gap := Nat.pow 2 ((n / d).log2 - 52)
  let below := n / (d * gap)
  let rest := n % (d * gap)
  if d * gap < 2 * rest ∨ (2 * rest = d * gap ∧ below % 2 = 1) then (below + 1) * gap
  else below * gap

def ofNat (n : Nat) : Double := nearest (n * one) 1

def mul (a b : Double) : Double := nearest (a * b) one

def div (a b : Double) : Double := nearest (a * one) b

def tenTo (k : Nat) : Double := ofNat (Nat.pow 10 k)

/-- The largest power of ten that is a number. -/
def maxTen : Nat := 308

/-- A number times a power of ten, unless that is too large. -/
def raise? (x : Double) (k : Nat) : Option Double :=
  if k ≤ maxTen then some (mul x (tenTo k)) |>.filter (· < bound)
  else if x = 0 then some 0 else none

/-- A number divided by a power of ten, in steps that are rounded one by one. -/
def lower (x : Double) (k : Nat) : Double :=
  if k ≤ maxTen then div x (tenTo k)
  else if x = 0 then 0 else lower (div x (tenTo maxTen)) (k - maxTen)
termination_by k
decreasing_by
  rename_i large _
  simp only [maxTen] at *
  omega

/-- A natural number times a power of ten, unless that is too large. -/
def scaled? (significand : Nat) : Int → Option Double
  | .ofNat k => raise? (ofNat significand) k
  | .negSucc k => some (lower (ofNat significand) (k + 1))

end Double

end Steward
