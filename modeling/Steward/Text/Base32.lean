/-!
# Identifying texts

Numbers in base 32, and the texts that tell generated ids apart: a moment and a random number, in
digits that sort as the moments do.
-/

namespace Steward.Text

/-- The digits of base 32. Letters that look like digits are left out. -/
def base32Digits : List Char :=
  "0123456789abcdefghjkmnpqrstvwxyz".toList

/-- The last digits of a number in base 32. -/
def base32 : Nat → Nat → List Char
  | 0, _ => []
  | width + 1, n => base32 width (n / 32) ++ [base32Digits.getD (n % 32) '0']

/-- The text for a moment, in milliseconds, and a random number: 26 digits that stand for 50 bits of
the one and 80 bits of the other. -/
def identifier (moment random : Nat) : String :=
  String.ofList (base32 10 moment ++ base32 16 random)

end Steward.Text
