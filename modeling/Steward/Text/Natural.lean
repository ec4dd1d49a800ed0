import Steward.Text.Digits

/-!
# Natural numbers in text

Numbers of 64 bits as settings and names hold them: digits, after a plus sign if there is one.
-/

namespace Steward.Text

/-- Why a text is no number. -/
inductive NumberFault where
  | empty
  | invalidDigit
  | tooLarge
deriving DecidableEq

def NumberFault.message : NumberFault → String
  | empty => "cannot parse integer from empty string"
  | invalidDigit => "invalid digit found in string"
  | tooLarge => "number too large to fit in target type"

/-- What lies just beyond the largest number. -/
def naturalBound : Nat := 18446744073709551616

/-- Reads digits one after another; the first fault counts. -/
def readNatural (soFar : Nat) : List Char → Except NumberFault Nat
  | [] => .ok soFar
  | c :: cs =>
    match Digit.ofChar? c with
    | none => .error .invalidDigit
    | some d =>
      if 10 * soFar + d.val < naturalBound then readNatural (10 * soFar + d.val) cs
      else .error .tooLarge

/-- The number that characters are the text of. -/
def natural : List Char → Except NumberFault Nat
  | [] => .error .empty
  | ['+'] => .error .invalidDigit
  | '+' :: cs => readNatural 0 cs
  | cs => readNatural 0 cs

end Steward.Text
