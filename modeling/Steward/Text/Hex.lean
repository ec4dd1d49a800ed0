/-!
# Hexadecimal digits

Bytes as pairs of hexadecimal digits. Digits are written in lowercase and read in either case.
-/

namespace Steward.Text

/-- A hexadecimal digit, in lowercase. -/
def hexChar (n : Fin 16) : Char :=
  if n.val < 10 then Char.ofNat (48 + n.val) else Char.ofNat (87 + n.val)

def hexValue? (c : Char) : Option Nat :=
  if '0' ≤ c ∧ c ≤ '9' then some (c.toNat - 48)
  else if 'a' ≤ c ∧ c ≤ 'f' then some (c.toNat - 87)
  else if 'A' ≤ c ∧ c ≤ 'F' then some (c.toNat - 55)
  else none

/-- The last hexadecimal digit of a number. -/
def hexDigit (n : Nat) : Char :=
  hexChar (Fin.ofNat 16 n)

theorem hexValue?_hexChar (n : Fin 16) : hexValue? (hexChar n) = some n.val := by
  revert n; decide

def hexPair (b : UInt8) : List Char :=
  [hexDigit (b.toNat / 16), hexDigit b.toNat]

def hex (bytes : ByteArray) : String :=
  String.ofList (bytes.data.toList.flatMap hexPair)

/-- The bytes that pairs of digits stand for. -/
def hexBytes? : List Char → Option (List UInt8)
  | [] => some []
  | [_] => none
  | a :: b :: cs => do
    let byte := UInt8.ofNat ((← hexValue? a) * 16 + (← hexValue? b))
    return byte :: (← hexBytes? cs)

/-- The bytes that a text of hexadecimal digits stands for. -/
def ofHex? (s : String) : Option ByteArray :=
  (hexBytes? s.toList).map fun bytes => ⟨bytes.toArray⟩

end Steward.Text
