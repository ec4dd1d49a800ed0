import Steward.Json.Basic
import Steward.Text.Hex

/-!
# Writing JSON

The compact text of a JSON value. Inside strings only the quote, the backslash and the control
characters are escaped.
-/

namespace Steward

open Steward.Text

namespace Numeral

def print (n : Numeral) : List Char :=
  (if n.negative then ['-'] else []) ++ digitChars n.whole ++
    (if n.fraction = [] then [] else '.' :: digitChars n.fraction) ++
    (match n.exponent with
      | none => []
      | some (negative, ds) => 'e' :: (if negative then '-' else '+') :: digitChars ds)

end Numeral

namespace Json

/-- A character as it is written inside a string. -/
def escaped (c : Char) : List Char :=
  if c = '"' then ['\\', '"']
  else if c = '\\' then ['\\', '\\']
  else if c = '\x08' then ['\\', 'b']
  else if c = '\x0c' then ['\\', 'f']
  else if c = '\n' then ['\\', 'n']
  else if c = '\r' then ['\\', 'r']
  else if c = '\t' then ['\\', 't']
  else if c.toNat < 32 then
    ['\\', 'u', '0', '0', hexDigit (c.toNat / 16), hexDigit c.toNat]
  else [c]

def quoted (s : String) : List Char :=
  '"' :: s.toList.flatMap escaped ++ ['"']

/-- A string between quotes; one that cannot be read is written as the replacement character. -/
def quoted? (s : Option String) : List Char :=
  quoted (s.getD "\uFFFD")

mutual

def print : Json → List Char
  | .null => ['n', 'u', 'l', 'l']
  | .bool true => ['t', 'r', 'u', 'e']
  | .bool false => ['f', 'a', 'l', 's', 'e']
  | .number n => n.print
  | .string s => quoted? s
  | .array items => '[' :: printItems items ++ [']']
  | .object members => '\x7b' :: printMembers members ++ ['\x7d']

def printItems : List Json → List Char
  | [] => []
  | item :: items => match items with
    | [] => print item
    | _ :: _ => print item ++ ',' :: printItems items

def printMembers : List (Option String × Json) → List Char
  | [] => []
  | (name, value) :: members => match members with
    | [] => quoted? name ++ ':' :: print value
    | _ :: _ => quoted? name ++ ':' :: print value ++ ',' :: printMembers members

end

def compact (j : Json) : String :=
  String.ofList j.print

end Json

end Steward
