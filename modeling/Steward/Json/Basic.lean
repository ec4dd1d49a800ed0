import Steward.Json.Number

/-!
# JSON values

JSON values as they were written: the members of an object keep their order and repetitions, and a
number keeps its digits. A string that cannot be read, because it holds bytes or escapes that are
no text, is a value of its own; it does no harm as long as nobody asks for it.
-/

namespace Steward

open Steward.Text

/-- A JSON value. A string or member name that cannot be read as text is `none`. -/
inductive Json where
  | null
  | bool (value : Bool)
  | number (value : Numeral)
  | string (value : Option String)
  | array (items : List Json)
  | object (members : List (Option String × Json))
deriving Inhabited

namespace Json

def text (s : String) : Json := .string (some s)

def nat (n : Nat) : Json := .number (.ofNat n)

/-- An object whose member names are text. -/
def record (members : List (String × Json)) : Json :=
  .object (members.map fun (name, value) => (some name, value))

mutual

/-- A value that can be kept for later: its strings can be read, no number is too large, and
arrays and objects are nested at most `room` deep. -/
def isKeepable (room : Nat) : Json → Bool
  | .null => true
  | .bool _ => true
  | .number n => n.number?.isSome
  | .string s => s.isSome
  | .array items => match room with
    | 0 => false
    | room + 1 => areKeepable room items
  | .object members => match room with
    | 0 => false
    | room + 1 => membersKeepable room members

def areKeepable (room : Nat) : List Json → Bool
  | [] => true
  | item :: items => isKeepable room item && areKeepable room items

def membersKeepable (room : Nat) : List (Option String × Json) → Bool
  | [] => true
  | (name, value) :: members =>
    name.isSome && isKeepable room value && membersKeepable room members

end

/-- The deepest nesting of arrays and objects that a value may have if it is kept. -/
def maxDepth : Nat := 127

end Json

end Steward
