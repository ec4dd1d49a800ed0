import Steward.Json.Basic
import Steward.Text.Hex
import Steward.Text.Utf8

/-!
# Reading JSON

The grammar of JSON on symbols. A text is refused only when it does not follow the grammar; a
string that follows the grammar and yet stands for no text is read as a string that cannot be read.
-/

namespace Steward.Json

open Steward.Text

/-! ## Blanks and fixed words -/

/-- The blanks of JSON. -/
def isSeparator : Symbol → Bool
  | some c => c = ' ' || c = '\t' || c = '\n' || c = '\r'
  | none => false

def skipSeparators (s : List Symbol) : List Symbol :=
  s.dropWhile isSeparator

/-- What follows a fixed word. -/
def afterWord : List Char → List Symbol → Option (List Symbol)
  | [], s => some s
  | c :: cs, some d :: s => if c = d then afterWord cs s else none
  | _ :: _, _ => none

/-! ## Numbers -/

/-- The digits that symbols start with, and the symbols after them. -/
def spanDigitSymbols : List Symbol → List Digit × List Symbol
  | some c :: s =>
    match Digit.ofChar? c with
    | some d => (d :: (spanDigitSymbols s).1, (spanDigitSymbols s).2)
    | none => ([], some c :: s)
  | s => ([], s)

/-- The whole part of a number: a zero alone, or digits that do not start with one. -/
def readWhole (s : List Symbol) : Option (List Digit × List Symbol) :=
  match spanDigitSymbols s with
  | ([], _) => none
  | ([d], rest) => some ([d], rest)
  | (d :: ds, rest) => if d.val = 0 then none else some (d :: ds, rest)

def readDigits (s : List Symbol) : Option (List Digit × List Symbol) :=
  match spanDigitSymbols s with
  | ([], _) => none
  | found => some found

/-- The digits after a point, none if there is no point. -/
def readFraction : List Symbol → Option (List Digit × List Symbol)
  | some '.' :: s => readDigits s
  | s => some ([], s)

/-- The exponent, with its sign. -/
def readExponent : List Symbol → Option (Option (Bool × List Digit) × List Symbol)
  | some c :: s =>
    if c = 'e' ∨ c = 'E' then
      match s with
      | some '-' :: s => (readDigits s).map fun (ds, rest) => (some (true, ds), rest)
      | some '+' :: s => (readDigits s).map fun (ds, rest) => (some (false, ds), rest)
      | s => (readDigits s).map fun (ds, rest) => (some (false, ds), rest)
    else some (none, some c :: s)
  | s => some (none, s)

def readMagnitude (negative : Bool) (s : List Symbol) : Option (Numeral × List Symbol) := do
  let (whole, s) ← readWhole s
  let (fraction, s) ← readFraction s
  let (exponent, s) ← readExponent s
  return (⟨negative, whole, fraction, exponent⟩, s)

def readNumeral : List Symbol → Option (Numeral × List Symbol)
  | some '-' :: s => readMagnitude true s
  | s => readMagnitude false s

/-! ## Strings -/

/-- A part of a string as written: a character, a byte that is no text, or an escape that gives one
unit of UTF-16. -/
inductive Piece where
  | char (c : Char)
  | stray
  | unit (code : Nat)

/-- The unit that four hexadecimal digits give. -/
def hexUnit? : Symbol → Symbol → Symbol → Symbol → Option Nat
  | some a, some b, some c, some d => do
    return ((← hexValue? a) * 16 + (← hexValue? b)) * 256 + (← hexValue? c) * 16 + (← hexValue? d)
  | _, _, _, _ => none

/-- The character that an escape of one letter stands for. -/
def unescaped? : Char → Option Char
  | '"' => some '"'
  | '\\' => some '\\'
  | '/' => some '/'
  | 'b' => some '\x08'
  | 'f' => some '\x0c'
  | 'n' => some '\n'
  | 'r' => some '\r'
  | 't' => some '\t'
  | _ => none

/-- The pieces of a string up to its closing quote, and what follows the quote. -/
def readPieces : List Symbol → Option (List Piece × List Symbol)
  | some '"' :: s => some ([], s)
  | some '\\' :: some 'u' :: a :: b :: c :: d :: s =>
    match hexUnit? a b c d with
    | some code => (readPieces s).map fun (ps, rest) => (.unit code :: ps, rest)
    | none => none
  | some '\\' :: some letter :: s =>
    match unescaped? letter with
    | some c => (readPieces s).map fun (ps, rest) => (.char c :: ps, rest)
    | none => none
  | some c :: s =>
    if c = '\\' ∨ c.toNat < 32 then none
    else (readPieces s).map fun (ps, rest) => (.char c :: ps, rest)
  | none :: s => (readPieces s).map fun (ps, rest) => (.stray :: ps, rest)
  | [] => none

def isHighSurrogate (code : Nat) : Bool := 0xD800 ≤ code && code < 0xDC00

def isLowSurrogate (code : Nat) : Bool := 0xDC00 ≤ code && code < 0xE000

/-- The characters that pieces stand for. A stray byte stands for none, nor does half of a
surrogate pair. -/
def join? : List Piece → Option (List Char)
  | [] => some []
  | .char c :: ps => (join? ps).map (c :: ·)
  | .stray :: _ => none
  | .unit code :: ps =>
    if isHighSurrogate code then
      match ps with
      | .unit next :: ps =>
        if isLowSurrogate next then
          (join? ps).map (Char.ofNat (0x10000 + (code - 0xD800) * 0x400 + (next - 0xDC00)) :: ·)
        else none
      | _ => none
    else if isLowSurrogate code then none
    else (join? ps).map (Char.ofNat code :: ·)

def readString (s : List Symbol) : Option (Option String × List Symbol) :=
  (readPieces s).map fun (ps, rest) => ((join? ps).map String.ofList, rest)

/-! ## Values -/

mutual

/-- A value, with the blanks before it. `fuel` bounds the nesting and the lengths together. -/
def readValue (fuel : Nat) (s : List Symbol) : Option (Json × List Symbol) :=
  match fuel with
  | 0 => none
  | fuel + 1 =>
    match skipSeparators s with
    | some '"' :: s => (readString s).map fun (text, rest) => (.string text, rest)
    | some '[' :: s =>
      match skipSeparators s with
      | some ']' :: rest => some (.array [], rest)
      | s => (readItems fuel s).map fun (items, rest) => (.array items, rest)
    | some '\x7b' :: s =>
      match skipSeparators s with
      | some '\x7d' :: rest => some (.object [], rest)
      | s => (readMembers fuel s).map fun (members, rest) => (.object members, rest)
    | some 'n' :: s => (afterWord ['u', 'l', 'l'] s).map fun rest => (.null, rest)
    | some 't' :: s => (afterWord ['r', 'u', 'e'] s).map fun rest => (.bool true, rest)
    | some 'f' :: s => (afterWord ['a', 'l', 's', 'e'] s).map fun rest => (.bool false, rest)
    | s => (readNumeral s).map fun (n, rest) => (.number n, rest)

/-- The values of an array, at least one, up to its closing bracket. -/
def readItems (fuel : Nat) (s : List Symbol) : Option (List Json × List Symbol) :=
  match fuel with
  | 0 => none
  | fuel + 1 =>
    match readValue fuel s with
    | none => none
    | some (item, s) =>
      match skipSeparators s with
      | some ',' :: s => (readItems fuel s).map fun (items, rest) => (item :: items, rest)
      | some ']' :: rest => some ([item], rest)
      | _ => none

/-- The members of an object, at least one, up to its closing brace. -/
def readMembers (fuel : Nat) (s : List Symbol) :
    Option (List (Option String × Json) × List Symbol) :=
  match fuel with
  | 0 => none
  | fuel + 1 =>
    match skipSeparators s with
    | some '"' :: s =>
      match readString s with
      | none => none
      | some (name, s) =>
        match skipSeparators s with
        | some ':' :: s =>
          match readValue fuel s with
          | none => none
          | some (value, s) =>
            match skipSeparators s with
            | some ',' :: s =>
              (readMembers fuel s).map fun (members, rest) => ((name, value) :: members, rest)
            | some '\x7d' :: rest => some ([(name, value)], rest)
            | _ => none
        | _ => none
    | _ => none

end

/-- The value that symbols are the text of, blanks around it allowed. -/
def ofSymbols? (s : List Symbol) : Option Json :=
  match readValue (2 * s.length + 1) s with
  | some (j, rest) => if (skipSeparators rest).isEmpty then some j else none
  | none => none

def ofBytes? (bytes : ByteArray) : Option Json :=
  ofSymbols? (symbols bytes)

def ofText? (s : String) : Option Json :=
  ofSymbols? (s.toList.map some)

end Steward.Json
