import Steward.Timestamp.Basic
import Steward.Text.Blank
import Steward.Text.Digits

/-!
# Timestamps as text

A timestamp is written as date, `T`, time of day and `Z`, with the fewest of 0, 3, 6 or 9 digits
of the second's fraction that are exact. Reading is more lenient: blanks between the parts, a blank
for the `T`, fewer digits, and any offset from universal time.
-/

namespace Steward.Timestamp

open Steward.Text Steward.Calendar

/-! ## Writing -/

/-- A year: four digits, and outside of the years 0 to 9999 a sign in front. -/
def yearChars (year : Int) : List Char :=
  if 0 ≤ year ∧ year ≤ 9999 then digitChars (padded 4 year.toNat)
  else (if year < 0 then '-' else '+') :: digitChars (padded 4 year.natAbs)

def pair (n : Nat) : List Char :=
  digitChars (padded 2 n)

/-- The fraction of a second, with its point. -/
def fractionChars (nanos : Nat) : List Char :=
  if nanos = 0 then []
  else if nanos % 1000000 = 0 then '.' :: digitChars (padded 3 (nanos / 1000000))
  else if nanos % 1000 = 0 then '.' :: digitChars (padded 6 (nanos / 1000))
  else '.' :: digitChars (padded 9 nanos)

/-- The text of a timestamp. The leap second is written as the sixtieth. -/
def chars (t : Timestamp) : List Char :=
  let date := Date.ofDays (t.seconds / 86400)
  let timeOfDay := (t.seconds % 86400).toNat
  let isLeap := 1000000000 ≤ t.nanos
  let second := if isLeap then timeOfDay % 60 + 1 else timeOfDay % 60
  let nanos := if isLeap then t.nanos - 1000000000 else t.nanos
  yearChars date.year ++ '-' :: pair date.month ++ '-' :: pair date.day ++
    'T' :: pair (timeOfDay / 3600) ++ ':' :: pair (timeOfDay / 60 % 60) ++ ':' :: pair second ++
    fractionChars nanos ++ ['Z']

def text (t : Timestamp) : String :=
  String.ofList t.chars

/-! ## Reading -/

/-- The digits that a list of characters starts with, at most `width` of them. -/
def spanUpTo (width : Nat) (cs : List Char) : List Digit × List Char :=
  match width, cs with
  | 0, cs => ([], cs)
  | _, [] => ([], [])
  | width + 1, c :: cs =>
    match Digit.ofChar? c with
    | some d => (d :: (spanUpTo width cs).1, (spanUpTo width cs).2)
    | none => ([], c :: cs)

/-- A number of at most `width` digits after blanks. -/
def readNumber (width : Nat) (cs : List Char) : Option (Nat × List Char) :=
  match spanUpTo width (dropBlanks cs) with
  | ([], _) => none
  | (ds, rest) => some (value ds, rest)

def readLongNumber (cs : List Char) : Option (Nat × List Char) :=
  match spanDigits cs with
  | ([], _) => none
  | (ds, rest) => some (value ds, rest)

/-- A year after blanks: up to four digits, or any number with a sign. -/
def readYear (cs : List Char) : Option (Int × List Char) :=
  match dropBlanks cs with
  | '-' :: cs => (readLongNumber cs).map fun (n, rest) => (-(n : Int), rest)
  | '+' :: cs => (readLongNumber cs).map fun (n, rest) => ((n : Int), rest)
  | cs => (readNumber 4 cs).map fun (n, rest) => ((n : Int), rest)

/-- A given character after blanks. -/
def readMark (mark : Char) (cs : List Char) : Option (List Char) :=
  match dropBlanks cs with
  | c :: rest => if c = mark then some rest else none
  | [] => none

/-- The letter or blank between date and time. -/
def readDivider : List Char → Option (List Char)
  | 'T' :: rest => some rest
  | 't' :: rest => some rest
  | ' ' :: rest => some rest
  | _ => none

/-- The nanoseconds of a fraction, of which only nine digits count. -/
def readFraction : List Char → Option (Nat × List Char)
  | '.' :: cs =>
    match spanDigits cs with
    | ([], _) => none
    | (ds, rest) =>
      let kept := ds.take 9
      some (value kept * Nat.pow 10 (9 - kept.length), rest)
  | cs => some (0, cs)

/-- Two digits without blanks before them. -/
def readPair : List Char → Option (Nat × List Char)
  | a :: b :: rest => do
    let tens ← Digit.ofChar? a
    let units ← Digit.ofChar? b
    return (10 * tens.val + units.val, rest)
  | _ => none

/-- What may stand between the hours and minutes of an offset. -/
def isOffsetGap (c : Char) : Bool :=
  c = ':' || isBlank c

/-- The offset in seconds from its hours and minutes. -/
def readOffsetTime (cs : List Char) : Option (Int × List Char) := do
  let (hours, cs) ← readPair cs
  let (minutes, cs) ← readPair (cs.dropWhile isOffsetGap)
  if hours < 24 ∧ minutes < 60 then
    return (hours * 3600 + minutes * 60, cs)
  else none

/-- The offset from universal time, in seconds. -/
def readOffset (cs : List Char) : Option (Int × List Char) :=
  match cs with
  | a :: b :: c :: rest =>
    if [a, b, c].map Char.toUpper = ['U', 'T', 'C'] then some (0, rest) else signed cs
  | cs => signed cs
where
  /-- An offset given by a letter or by a signed time. -/
  signed : List Char → Option (Int × List Char)
    | 'Z' :: rest => some (0, rest)
    | 'z' :: rest => some (0, rest)
    | '+' :: cs => readOffsetTime cs
    | '-' :: cs => (readOffsetTime cs).map fun (offset, rest) => (-offset, rest)
    | '\u2212' :: cs => (readOffsetTime cs).map fun (offset, rest) => (-offset, rest)
    | _ => none

/-- The moment at a day and time of day that are ahead of universal time by `offset` seconds. -/
def ofCivil? (date : Date) (hour minute second nanos : Nat) (offset : Int) : Option Timestamp :=
  if date.isValid && -262143 ≤ date.year && date.year ≤ 262142 && hour < 24 && minute < 60 &&
      second ≤ 60 then
    let wholeSecond := min second 59
    let nanos := if second = 60 then nanos + 1000000000 else nanos
    make? (date.toDays * 86400 + (hour * 3600 + minute * 60 + wholeSecond : Nat) - offset) nanos
  else none

def ofChars? (cs : List Char) : Option Timestamp := do
  let (year, cs) ← readYear cs
  let cs ← readMark '-' cs
  let (month, cs) ← readNumber 2 cs
  let cs ← readMark '-' cs
  let (day, cs) ← readNumber 2 cs
  let cs ← readDivider cs
  let (hour, cs) ← readNumber 2 cs
  let cs ← readMark ':' cs
  let (minute, cs) ← readNumber 2 cs
  let cs ← readMark ':' cs
  let (second, cs) ← readNumber 2 cs
  let (nanos, cs) ← readFraction cs
  let (offset, cs) ← readOffset (dropBlanks cs)
  if cs.all isBlank then ofCivil? ⟨year, month, day⟩ hour minute second nanos offset else none

def ofText? (s : String) : Option Timestamp :=
  ofChars? s.toList

end Steward.Timestamp
