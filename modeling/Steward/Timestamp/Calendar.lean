/-!
# The calendar

Days of the Gregorian calendar, carried backwards before its introduction, counted from the first
of January 1970. Inside a cycle of 400 years the years begin in March, so that a leap day is the
last day of its year.
-/

namespace Steward.Calendar

structure Date where
  year : Int
  month : Nat
  day : Nat
deriving DecidableEq

def isLeapYear (year : Int) : Bool :=
  (year % 4 == 0 && year % 100 != 0) || year % 400 == 0

def daysIn (year : Int) (month : Nat) : Nat :=
  match month with
  | 2 => if isLeapYear year then 29 else 28
  | 4 => 30
  | 6 => 30
  | 9 => 30
  | 11 => 30
  | _ => 31

namespace Date

/-- The month and the day exist. -/
def isValid (date : Date) : Bool :=
  1 ≤ date.month && date.month ≤ 12 && 1 ≤ date.day && date.day ≤ daysIn date.year date.month

/-- The day's number, counted from the first of January 1970. -/
def toDays (date : Date) : Int :=
  let year := if date.month ≤ 2 then date.year - 1 else date.year
  let month := if date.month ≤ 2 then date.month + 9 else date.month - 3
  let yearOfCycle := year % 400
  (year / 400) * 146097 + yearOfCycle * 365 + yearOfCycle / 4 - yearOfCycle / 100 +
    ((153 * month + 2) / 5 : Nat) + date.day - 1 - 719468

def ofDays (days : Int) : Date :=
  let shifted := days + 719468
  let dayOfCycle := (shifted % 146097).toNat
  let century := min 3 (dayOfCycle / 36524)
  let dayOfCentury := dayOfCycle - 36524 * century
  let olympiad := dayOfCentury / 1461
  let dayOfOlympiad := dayOfCentury - 1461 * olympiad
  let yearOfOlympiad := min 3 (dayOfOlympiad / 365)
  let dayOfYear := dayOfOlympiad - 365 * yearOfOlympiad
  let month := (5 * dayOfYear + 2) / 153
  let year := (shifted / 146097) * 400 + (100 * century + 4 * olympiad + yearOfOlympiad : Nat)
  let day := dayOfYear - (153 * month + 2) / 5 + 1
  if month < 10 then ⟨year, month + 3, day⟩ else ⟨year + 1, month - 9, day⟩

end Date

end Steward.Calendar
