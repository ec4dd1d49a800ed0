import Mathlib.Tactic.IntervalCases
import Steward.Timestamp.Basic

/-!
# The calendar counts days

A day's number and its date determine each other: the date that belongs to a number exists, and
counting up to it gives the number back. Main statements: `toDays_ofDays`, `isValid_ofDays`, and
`year_bounds`, which says that the days of a timestamp have years that can be written and read.
-/

namespace Steward.Calendar

/-- A day of the cycle of 400 years, taken apart: its century, the four years within that, the year
within these, and the day of the year that begins in March. -/
structure CycleDay where
  century : Nat
  olympiad : Nat
  year : Nat
  day : Nat

namespace CycleDay

/-- The parts of a day of the cycle, as `Date.ofDays` takes them. -/
def ofNat (dayOfCycle : Nat) : CycleDay :=
  let century := min 3 (dayOfCycle / 36524)
  let dayOfCentury := dayOfCycle - 36524 * century
  let olympiad := dayOfCentury / 1461
  let dayOfOlympiad := dayOfCentury - 1461 * olympiad
  let year := min 3 (dayOfOlympiad / 365)
  ⟨century, olympiad, year, dayOfOlympiad - 365 * year⟩

/-- The year within the cycle. -/
def yearOfCycle (d : CycleDay) : Nat :=
  100 * d.century + 4 * d.olympiad + d.year

/-- The parts lie in their ranges. The 366th day belongs to the last of four years, and the last
four years of a century lack it unless they are the last of the cycle. -/
structure InRange (d : CycleDay) : Prop where
  century_le : d.century ≤ 3
  olympiad_le : d.olympiad ≤ 24
  year_le : d.year ≤ 3
  day_le : d.day ≤ 365
  leap_year : d.day = 365 → d.year = 3
  leap_century : d.day = 365 → d.olympiad = 24 → d.century = 3

theorem inRange_ofNat {n : Nat} (inside : n < 146097) : InRange (ofNat n) := by
  constructor <;> simp only [ofNat] <;> omega

/-- Putting the parts together again. -/
theorem sum_ofNat (n : Nat) :
    36524 * (ofNat n).century + 1461 * (ofNat n).olympiad + 365 * (ofNat n).year +
      (ofNat n).day = n := by
  simp only [ofNat]
  omega

/-- The years before a year of the cycle have as many days as their parts say. -/
theorem days_before_year {d : CycleDay} (range : d.InRange) :
    d.yearOfCycle * 365 + d.yearOfCycle / 4 - d.yearOfCycle / 100 =
      36524 * d.century + 1461 * d.olympiad + 365 * d.year := by
  obtain ⟨century, olympiad, year, -, -, -⟩ := range
  have quarter : d.yearOfCycle / 4 = 25 * d.century + d.olympiad := by
    simp only [yearOfCycle]; omega
  have hundredth : d.yearOfCycle / 100 = d.century := by
    simp only [yearOfCycle]; omega
  rw [quarter, hundredth]
  simp only [yearOfCycle]
  omega

theorem yearOfCycle_lt {d : CycleDay} (range : d.InRange) : d.yearOfCycle < 400 := by
  obtain ⟨century, olympiad, year, -, -, -⟩ := range
  simp only [yearOfCycle]
  omega

end CycleDay

namespace Date

/-- The month, counted from March, of a day of the year that begins in March. -/
def monthOf (dayOfYear : Nat) : Nat :=
  (5 * dayOfYear + 2) / 153

/-- The days of the year that begins in March that lie before a month of it. -/
def daysBefore (month : Nat) : Nat :=
  (153 * month + 2) / 5

/-- A day of a month, of a year of some cycle, where months and years are counted from March. -/
def ofMarch (cycle : Int) (year month day : Nat) : Date :=
  if month < 10 then ⟨cycle * 400 + year, month + 3, day⟩
  else ⟨cycle * 400 + year + 1, month - 9, day⟩

/-- The date of a day in terms of its parts. -/
theorem ofDays_eq (days : Int) :
    ofDays days =
      let d := CycleDay.ofNat ((days + 719468) % 146097).toNat
      ofMarch ((days + 719468) / 146097) d.yearOfCycle (monthOf d.day)
        (d.day - daysBefore (monthOf d.day) + 1) := rfl

theorem daysBefore_le (day : Nat) : daysBefore (monthOf day) ≤ day := by
  simp only [daysBefore, monthOf]
  omega

theorem monthOf_le {day : Nat} (dayLe : day ≤ 365) : monthOf day ≤ 11 := by
  simp only [monthOf]
  omega

/-- Counting days when the months and years are counted from March. -/
theorem toDays_ofMarch (cycle : Int) {year month : Nat} (day : Nat) (yearLt : year < 400)
    (monthLe : month ≤ 11) :
    (ofMarch cycle year month day).toDays =
      cycle * 146097 + (year * 365 + year / 4 - year / 100 : Nat) + daysBefore month + day - 1 -
        719468 := by
  have cycleOf : (cycle * 400 + year) / 400 = cycle := by omega
  have yearOf : (cycle * 400 + year) % 400 = year := by omega
  by_cases early : month < 10
  · have late : ¬ month + 3 ≤ 2 := by omega
    simp only [ofMarch, early, if_true, toDays, late, if_false, cycleOf, yearOf,
      Nat.add_sub_cancel, daysBefore]
    omega
  · have first : month - 9 ≤ 2 := by omega
    have back : month - 9 + 9 = month := by omega
    simp only [ofMarch, early, if_false, toDays, first, if_true, back, add_sub_cancel_right,
      cycleOf, yearOf, daysBefore]
    omega

/-- Counting up to the date of a day gives the day. -/
theorem toDays_ofDays (days : Int) : (ofDays days).toDays = days := by
  have inside : ((days + 719468) % 146097).toNat < 146097 := by omega
  have range := CycleDay.inRange_ofNat inside
  have sum := CycleDay.sum_ofNat ((days + 719468) % 146097).toNat
  have before := CycleDay.days_before_year range
  rw [ofDays_eq]
  generalize CycleDay.ofNat ((days + 719468) % 146097).toNat = d at *
  have fits := daysBefore_le d.day
  simp only
  rw [toDays_ofMarch _ _ (CycleDay.yearOfCycle_lt range) (monthOf_le range.day_le), before]
  omega

/-- The length of a month counted from March. February is the last of them. -/
def marchLength (cycle : Int) (year month : Nat) : Nat :=
  if month < 11 then daysBefore (month + 1) - daysBefore month
  else if isLeapYear (cycle * 400 + year + 1) then 29 else 28

theorem isValid_ofMarch (cycle : Int) {year month day : Nat} (monthLe : month ≤ 11)
    (positive : 1 ≤ day) (dayLe : day ≤ marchLength cycle year month) :
    (ofMarch cycle year month day).isValid = true := by
  have sameLength :
      daysIn (ofMarch cycle year month day).year (ofMarch cycle year month day).month =
      marchLength cycle year month := by
    interval_cases month <;> rfl
  have sameDay : (ofMarch cycle year month day).day = day := by
    simp only [ofMarch]; split <;> rfl
  have monthOk : 1 ≤ (ofMarch cycle year month day).month ∧
      (ofMarch cycle year month day).month ≤ 12 := by
    simp only [ofMarch]; split <;> simp only <;> omega
  simp only [isValid, sameLength, sameDay, Bool.and_eq_true, decide_eq_true_eq]
  exact ⟨⟨monthOk, positive⟩, dayLe⟩

/-- The year after which a 366th day comes is a leap year. -/
theorem isLeapYear_of_lastDay (cycle : Int) {d : CycleDay} (range : d.InRange)
    (lastDay : d.day = 365) : isLeapYear (cycle * 400 + d.yearOfCycle + 1) = true := by
  obtain ⟨century, olympiad, -, -, leapYear, leapCentury⟩ := range
  have year := leapYear lastDay
  have last := leapCentury lastDay
  simp only [isLeapYear, CycleDay.yearOfCycle, Bool.or_eq_true, Bool.and_eq_true, beq_iff_eq,
    bne_iff_ne]
  omega

/-- A day of the year that begins in March lies in its month. -/
theorem day_le_marchLength (cycle : Int) {d : CycleDay} (range : d.InRange) :
    d.day - daysBefore (monthOf d.day) + 1 ≤ marchLength cycle d.yearOfCycle (monthOf d.day) := by
  have fits := daysBefore_le d.day
  have inMonth : d.day < daysBefore (monthOf d.day + 1) := by
    simp only [daysBefore, monthOf]; omega
  have dayLe := range.day_le
  by_cases early : monthOf d.day < 11
  · rw [marchLength, if_pos early]; omega
  · have february : monthOf d.day = 11 := by have := monthOf_le dayLe; omega
    have first : daysBefore 11 = 337 := rfl
    rw [marchLength, if_neg early, february, first]
    by_cases lastDay : d.day = 365
    · rw [isLeapYear_of_lastDay cycle range lastDay, if_pos rfl]; omega
    · split <;> omega

/-- The date of a day exists. -/
theorem isValid_ofDays (days : Int) : (ofDays days).isValid = true := by
  have inside : ((days + 719468) % 146097).toNat < 146097 := by omega
  have range := CycleDay.inRange_ofNat inside
  rw [ofDays_eq]
  exact isValid_ofMarch _ (monthOf_le range.day_le) (by omega) (day_le_marchLength _ range)

/-- The days of a timestamp have years that can be written and read. -/
theorem year_bounds {seconds : Int} (firstLe : Timestamp.firstSecond ≤ seconds)
    (leLast : seconds ≤ Timestamp.lastSecond) :
    -262143 ≤ (ofDays (seconds / 86400)).year ∧ (ofDays (seconds / 86400)).year ≤ 262142 := by
  simp only [Timestamp.firstSecond] at firstLe
  simp only [Timestamp.lastSecond] at leLast
  rw [ofDays_eq]
  generalize atCycle : (seconds / 86400 + 719468) / 146097 = cycle
  generalize atDay : ((seconds / 86400 + 719468) % 146097).toNat = dayOfCycle
  -- The first and the last day lie inside a cycle, so the day of the cycle decides as well.
  have inside : dayOfCycle < 146097 := by omega
  have cycles : -656 ≤ cycle ∧ cycle ≤ 655 := by omega
  have first : cycle = -656 → 93808 ≤ dayOfCycle := by omega
  have last : cycle = 655 → dayOfCycle ≤ 52169 := by omega
  clear atCycle atDay firstLe leLast
  have range := CycleDay.inRange_ofNat inside
  have sum := CycleDay.sum_ofNat dayOfCycle
  have small := CycleDay.yearOfCycle_lt range
  have before := CycleDay.days_before_year range
  have dayLe := range.day_le
  generalize CycleDay.ofNat dayOfCycle = d at *
  have atMonth : monthOf d.day = (5 * d.day + 2) / 153 := rfl
  simp only [ofMarch]
  split <;> simp only <;> omega

end Date

end Steward.Calendar
