import Steward.Proofs.Calendar
import Steward.Proofs.Digits

/-!
# Timestamps that are written are read

Every timestamp has a text that stands for it, and no other. Main statements: `ofText?_text`, and
`lt_of_next?`, which says that the moment recorded for a change lies after the one before.
-/

namespace Steward.Timestamp

open Steward.Text Steward.Calendar

/-! ## Parts of the text -/

theorem dropBlanks_digitChars {ds : List Digit} (some_digit : ds ≠ []) (rest : List Char) :
    dropBlanks (digitChars ds ++ rest) = digitChars ds ++ rest := by
  cases ds with
  | nil => exact absurd rfl some_digit
  | cons d ds => simp [dropBlanks, digitChars, isBlank_toChar]

/-- A number is read back if it was written to the width that reading expects. -/
theorem readNumber_padded {width n : Nat} (positive : 0 < width) (small : n < 10 ^ width)
    (rest : List Char) :
    readNumber width (digitChars (padded width n) ++ rest) = some (n, rest) := by
  have span := spanUpTo_digitChars (padded width n) rest
  rw [length_padded positive small] at span
  rw [readNumber, dropBlanks_digitChars (padded_ne_nil width n), span]
  have nonempty := padded_ne_nil width n
  have value := value_padded width n
  cases same : padded width n with
  | nil => exact absurd same nonempty
  | cons d ds => simp [← same, value]

theorem readNumber_pair {n : Nat} (small : n < 100) (rest : List Char) :
    readNumber 2 (pair n ++ rest) = some (n, rest) :=
  readNumber_padded (by decide) (by simpa using small) rest

theorem readLongNumber_padded (width n : Nat) {rest : List Char} (ends : EndsDigits rest) :
    readLongNumber (digitChars (padded width n) ++ rest) = some (n, rest) := by
  rw [readLongNumber, spanDigits_digitChars _ ends]
  have nonempty := padded_ne_nil width n
  have value := value_padded width n
  cases same : padded width n with
  | nil => exact absurd same nonempty
  | cons d ds => simp [← same, value]

theorem endsDigits_minus (rest : List Char) : EndsDigits ('-' :: rest) := by
  intro c first
  cases first
  decide

theorem readYear_yearChars (year : Int) (rest : List Char) :
    readYear (yearChars year ++ '-' :: rest) = some (year, '-' :: rest) := by
  have ends := endsDigits_minus rest
  unfold yearChars
  split
  · next inside =>
    have small : year.toNat < 10 ^ 4 := by omega
    have read := readNumber_padded (by decide : 0 < 4) small ('-' :: rest)
    have whole : (year.toNat : Int) = year := by omega
    unfold readYear
    rw [dropBlanks_digitChars (padded_ne_nil _ _)]
    have nonempty := padded_ne_nil 4 year.toNat
    cases same : padded 4 year.toNat with
    | nil => exact absurd same nonempty
    | cons d ds =>
      rw [same] at read
      simp only [digitChars, List.map_cons, List.cons_append] at read ⊢
      split
      · next first => exact absurd (List.cons.inj first).1 (toChar_ne_minus d)
      · next first => exact absurd (List.cons.inj first).1 (toChar_ne_plus d)
      · simp [read, whole]
  · next outside =>
    by_cases negative : year < 0
    · have size : -(year.natAbs : Int) = year := by omega
      simp only [negative, if_true, List.cons_append]
      have blank : dropBlanks ('-' :: (digitChars (padded 4 year.natAbs) ++ '-' :: rest)) =
          '-' :: (digitChars (padded 4 year.natAbs) ++ '-' :: rest) := rfl
      rw [readYear, blank]
      simp only [readLongNumber_padded 4 _ ends, Option.map_some, size]
    · have size : (year.natAbs : Int) = year := by omega
      simp only [negative, if_false, List.cons_append]
      have blank : dropBlanks ('+' :: (digitChars (padded 4 year.natAbs) ++ '-' :: rest)) =
          '+' :: (digitChars (padded 4 year.natAbs) ++ '-' :: rest) := rfl
      rw [readYear, blank]
      simp only [readLongNumber_padded 4 _ ends, Option.map_some, size]

theorem readMark_mark {mark : Char} (seen : isBlank mark = false) (rest : List Char) :
    readMark mark (mark :: rest) = some rest := by
  simp [readMark, dropBlanks, seen]

/-- The digits of a fraction, at most nine of them, stand for so many nanoseconds. -/
theorem readFraction_padded {width n : Nat} (positive : 0 < width) (atMost : width ≤ 9)
    (small : n < 10 ^ width) {rest : List Char} (ends : EndsDigits rest) :
    readFraction ('.' :: digitChars (padded width n) ++ rest) =
      some (n * 10 ^ (9 - width), rest) := by
  have nonempty := padded_ne_nil width n
  have value := value_padded width n
  have length := length_padded positive small
  rw [List.cons_append, readFraction, spanDigits_digitChars _ ends]
  generalize padded width n = ds at *
  cases ds with
  | nil => exact absurd rfl nonempty
  | cons d ds =>
    simp only [List.take_of_length_le (length.trans_le atMost), value, length]
    rfl

theorem readFraction_fractionChars {nanos : Nat} (small : nanos < 1000000000) :
    readFraction (fractionChars nanos ++ ['Z']) = some (nanos, ['Z']) := by
  have ends : EndsDigits ['Z'] := by
    intro c first
    cases first
    decide
  unfold fractionChars
  split
  · next zero => subst zero; rfl
  split
  · next millis =>
    rw [readFraction_padded (by decide) (by decide) (by omega) ends]
    simp only [Nat.reducePow, Nat.reduceSub, Option.some.injEq, Prod.mk.injEq, and_true]
    omega
  split
  · next micros =>
    rw [readFraction_padded (by decide) (by decide) (by omega) ends]
    simp only [Nat.reducePow, Nat.reduceSub, Option.some.injEq, Prod.mk.injEq, and_true]
    omega
  · rw [readFraction_padded (by decide) (by decide) (by omega) ends]
    simp

/-! ## The whole text -/

/-- The seconds of a timestamp are those of its date and its time of day. -/
theorem seconds_eq (t : Timestamp) :
    (Date.ofDays (t.seconds / 86400)).toDays * 86400 +
      ((t.seconds % 86400).toNat / 3600 * 3600 + (t.seconds % 86400).toNat / 60 % 60 * 60 +
        (t.seconds % 86400).toNat % 60 : Nat) = t.seconds := by
  rw [Date.toDays_ofDays]
  omega

theorem make?_self (t : Timestamp) : make? t.seconds t.nanos = some t := by
  rw [make?, dif_pos ⟨t.nanos_lt, t.leap, t.first_le, t.le_last⟩]

/-- The moment at the date and time of day of a timestamp is the timestamp. In a leap second the
59th second is named the sixtieth. -/
theorem ofCivil?_self (t : Timestamp) :
    ofCivil? (Date.ofDays (t.seconds / 86400)) ((t.seconds % 86400).toNat / 3600)
      ((t.seconds % 86400).toNat / 60 % 60)
      (if 1000000000 ≤ t.nanos then (t.seconds % 86400).toNat % 60 + 1
        else (t.seconds % 86400).toNat % 60)
      (if 1000000000 ≤ t.nanos then t.nanos - 1000000000 else t.nanos) 0 = some t := by
  have valid := Date.isValid_ofDays (t.seconds / 86400)
  have bounds := Date.year_bounds t.first_le t.le_last
  have whole := seconds_eq t
  have hour : (t.seconds % 86400).toNat / 3600 < 24 := by omega
  have minute : (t.seconds % 86400).toNat / 60 % 60 < 60 := by omega
  have made := make?_self t
  unfold ofCivil?
  by_cases leap : 1000000000 ≤ t.nanos
  · have last := t.leap leap
    have second : (t.seconds % 86400).toNat % 60 = 59 := by omega
    rw [second] at whole
    simp only [leap, if_true, second, valid, bounds.1, bounds.2, hour, minute, decide_true,
      Bool.and_true, Nat.reduceAdd, Nat.reduceLeDiff, Nat.min_def, if_false, sub_zero, whole,
      Nat.sub_add_cancel leap, made]
  · have second : (t.seconds % 86400).toNat % 60 < 60 := by omega
    have atMost : (t.seconds % 86400).toNat % 60 ≤ 60 := by omega
    have below : min ((t.seconds % 86400).toNat % 60) 59 = (t.seconds % 86400).toNat % 60 := by
      omega
    have other : (t.seconds % 86400).toNat % 60 ≠ 60 := by omega
    simp only [leap, if_false, valid, bounds.1, bounds.2, hour, minute, atMost, decide_true,
      Bool.and_true, if_true, below, other, sub_zero, whole, made]

/-- Reading goes on with what was read first. -/
theorem read_then {α β : Type} {first : Option α} {a : α} (read : first = some a)
    {next : α → Option β} {out : Option β} (rest : next a = out) : (first >>= next) = out := by
  rw [read]
  exact rest

theorem ofChars?_chars (t : Timestamp) : ofChars? t.chars = some t := by
  have bounds := Date.isValid_ofDays (t.seconds / 86400)
  simp only [Date.isValid, Bool.and_eq_true, decide_eq_true_eq] at bounds
  obtain ⟨⟨⟨-, monthLe⟩, -⟩, dayLe⟩ := bounds
  have days : Calendar.daysIn (Date.ofDays (t.seconds / 86400)).year
      (Date.ofDays (t.seconds / 86400)).month ≤ 31 := by
    unfold Calendar.daysIn; split <;> (try split) <;> omega
  have nanos := t.nanos_lt
  have second : (if 1000000000 ≤ t.nanos then (t.seconds % 86400).toNat % 60 + 1
      else (t.seconds % 86400).toNat % 60) < 100 := by split <;> omega
  have fraction : (if 1000000000 ≤ t.nanos then t.nanos - 1000000000 else t.nanos) <
      1000000000 := by split <;> omega
  simp only [chars, List.append_assoc, List.cons_append]
  unfold ofChars?
  refine read_then (readYear_yearChars _ _) ?_
  refine read_then (readMark_mark (by decide) _) ?_
  refine read_then (readNumber_pair (by omega) _) ?_
  refine read_then (readMark_mark (by decide) _) ?_
  refine read_then (readNumber_pair (by omega) _) ?_
  refine read_then (rfl : readDivider ('T' :: _) = some _) ?_
  refine read_then (readNumber_pair (by omega) _) ?_
  refine read_then (readMark_mark (by decide) _) ?_
  refine read_then (readNumber_pair (by omega) _) ?_
  refine read_then (readMark_mark (by decide) _) ?_
  refine read_then (readNumber_pair second _) ?_
  refine read_then (readFraction_fractionChars fraction) ?_
  exact ofCivil?_self t

theorem ofText?_text (t : Timestamp) : ofText? t.text = some t := by
  rw [ofText?, text, String.toList_ofList, ofChars?_chars]

/-! ## Order -/

theorem le_refl (t : Timestamp) : t ≤ t :=
  Or.inr ⟨rfl, Nat.le_refl _⟩

theorem lt_irrefl (t : Timestamp) : ¬ t < t := by
  rintro (less | ⟨-, less⟩)
  · exact Int.lt_irrefl _ less
  · exact Nat.lt_irrefl _ less

theorem le_of_lt {a b : Timestamp} (less : a < b) : a ≤ b :=
  less.imp id fun same => ⟨same.1, Nat.le_of_lt same.2⟩

theorem lt_of_le_of_lt {a b c : Timestamp} (first : a ≤ b) (second : b < c) : a < c := by
  rcases first with first | ⟨same, first⟩ <;> rcases second with second | ⟨same', second⟩
  · exact Or.inl (by omega)
  · exact Or.inl (by omega)
  · exact Or.inl (by omega)
  · exact Or.inr ⟨by omega, by omega⟩

theorem lt_of_not_le {a b : Timestamp} (notLe : ¬ a ≤ b) : b < a := by
  have neither : ¬ (a.seconds < b.seconds ∨ (a.seconds = b.seconds ∧ a.nanos ≤ b.nanos)) := notLe
  show b.seconds < a.seconds ∨ (b.seconds = a.seconds ∧ b.nanos < a.nanos)
  omega

theorem of_make? {seconds : Int} {nanos : Nat} {t : Timestamp}
    (made : make? seconds nanos = some t) : t.seconds = seconds ∧ t.nanos = nanos := by
  unfold make? at made
  split at made
  · cases made; exact ⟨rfl, rfl⟩
  · cases made

theorem lt_afterMicrosecond? {t next : Timestamp} (after : t.afterMicrosecond? = some next) :
    t < next := by
  have small := t.nanos_lt
  show t.seconds < next.seconds ∨ (t.seconds = next.seconds ∧ t.nanos < next.nanos)
  unfold afterMicrosecond? at after
  split at after <;> split at after <;> obtain ⟨seconds, nanos⟩ := of_make? after <;> omega

/-- The moment recorded for a change lies after the one recorded before. -/
theorem lt_of_next? {previous now next : Timestamp}
    (recorded : next? (some previous) now = some next) : previous < next := by
  simp only [next?] at recorded
  split at recorded
  · exact lt_afterMicrosecond? recorded
  · next later =>
    cases recorded
    exact lt_of_not_le later

/-- There is a next moment, unless the one before is the last that can be represented. -/
theorem exists_next? {previous : Option Timestamp}
    (room : ∀ before, previous = some before → before.afterMicrosecond? ≠ none) (now : Timestamp) :
    ∃ moment, next? previous now = some moment := by
  cases previous with
  | none => exact ⟨now, rfl⟩
  | some before =>
    simp only [next?]
    split
    · exact Option.ne_none_iff_exists'.1 (room before rfl)
    · exact ⟨now, rfl⟩

end Steward.Timestamp
