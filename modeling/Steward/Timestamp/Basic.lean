import Steward.Timestamp.Calendar

/-!
# Timestamps

Moments of coordinated universal time, to the nanosecond. A leap second is the 59th second of its
minute with a thousand million nanoseconds more.
-/

namespace Steward

open Steward.Calendar

namespace Timestamp

/-- The first and the last second that a timestamp can lie in. -/
def firstSecond : Int := -8334601228800

def lastSecond : Int := 8210266876799

end Timestamp

/-- A moment: seconds since the first of January 1970, and nanoseconds within the second. -/
structure Timestamp where
  seconds : Int
  nanos : Nat
  nanos_lt : nanos < 2000000000
  leap : 1000000000 ≤ nanos → seconds % 60 = 59
  first_le : Timestamp.firstSecond ≤ seconds
  le_last : seconds ≤ Timestamp.lastSecond
deriving DecidableEq

namespace Timestamp

/-- The moment with given seconds and nanoseconds, if there is one. -/
def make? (seconds : Int) (nanos : Nat) : Option Timestamp :=
  if h : nanos < 2000000000 ∧ (1000000000 ≤ nanos → seconds % 60 = 59) ∧
      firstSecond ≤ seconds ∧ seconds ≤ lastSecond then
    some ⟨seconds, nanos, h.1, h.2.1, h.2.2.1, h.2.2.2⟩
  else none

/-- The first of January 1970. -/
def epoch : Timestamp :=
  ⟨0, 0, by decide, by decide, by decide, by decide⟩

/-- The moment so many nanoseconds after the epoch; the epoch itself if that is too far away. -/
def ofNanos (n : Nat) : Timestamp :=
  (make? ((n / 1000000000 : Nat) : Int) (n % 1000000000)).getD epoch

instance : LT Timestamp where
  lt a b := a.seconds < b.seconds ∨ (a.seconds = b.seconds ∧ a.nanos < b.nanos)

instance : LE Timestamp where
  le a b := a.seconds < b.seconds ∨ (a.seconds = b.seconds ∧ a.nanos ≤ b.nanos)

instance (a b : Timestamp) : Decidable (a < b) :=
  inferInstanceAs (Decidable (_ ∨ (_ ∧ _)))

instance (a b : Timestamp) : Decidable (a ≤ b) :=
  inferInstanceAs (Decidable (_ ∨ (_ ∧ _)))

/-- The moment one microsecond later. It stays in a leap second as long as it lasts; past the last
second there is none. -/
def afterMicrosecond? (t : Timestamp) : Option Timestamp :=
  if 1000000000 ≤ t.nanos then
    if t.nanos + 1000 < 2000000000 then make? t.seconds (t.nanos + 1000)
    else make? (t.seconds + 1) (t.nanos + 1000 - 2000000000)
  else if t.nanos + 1000 < 1000000000 then make? t.seconds (t.nanos + 1000)
  else make? (t.seconds + 1) (t.nanos + 1000 - 1000000000)

/-- The moment to record for a change made at `now` to something last changed at `previous`: never
at or before the previous one, even if the clock has not moved. -/
def next? (previous : Option Timestamp) (now : Timestamp) : Option Timestamp :=
  match previous with
  | none => some now
  | some previous => if now ≤ previous then previous.afterMicrosecond? else some now

end Timestamp

end Steward
