import Steward.Text.Base32
import Steward.Timestamp.Basic

/-!
# Supplies

What a program takes from outside one at a time: readings of the clock, identifying texts. A supply
is the whole sequence of them, with the number of those already taken.
-/

namespace Steward

structure Supply (α : Type) where
  draw : Nat → α
  used : Nat := 0

namespace Supply

/-- The next value, and the supply without it. -/
def next {α : Type} (s : Supply α) : α × Supply α :=
  (s.draw s.used, { s with used := s.used + 1 })

/-- The readings of a clock that starts so many nanoseconds after the epoch and is a microsecond
further each time. -/
def clock (start : Nat) : Supply Timestamp where
  draw i := Timestamp.ofNanos (start + 1000 * i)

/-- Identifying texts for a moment, in milliseconds, counted up from a random number. -/
def ids (moment random : Nat) : Supply String where
  draw i := Text.identifier moment (random + i)

end Supply

end Steward
