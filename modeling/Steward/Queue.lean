import Steward.Failure

/-!
# Queues

How much room a queue of the program can have. An operation that asks for more breaks off.
-/

namespace Steward.Queue

/-- The largest number of entries that a queue can have room for. -/
def maxRoom : Nat := 2305843009213693951

/-- What an operation breaks off with that asks for more room. -/
def tooMuchRoom : String :=
  s!"a semaphore may not have more than MAX_PERMITS permits ({maxRoom})"

/-- Makes sure that there can be a queue with so much room. -/
def checkRoom (room : Nat) : Except Stop Unit :=
  if room ≤ maxRoom then .ok () else .error (.broken tooMuchRoom)

end Steward.Queue
