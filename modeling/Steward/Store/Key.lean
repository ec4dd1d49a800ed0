import Steward.Store.Failure

/-!
# Keys

A value is stored under a kind and an id. Both are single segments of a path: neither empty nor
hidden, and without separators or the name of a parent directory.
-/

namespace Steward.Store

structure Key where
  kind : String
  id : String
deriving DecidableEq

namespace Key

def text (key : Key) : String :=
  s!"{key.kind}/{key.id}"

end Key

/-- The characters contain two dots in a row. -/
def hasDoubleDot : List Char → Bool
  | '.' :: '.' :: _ => true
  | _ :: cs => hasDoubleDot cs
  | [] => false

/-- The text can be a segment of a key. -/
def isSegment (s : String) : Bool :=
  let cs := s.toList
  !cs.isEmpty && cs.head? != some '.' && !cs.any (fun c => c = '/' || c = '\\') && !hasDoubleDot cs

/-- Refuses a text that cannot be a segment of a key. -/
def checkSegment (s : String) : Except Failure Unit :=
  if isSegment s then .ok () else .error (.invalidKey s!"'{s}'")

/-- Refuses a key of which the kind, or else the id, cannot be a segment. -/
def checkKey (key : Key) : Except Failure Unit := do
  checkSegment key.kind
  checkSegment key.id

end Steward.Store
