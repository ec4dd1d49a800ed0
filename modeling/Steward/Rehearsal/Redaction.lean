import Steward.Json.Access
import Steward.Json.Printer
import Steward.Json.Sorted
import Steward.Kind
import Steward.Text.Base32
import Steward.Text.Word
import Steward.Timestamp.Text

/-!
# Redaction

Documents that stay the same from one rehearsal to the next. Generated ids are numbered for each
kind, in the order in which they are met, and moments that come from the clock are replaced by what
can be said about them without knowing the time.
-/

namespace Steward

/-- What a redaction has to know: the clock of the rehearsal, and the numbers given so far. -/
structure Redaction where
  /-- The first reading of the clock. -/
  start : Timestamp
  /-- A moment after all readings of the clock. -/
  limit : Timestamp
  /-- Real ids with their numbered form. -/
  known : List (String × String) := []

namespace Redaction

/-! ## Ids -/

/-- The letters of a kind that characters start with, if a hyphen follows. -/
def stemAt? (cs : List Char) : Option String :=
  (Kind.all.map Kind.idStem).find? fun stem => (stem ++ "-").toList.isPrefixOf cs

/-- The generated id that characters start with, and the letters of its kind. -/
def idAt? (cs : List Char) : Option (String × String) := do
  let stem ← stemAt? cs
  let unique := (cs.drop 4).take 26
  if unique.length = 26 && unique.head?.any (· < '8') && unique.all Text.base32Digits.contains &&
      !(cs.drop 30).head?.any Text.isWordChar then
    return (stem, String.ofList (cs.take 30))
  else none

/-- Numbers an id, unless it has a number. -/
def number (stem id : String) : StateM Redaction String := do
  let r ← get
  match r.known.lookup id with
  | some text => return text
  | none =>
    let count := (r.known.filter fun known => stem.toList.isPrefixOf known.1.toList).length
    let text := s!"{stem}-#{count + 1}"
    set { r with known := (id, text) :: r.known }
    return text

/-- Only marks an id that has no number. -/
def mark (stem id : String) : StateM Redaction String := do
  return ((← get).known.lookup id).getD s!"{stem}-#?"

/-- Replaces the ids in a text, but for those right after the character `before`, and leaves out
`skip` characters first. -/
def replaceIds (replace : String → String → StateM Redaction String) :
    Nat → Option Char → List Char → StateM Redaction (List Char)
  | _, _, [] => return []
  | skip + 1, _, c :: cs => replaceIds replace skip (some c) cs
  | 0, before, c :: cs => do
    match if before.any Text.isWordChar then none else idAt? (c :: cs) with
    | some (stem, id) =>
      let text ← replace stem id
      return text.toList ++ (← replaceIds replace (id.length - 1) (some c) cs)
    | none => return c :: (← replaceIds replace 0 (some c) cs)

/-! ## Messages -/

/-- A message without what the reader of JSON had to say. -/
def maskMessage (message : String) : String :=
  let mark := "serialization failure: "
  match message.splitOn mark with
  | before :: _ :: _ => before ++ mark ++ "<decode>"
  | _ => message

/-! ## Moments -/

/-- The moment comes from the clock of the rehearsal. -/
def isOfClock (r : Redaction) (t : Timestamp) : Bool :=
  r.start ≤ t && t < r.limit

/-- The moment at a name, if it comes from the clock. -/
def clockMoment? (r : Redaction) (document : Json) (name : String) : Option Timestamp :=
  ((document.textAt? name).bind Timestamp.ofText?).filter r.isOfClock

/-- What can be said about the moment at a name: that it is one of the clock, and how the moment of
the last change lies to that of the creation. -/
def relativeMoment? (r : Redaction) (document : Json) (name : String) : Option String :=
  match name, r.clockMoment? document "created_at", r.clockMoment? document "updated_at" with
  | "created_at", some _, _ => some "now"
  | "updated_at", none, some _ => some "now"
  | "updated_at", some created, some updated =>
    some (if updated = created then "now" else if created < updated then "now+" else "now-")
  | _, _, _ => none

/-! ## Documents -/

mutual

/-- Replaces the ids and the moments in a sorted document. -/
def replaceAll (replace : String → String → StateM Redaction String) :
    Json → StateM Redaction Json
  | .string (some s) => do
    return .text (String.ofList (← replaceIds replace 0 none s.toList))
  | .array items => do return .array (← replaceInItems replace items)
  | .object members => do
    return .object (← replaceInMembers replace (.object members) members)
  | j => return j

def replaceInItems (replace : String → String → StateM Redaction String) :
    List Json → StateM Redaction (List Json)
  | [] => return []
  | item :: items => return (← replaceAll replace item) :: (← replaceInItems replace items)

def replaceInMembers (replace : String → String → StateM Redaction String) (whole : Json) :
    List (Option String × Json) → StateM Redaction (List (Option String × Json))
  | [] => return []
  | (name, value) :: members => do
    let value ← match (← get).relativeMoment? whole (name.getD "") with
      | some text => pure (.text text)
      | none => replaceAll replace value
    return (name, value) :: (← replaceInMembers replace whole members)

end

/-- The redacted form of a document. -/
def redact (j : Json) : StateM Redaction Json :=
  replaceAll number j.sorted

/-- The redacted forms of documents that come in no order: they are sorted by their texts with
unnumbered ids marked, and numbered after that. -/
def redactAll (documents : List Json) : StateM Redaction (List Json) := do
  let r ← get
  let marked := documents.map fun j => (((replaceAll mark j.sorted).run r).1.compact, j)
  (marked.mergeSort fun a b => decide (a.1 ≤ b.1)).mapM fun entry => redact entry.2

/-! ## The way back -/

/-- A numbered id that characters start with. -/
def numberedAt? (cs : List Char) : Option String := do
  let _ ← stemAt? cs
  let digits := (cs.drop 5).takeWhile Char.isDigit
  if cs[4]? = some '#' && !digits.isEmpty &&
      !(cs.drop (5 + digits.length)).head?.any Text.isWordChar then
    return String.ofList (cs.take (5 + digits.length))
  else none

/-- Puts the real ids in the place of numbered ones, but for those right after the character
`before`, and leaves out `skip` characters first. -/
def restoreIds (r : Redaction) : Nat → Option Char → List Char → List Char
  | _, _, [] => []
  | skip + 1, _, c :: cs => restoreIds r skip (some c) cs
  | 0, before, c :: cs =>
    match (if before.any Text.isWordChar then none else numberedAt? (c :: cs)).bind
        fun text => r.known.find? (·.2 = text) with
    | some (id, text) => id.toList ++ restoreIds r (text.length - 1) (some c) cs
    | none => c :: restoreIds r 0 (some c) cs

/-- The document with the real ids in the place of numbered ones. -/
def restore (r : Redaction) (j : Json) : Json :=
  j.mapTexts fun s => String.ofList (r.restoreIds 0 none s.toList)

end Redaction

end Steward
