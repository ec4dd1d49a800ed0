import Steward.Json.Basic

/-!
# Forms of documents

The sorted form of a document, whose objects hold each name once, in the order of names; and the
kept form, whose numbers are written as they are kept. Keeping a number that has been kept before
may round it once more.
-/

namespace Steward.Json

/-- Puts a member in its place, unless there is one of its name already. -/
def insertMember (name : String) (value : Json) : List (String × Json) → List (String × Json)
  | [] => [(name, value)]
  | (other, there) :: members =>
    if name < other then (name, value) :: (other, there) :: members
    else if other < name then (other, there) :: insertMember name value members
    else (other, there) :: members

mutual

/-- The sorted form of a document. Of several members with one name the last counts. -/
def sorted : Json → Json
  | .array items => .array (sortedItems items)
  | .object members => .record (sortedMembers members)
  | j => j

def sortedItems : List Json → List Json
  | [] => []
  | item :: items => sorted item :: sortedItems items

def sortedMembers : List (Option String × Json) → List (String × Json)
  | [] => []
  | (name, value) :: members => insertMember (name.getD "") (sorted value) (sortedMembers members)

end

mutual

/-- The document with its numbers as they are kept. -/
def kept : Json → Json
  | .number n => .number n.kept
  | .array items => .array (keptItems items)
  | .object members => .object (keptMembers members)
  | j => j

def keptItems : List Json → List Json
  | [] => []
  | item :: items => kept item :: keptItems items

def keptMembers : List (Option String × Json) → List (Option String × Json)
  | [] => []
  | (name, value) :: members => (name, kept value) :: keptMembers members

end

mutual

/-- The document with every text changed that is not the name of a member. -/
def mapTexts (f : String → String) : Json → Json
  | .string s => .string (s.map f)
  | .array items => .array (mapItemTexts f items)
  | .object members => .object (mapMemberTexts f members)
  | j => j

def mapItemTexts (f : String → String) : List Json → List Json
  | [] => []
  | item :: items => mapTexts f item :: mapItemTexts f items

def mapMemberTexts (f : String → String) :
    List (Option String × Json) → List (Option String × Json)
  | [] => []
  | (name, value) :: members => (name, mapTexts f value) :: mapMemberTexts f members

end

end Steward.Json
