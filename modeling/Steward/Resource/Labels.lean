import Steward.Json.Record

/-!
# Labels

Named values on a resource, each name once, kept in the order of the names.
-/

namespace Steward

/-- Puts an entry into a list that is ordered by names, in place of one with the same name. -/
def insertEntry (name value : String) : List (String × String) → List (String × String)
  | [] => [(name, value)]
  | (other, kept) :: entries =>
    if name < other then (name, value) :: (other, kept) :: entries
    else if other < name then (other, kept) :: insertEntry name value entries
    else (name, value) :: entries

theorem mem_insertEntry {name value : String} {entry : String × String}
    {entries : List (String × String)} (h : entry ∈ insertEntry name value entries) :
    entry = (name, value) ∨ entry ∈ entries := by
  induction entries with
  | nil => simpa [insertEntry] using h
  | cons first entries ih =>
    obtain ⟨other, kept⟩ := first
    simp only [insertEntry] at h
    split at h
    · simpa using h
    · split at h
      · rcases List.mem_cons.1 h with rfl | h
        · simp
        · rcases ih h with h | h <;> simp [h]
      · rcases List.mem_cons.1 h with h | h <;> simp [h]

theorem pairwise_insertEntry {name value : String} {entries : List (String × String)}
    (h : entries.Pairwise fun a b => a.1 < b.1) :
    (insertEntry name value entries).Pairwise fun a b => a.1 < b.1 := by
  induction entries with
  | nil => simp [insertEntry]
  | cons first entries ih =>
    obtain ⟨other, kept⟩ := first
    obtain ⟨before, rest⟩ := List.pairwise_cons.1 h
    simp only [insertEntry]
    split
    · next less =>
      refine List.pairwise_cons.2 ⟨fun entry hentry => ?_, h⟩
      rcases List.mem_cons.1 hentry with rfl | hentry
      · exact less
      · exact String.lt_trans less (before entry hentry)
    · next notLess =>
      split
      · next greater =>
        refine List.pairwise_cons.2 ⟨fun entry hentry => ?_, ih rest⟩
        rcases mem_insertEntry hentry with rfl | hentry
        · exact greater
        · exact before entry hentry
      · next notGreater =>
        have same : name = other :=
          String.le_antisymm (String.not_lt.1 notGreater) (String.not_lt.1 notLess)
        subst same
        exact List.pairwise_cons.2 ⟨before, rest⟩

/-- The labels of a resource. -/
structure Labels where
  entries : List (String × String)
  ordered : entries.Pairwise fun a b => a.1 < b.1
deriving DecidableEq

namespace Labels

def empty : Labels where
  entries := []
  ordered := List.Pairwise.nil

instance : Inhabited Labels := ⟨empty⟩

/-- Sets a label. -/
def insert (labels : Labels) (name value : String) : Labels where
  entries := insertEntry name value labels.entries
  ordered := pairwise_insertEntry labels.ordered

/-- The labels that a list of entries gives; of two entries with one name the later counts. -/
def ofList (entries : List (String × String)) : Labels :=
  entries.foldl (fun labels entry => labels.insert entry.1 entry.2) empty

def isEmpty (labels : Labels) : Bool :=
  labels.entries.isEmpty

/-- The names of the labels. -/
def names (labels : Labels) : List String :=
  labels.entries.map (·.1)

def toJson (labels : Labels) : Json :=
  .record (labels.entries.map fun (name, value) => (name, .text value))

/-- An entry whose name and value are text. -/
def entry? : Option String × Json → Option (String × String)
  | (some name, .string (some value)) => some (name, value)
  | _ => none

def ofJson? : Json → Option Labels
  | .object members => (members.mapM entry?).map ofList
  | _ => none

end Labels

end Steward
