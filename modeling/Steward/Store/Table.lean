import Steward.Store.Key

/-!
# Values in memory

A table holds at most one value for each key. It is one list over all kinds, not a table of tables,
so that a kind of which nothing is left leaves nothing behind. The order of its entries is of no
account: it is the order in which they are listed, on which nothing may rely. Main statements: what
`get?` finds after `put`, `filter` and `erase`.
-/

namespace Steward.Store

structure Table where
  entries : List (Key × ByteArray)
  nodup : (entries.map (·.1)).Nodup

namespace Table

def empty : Table where
  entries := []
  nodup := List.nodup_nil

instance : Inhabited Table := ⟨empty⟩

/-- The entry of a key replaced, or a new one at the end. -/
def putEntry (key : Key) (value : ByteArray) : List (Key × ByteArray) → List (Key × ByteArray)
  | [] => [(key, value)]
  | (other, kept) :: entries =>
    if other = key then (key, value) :: entries else (other, kept) :: putEntry key value entries

theorem mem_keys_putEntry {key k : Key} {value : ByteArray} {entries : List (Key × ByteArray)} :
    k ∈ (putEntry key value entries).map (·.1) ↔ k = key ∨ k ∈ entries.map (·.1) := by
  induction entries with
  | nil => simp [putEntry]
  | cons entry entries ih =>
    obtain ⟨other, kept⟩ := entry
    simp only [putEntry]
    split
    · next same => subst same; simp
    · simp only [List.map_cons, List.mem_cons, ih]
      exact or_left_comm

theorem nodup_putEntry {key : Key} {value : ByteArray} {entries : List (Key × ByteArray)}
    (h : (entries.map (·.1)).Nodup) : ((putEntry key value entries).map (·.1)).Nodup := by
  induction entries with
  | nil => simp [putEntry]
  | cons entry entries ih =>
    obtain ⟨other, kept⟩ := entry
    rw [List.map_cons, List.nodup_cons] at h
    simp only [putEntry]
    split
    · next same => subst same; simpa using h
    · next different =>
      rw [List.map_cons, List.nodup_cons, mem_keys_putEntry]
      exact ⟨fun k => k.elim different h.1, ih h.2⟩

def get? (t : Table) (key : Key) : Option ByteArray :=
  (t.entries.find? (·.1 = key)).map (·.2)

def put (t : Table) (key : Key) (value : ByteArray) : Table where
  entries := putEntry key value t.entries
  nodup := nodup_putEntry t.nodup

theorem get?_put (t : Table) (key k : Key) (value : ByteArray) :
    (t.put key value).get? k = if k = key then some value else t.get? k := by
  suffices h : ∀ entries, ((putEntry key value entries).find? (·.1 = k)).map (·.2) =
      if k = key then some value else (entries.find? (·.1 = k)).map (·.2) from h t.entries
  intro entries
  induction entries with
  | nil => by_cases same : key = k <;> simp [putEntry, same, eq_comm]
  | cons entry entries ih =>
    obtain ⟨other, kept⟩ := entry
    by_cases here : other = key
    · subst here
      by_cases same : other = k
      · simp [putEntry, same]
      · simp [putEntry, same, Ne.symm same]
    · by_cases same : other = k
      · subst same
        simp [putEntry, here]
      · simp [putEntry, here, same, ih]

def filter (t : Table) (keep : Key → Bool) : Table where
  entries := t.entries.filter fun entry => keep entry.1
  nodup := (List.Sublist.map _ List.filter_sublist).nodup t.nodup

theorem get?_filter (t : Table) (keep : Key → Bool) (k : Key) :
    (t.filter keep).get? k = if keep k then t.get? k else none := by
  have same : (fun entry : Key × ByteArray => keep entry.1 && decide (entry.1 = k)) =
      fun entry => keep k && decide (entry.1 = k) := by
    funext entry
    by_cases here : entry.1 = k
    · rw [here]
    · simp [here]
  by_cases stays : keep k = true <;> simp [filter, get?, List.find?_filter, same, stays]

def erase (t : Table) (key : Key) : Table :=
  t.filter (· ≠ key)

theorem get?_erase (t : Table) (key k : Key) :
    (t.erase key).get? k = if k = key then none else t.get? k := by
  by_cases same : k = key <;> simp [erase, get?_filter, same]

def valuesOf (t : Table) (kind : String) : List ByteArray :=
  (t.entries.filter (·.1.kind = kind)).map (·.2)

def size (t : Table) : Nat :=
  t.entries.length

/-! ## Answers -/

def store (t : Table) (key : Key) (value : ByteArray) : Except Failure Table :=
  match checkKey key with
  | .ok () => .ok (t.put key value)
  | .error failure => .error failure

def fetch (t : Table) (key : Key) : Except Failure ByteArray :=
  match t.get? key with
  | some value => .ok value
  | none => .error (.notFound key.text)

def remove (t : Table) (key : Key) : Except Failure Table :=
  match t.get? key with
  | some _ => .ok (t.erase key)
  | none => .error (.notFound key.text)

def removeKind (t : Table) (kind : String) : Nat × Table :=
  ((t.valuesOf kind).length, t.filter (·.kind ≠ kind))

end Table

end Steward.Store
