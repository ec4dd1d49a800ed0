import Steward.Store.Directory
import Steward.Store.Table

/-!
# The store

The store that operations work on: values in memory or in files, behind a front that can be told to
fail the next operation of a sort and to take its time over each of them.
-/

namespace Steward

namespace Store

/-- Where the values are. -/
inductive Backing where
  | memory (table : Table)
  | files (directory : Directory)

/-- The failure that the next operation of each sort is to end with. -/
structure Faults where
  put : Option Failure := none
  get : Option Failure := none
  delete : Option Failure := none
  list : Option Failure := none
deriving DecidableEq

end Store

structure Store where
  backing : Store.Backing := .memory .empty
  faults : Store.Faults := {}
  /-- How long each operation takes, in milliseconds. -/
  delay : Option Nat := none
  /-- The number of values stored so far. -/
  puts : Nat := 0

namespace Store

/-- Stores a value. `unique` is needed for values in files only. -/
def put (s : Store) (key : Key) (value : ByteArray) (unique : String) :
    Except Failure Unit × Store :=
  match s.faults.put with
  | some failure => (.error failure, { s with faults := { s.faults with put := none } })
  | none =>
    match s.backing with
    | .memory table =>
      match table.store key value with
      | .ok table => (.ok (), { s with backing := .memory table, puts := s.puts + 1 })
      | .error failure => (.error failure, s)
    | .files directory =>
      match directory.store key value unique with
      | (.ok (), directory) => (.ok (), { s with backing := .files directory, puts := s.puts + 1 })
      | (.error failure, directory) => (.error failure, { s with backing := .files directory })

def get (s : Store) (key : Key) : Except Failure ByteArray × Store :=
  match s.faults.get with
  | some failure => (.error failure, { s with faults := { s.faults with get := none } })
  | none =>
    match s.backing with
    | .memory table => (table.fetch key, s)
    | .files directory => (directory.fetch key, s)

def delete (s : Store) (key : Key) : Except Failure Unit × Store :=
  match s.faults.delete with
  | some failure => (.error failure, { s with faults := { s.faults with delete := none } })
  | none =>
    match s.backing with
    | .memory table =>
      match table.remove key with
      | .ok table => (.ok (), { s with backing := .memory table })
      | .error failure => (.error failure, s)
    | .files directory =>
      match directory.remove key with
      | (answer, directory) => (answer, { s with backing := .files directory })

/-- The values that are stored under a kind, whatever the front was told. -/
def contents (s : Store) (kind : String) : Except Failure (List ByteArray) :=
  match s.backing with
  | .memory table => .ok (table.valuesOf kind)
  | .files directory => directory.list kind

def list (s : Store) (kind : String) : Except Failure (List ByteArray) × Store :=
  match s.faults.list with
  | some failure => (.error failure, { s with faults := { s.faults with list := none } })
  | none => (s.contents kind, s)

def deleteKind (s : Store) (kind : String) : Except Failure Nat × Store :=
  match s.backing with
  | .memory table =>
    let (count, table) := table.removeKind kind
    (.ok count, { s with backing := .memory table })
  | .files directory =>
    let (answer, directory) := directory.removeKind kind
    (answer, { s with backing := .files directory })

def size (s : Store) : Nat :=
  match s.backing with
  | .memory table => table.size
  | .files _ => 0

end Store

end Steward
