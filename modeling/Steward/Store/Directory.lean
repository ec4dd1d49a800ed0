import Steward.Store.Disk
import Steward.Store.Key

/-!
# Values in files

One file for each value, in a directory for each kind. A value is first written to a hidden file
beside its own and then renamed, so that nobody reads half of it; hidden files are not listed.
-/

namespace Steward.Store

/-- A directory that holds values, and the disk it is on. -/
structure Directory where
  disk : Disk
  root : Path
deriving DecidableEq

namespace Directory

def ofKind (s : Directory) (kind : String) : Path :=
  s.root ++ [kind]

def file (s : Directory) (key : Key) : Path :=
  s.root ++ [key.kind, key.id]

/-- The name under which a value is written before it is renamed. -/
def stagingName (id unique : String) : String :=
  s!".{id}.{unique}.tmp"

def isHidden (name : String) : Bool :=
  name.toList.head? == some '.'

/-- What trouble with the disk means for a value. -/
def explain (key : Key) : Trouble → Failure
  | .missing => .notFound key.text
  | _ => .io "the operation was refused"

/-- Trouble with the disk that has nothing to do with a single value. -/
def refused : Failure :=
  .io "the operation was refused"

/-- Opens a directory for values and creates it if it is missing, as well as those above it. -/
def «open» (disk : Disk) (path : Path) : Except Failure Directory × Disk :=
  match disk.createDirectories path with
  | (.error _, disk) => (.error refused, disk)
  | (.ok (), disk) => match disk.locate path with
    | .ok root => (.ok ⟨disk, root⟩, disk)
    | .error _ => (.error refused, disk)

/-- The same directory after a change of the disk. -/
def onDisk (s : Directory) (disk : Disk) : Directory :=
  { s with disk := disk }

/-- Renames a written file to its own name; if that fails, removes it. -/
def settle (s : Directory) (staging target : Path) : Except Failure Unit × Directory :=
  match s.disk.rename staging target with
  | (.ok (), disk) => (.ok (), s.onDisk disk)
  | (.error _, disk) => (.error refused, s.onDisk (disk.removeFile staging).2)

/-- Writes a value to a hidden file in the directory of its kind, then renames it. -/
def stage (s : Directory) (key : Key) (value : ByteArray) (unique : String) :
    Except Failure Unit × Directory :=
  let staging := s.ofKind key.kind ++ [stagingName key.id unique]
  match s.disk.write staging value with
  | (.ok (), disk) => (s.onDisk disk).settle staging (s.file key)
  | (.error _, disk) => (.error refused, s.onDisk disk)

def store (s : Directory) (key : Key) (value : ByteArray) (unique : String) :
    Except Failure Unit × Directory :=
  match checkKey key with
  | .error failure => (.error failure, s)
  | .ok () =>
    match s.disk.createDirectories (s.ofKind key.kind) with
    | (.error _, disk) => (.error refused, s.onDisk disk)
    | (.ok (), disk) => (s.onDisk disk).stage key value unique

def fetch (s : Directory) (key : Key) : Except Failure ByteArray :=
  match checkKey key with
  | .error failure => .error failure
  | .ok () =>
    match s.disk.read (s.file key) with
    | .ok value => .ok value
    | .error trouble => .error (explain key trouble)

def remove (s : Directory) (key : Key) : Except Failure Unit × Directory :=
  match checkKey key with
  | .error failure => (.error failure, s)
  | .ok () =>
    match s.disk.removeFile (s.file key) with
    | (.ok (), disk) => (.ok (), s.onDisk disk)
    | (.error trouble, _) => (.error (explain key trouble), s)

/-- The entries of a kind that are not hidden; none if the kind has no directory. -/
def visible (s : Directory) (kind : String) : Except Failure (List (String × Node)) :=
  match checkSegment kind with
  | .error failure => .error failure
  | .ok () =>
    match s.disk.readDirectory (s.ofKind kind) with
    | .ok entries => .ok (entries.filter fun entry => !isHidden entry.1)
    | .error .missing => .ok []
    | .error _ => .error refused

def list (s : Directory) (kind : String) : Except Failure (List ByteArray) :=
  (s.visible kind).map fun entries => entries.filterMap fun
    | (_, .file content) => some content
    | (_, .directory) => none

/-- Removes files one after another and counts them, up to an entry that is no file. -/
def removeFiles (s : Directory) (kind : String) (count : Nat) :
    List (String × Node) → Except Failure Nat × Directory
  | [] => (.ok count, s)
  | (name, _) :: entries =>
    match s.disk.removeFile (s.ofKind kind ++ [name]) with
    | (.ok (), disk) => removeFiles (s.onDisk disk) kind (count + 1) entries
    | (.error .missing, _) => removeFiles s kind count entries
    | (.error _, _) => (.error refused, s)

def removeKind (s : Directory) (kind : String) : Except Failure Nat × Directory :=
  match s.visible kind with
  | .error failure => (.error failure, s)
  | .ok entries => s.removeFiles kind 0 entries

end Directory

end Steward.Store
