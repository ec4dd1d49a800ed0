/-!
# Disks

A tree of directories and files, with the operations on it that can fail by themselves, and one
operation at most that fails because of the device. Operations take paths as they are written and
follow them from the root, name by name.
-/

namespace Steward.Store

/-- A path from the root of the disk, as the names along it. In a path as it is written, the empty
name and a dot stay where they are, and two dots lead to the directory above. -/
abbrev Path := List String

inductive Node where
  | file (content : ByteArray)
  | directory

namespace Node

theorem file_inj {a b : ByteArray} : file a = file b ↔ a.data = b.data := by
  constructor
  · intro same
    injection same with same
    rw [same]
  · intro same
    cases a
    cases b
    cases same
    rfl

instance : DecidableEq Node
  | file _, file _ => decidable_of_iff _ file_inj.symm
  | directory, directory => isTrue rfl
  | file _, directory => isFalse nofun
  | directory, file _ => isFalse nofun

end Node

/-- Why an operation on the disk failed. -/
inductive Trouble where
  | missing
  /-- There is something already. -/
  | occupied
  | notDirectory
  | notFile
  | badName
  | device
deriving DecidableEq

/-- An operation that the device will refuse. A refused write may leave the beginning of the content
behind. -/
inductive Outage where
  | createDirectory
  | write (left : Option Nat)
  | rename
deriving DecidableEq

structure Disk where
  /-- Everything but the root, by paths of plain names, with the parent of each entry among the
  entries. -/
  entries : List (Path × Node) := []
  outage : Option Outage := none
deriving DecidableEq

namespace Disk

instance : Inhabited Disk := ⟨{}⟩

/-! ## Paths as they are written -/

/-- A name that the disk can hold: at most 255 bytes, none of them zero. -/
def isName (name : String) : Bool :=
  name.utf8ByteSize ≤ 255 && !name.toList.contains '\x00'

/-- A name that stays where it is. -/
def isIdle (name : String) : Bool :=
  name == "" || name == "."

/-- A name that is that of no entry. -/
def isStep (name : String) : Bool :=
  isIdle name || name == ".."

/-- A path that can be handed to the disk: less than 4096 bytes along with its slashes, none of
them zero. -/
def isAddress (path : Path) : Bool :=
  let text := "/".intercalate path
  text.utf8ByteSize < 4096 && !text.toList.contains '\x00'

/-- The path of the directory that holds the last entry on a path. Names that stay where they are
count for nothing at its end. -/
def above (path : Path) : Path :=
  (((path.reverse.dropWhile isIdle).drop 1).dropWhile isIdle).reverse

/-! ## Looking -/

/-- The node at a path of plain names, no questions asked. -/
def node? (d : Disk) (path : Path) : Option Node :=
  if path = [] then some .directory else d.entries.lookup path

/-- Follows the names that are left, from a directory. -/
def walk (d : Disk) (here : Path) : Path → Except Trouble Path
  | [] => .ok here
  | name :: names =>
    match d.node? here with
    | some .directory =>
      if isIdle name then walk d here names
      else if name = ".." then walk d here.dropLast names
      else if !isName name then .error .badName
      else if (d.node? (here ++ [name])).isSome then walk d (here ++ [name]) names
      else .error .missing
    | some (.file _) => .error .notDirectory
    | none => .error .missing

/-- Where a path leads to. -/
def locate (d : Disk) (path : Path) : Except Trouble Path :=
  if isAddress path then d.walk [] path else .error .badName

def find (d : Disk) (path : Path) : Except Trouble Node :=
  match d.locate path with
  | .ok place => match d.node? place with
    | some node => .ok node
    | none => .error .missing
  | .error trouble => .error trouble

/-- Where the entry with a path is, or would be: its directory has to be there, and its last name
has to be one. -/
def site (d : Disk) (path : Path) : Except Trouble Path :=
  match path.getLast? with
  | none => .error .notFile
  | some name =>
    if !isAddress path then .error .badName
    else match d.walk [] path.dropLast with
      | .error trouble => .error trouble
      | .ok place => match d.node? place with
        | some .directory =>
          if isStep name then .error .notFile
          else if isName name then .ok (place ++ [name])
          else .error .badName
        | some (.file _) => .error .notDirectory
        | none => .error .missing

def isFile (d : Disk) (path : Path) : Bool :=
  match d.find path with
  | .ok (.file _) => true
  | _ => false

def isDirectory (d : Disk) (path : Path) : Bool :=
  match d.find path with
  | .ok .directory => true
  | _ => false

def read (d : Disk) (path : Path) : Except Trouble ByteArray :=
  match d.find path with
  | .ok (.file content) => .ok content
  | .ok .directory => .error .notFile
  | .error trouble => .error trouble

/-- The name of an entry within a directory. -/
def nameIn (directory path : Path) : Option String :=
  match path.getLast? with
  | some name => if path = directory ++ [name] then some name else none
  | none => none

def readDirectory (d : Disk) (path : Path) : Except Trouble (List (String × Node)) :=
  match d.locate path with
  | .error trouble => .error trouble
  | .ok place => match d.node? place with
    | some .directory =>
      .ok (d.entries.filterMap fun (entry, node) => (nameIn place entry).map (·, node))
    | some (.file _) => .error .notDirectory
    | none => .error .missing

/-! ## Changing -/

def setNode (d : Disk) (path : Path) (node : Node) : Disk :=
  { d with entries := (path, node) :: d.entries.filter (·.1 ≠ path) }

def removeNode (d : Disk) (path : Path) : Disk :=
  { d with entries := d.entries.filter (·.1 ≠ path) }

/-- The device works again. -/
def repaired (d : Disk) : Disk :=
  { d with outage := none }

/-- Creates a directory. Slashes at the end of its path do not count. -/
def createDirectory (d : Disk) (path : Path) : Except Trouble Unit × Disk :=
  let path := (path.reverse.dropWhile (· == "")).reverse
  match path.getLast? with
  | none => (.error .occupied, d)
  | some name =>
    if isStep name then
      match d.find (path.dropLast ++ [""]) with
      | .ok _ => (.error .occupied, d)
      | .error trouble => (.error trouble, d)
    else match d.site path with
      | .error trouble => (.error trouble, d)
      | .ok place =>
        if (d.node? place).isSome then (.error .occupied, d)
        else (.ok (), d.setNode place .directory)

/-- Creates a directory, unless it is there already. -/
def ensureDirectory (d : Disk) (path : Path) : Except Trouble Unit × Disk :=
  match d.createDirectory path with
  | (.ok (), d) => (.ok (), d)
  | (.error trouble, d) => if d.isDirectory path then (.ok (), d) else (.error trouble, d)

/-- Creates a directory. If the one above it is missing, `aboveIt` is what creating that comes
to. -/
def createBelow (d : Disk) (path : Path) (aboveIt : Except Trouble Unit × Disk) :
    Except Trouble Unit × Disk :=
  match d.ensureDirectory path with
  | (.error .missing, _) => match aboveIt with
    | (.ok (), d) => d.ensureDirectory path
    | failed => failed
  | outcome => outcome

/-- Creates a directory and those above it, as far as they are missing. The names are in reverse
order. -/
def createUpwards (d : Disk) : List String → Except Trouble Unit × Disk
  | [] => (.ok (), d)
  | name :: names =>
    if isIdle name then d.createUpwards names
    else d.createBelow (name :: names).reverse (d.createUpwards names)

/-- Creates a directory and those above it, as far as they are missing. -/
def createDirectories (d : Disk) (path : Path) : Except Trouble Unit × Disk :=
  if d.outage = some .createDirectory then (.error .device, d.repaired)
  else d.createBelow path (d.createUpwards (above path).reverse)

/-- The place for a file, unless it is taken by a directory. -/
def fileSite (d : Disk) (path : Path) : Except Trouble Path :=
  match d.site path with
  | .error trouble => .error trouble
  | .ok place => if d.node? place = some .directory then .error .notFile else .ok place

/-- Writes a file, in place of one that is there. -/
def write (d : Disk) (path : Path) (content : ByteArray) : Except Trouble Unit × Disk :=
  match d.fileSite path with
  | .error trouble => (.error trouble, d)
  | .ok place =>
    match d.outage with
    | some (.write (some left)) =>
      (.error .device, d.repaired.setNode place (.file (content.extract 0 left)))
    | some (.write none) => (.error .device, d.repaired)
    | _ => (.ok (), d.setNode place (.file content))

def removeFile (d : Disk) (path : Path) : Except Trouble Unit × Disk :=
  match d.locate path with
  | .error trouble => (.error trouble, d)
  | .ok place => match d.node? place with
    | some (.file _) => (.ok (), d.removeNode place)
    | some .directory => (.error .notFile, d)
    | none => (.error .missing, d)

/-- Gives a file another path, in place of a file that is there. -/
def rename (d : Disk) (source target : Path) : Except Trouble Unit × Disk :=
  match d.locate source, d.read source, d.fileSite target with
  | .ok place, .ok content, .ok destination =>
    if d.outage = some .rename then (.error .device, d.repaired)
    else (.ok (), (d.removeNode place).setNode destination (.file content))
  | .error trouble, _, _ => (.error trouble, d)
  | _, .error trouble, _ => (.error trouble, d)
  | _, _, .error trouble => (.error trouble, d)

end Disk

end Steward.Store
