import Steward.Daemon.Tour
import Std.Time.DateTime.Timestamp

/-!
# The program

The tour of the daemon with the settings of the real environment. The values are read from the real
disk before the tour and written back after it.
-/

namespace Steward.Main

/-! ## What the system gives -/

/-- The variables of the environment that count, as they are now. -/
def environment : IO (String → Option String) := do
  let values ← Config.variableNames.mapM fun name => return (name, ← IO.getEnv name)
  return fun name => (values.lookup name).join

def readText? (file : String) : IO (Option String) := do
  try
    return some (← IO.FS.readFile file)
  catch _ =>
    return none

def nanosNow : IO Nat := do
  return (← Std.Time.Timestamp.now).toNanosecondsSinceUnixEpoch.toInt.toNat

def random : IO Nat := do
  return (← IO.getRandomBytes 10).foldl (fun n byte => 256 * n + byte.toNat) 0

/-! ## The disk -/

/-- The path in the notation of the system. -/
def pathText (path : Store.Path) : String :=
  "/" ++ "/".intercalate path

/-- Where a name leads from a place. -/
def next (here : Store.Path) (name : String) : Store.Path :=
  if Store.Disk.isIdle name then here
  else if name = ".." then here.dropLast
  else here ++ [name]

/-- The places that a path leads through, the last one first. -/
def places (path : Store.Path) : List Store.Path :=
  path.foldl (fun seen name => next (seen.headD []) name :: seen) []

/-- What the system has at a place. -/
def nodeAt? (place : String) : IO (Option Store.Node) := do
  try
    let found ← IO.FS.realPath place
    if ← found.isDir then return some .directory
    else return some (.file (← IO.FS.readBinFile found))
  catch _ =>
    return none

def namesIn (place : String) : IO (List String) := do
  try
    return (← (← IO.FS.realPath place).readDir).toList.map (·.fileName)
  catch _ =>
    return []

/-- Adds what the system has at a path to a disk. -/
def survey (disk : Store.Disk) (path : Store.Path) : IO Store.Disk := do
  match ← nodeAt? (pathText path) with
  | some node => return if path = [] then disk else disk.setNode path node
  | none => return disk

def pathsBelow (path : Store.Path) : IO (List Store.Path) := do
  return (← namesIn (pathText path)).map fun name => path ++ [name]

/-- The disk as far as a store of values sees it: the way to its directory, and two levels below. -/
def surveyAll (directory : String) : IO Store.Disk := do
  let way := places (Daemon.pathOf directory)
  let kinds ← if directory.isEmpty then pure [] else pathsBelow (way.headD [])
  let values ← kinds.mapM pathsBelow
  (way.reverse ++ kinds ++ values.flatten).foldlM survey {}

/-- Makes the system's disk look like a disk. -/
def settle (before after : Store.Disk) : IO Unit := do
  for (path, node) in after.entries.reverse do
    if before.node? path ≠ some node then
      match node with
      | .directory => IO.FS.createDirAll (pathText path)
      | .file content => IO.FS.writeBinFile (pathText path) content
  for (path, _) in before.entries do
    if after.node? path = none then IO.FS.removeFile (pathText path)

/-! ## The run -/

/-- The text of the configuration file that the environment names. -/
def configText (lookup : String → Option String) : IO (String → Option String) := do
  match Config.fileNamed? lookup with
  | none => return fun _ => none
  | some file =>
    let content ← readText? file
    return fun name => if name = file then content else none

/-- The directory of values that the settings name, seen from the root of the system's disk. -/
def dataDir? (readFile lookup : String → Option String) : IO (Option String) := do
  match Config.ofEnvironment readFile lookup with
  | .error _ => return none
  | .ok config =>
    let here := (← IO.currentDir).toString
    return config.dataDir.map fun name => if name.startsWith "/" then name else s!"{here}/{name}"

/-- The environment with another directory of values, if there is one. -/
def withDataDir (lookup : String → Option String) (directory : Option String) (key : String) :
    Option String :=
  if key = Config.dataDirVariable then directory.or (lookup key) else lookup key

/-- Runs the tour, and answers why it failed. -/
def run : IO (Option Daemon.TourFailure) := do
  let lookup ← environment
  let readFile ← configText lookup
  let directory ← dataDir? readFile lookup
  let before ← surveyAll (directory.getD "")
  let now ← nanosNow
  let ids := Supply.ids (now / 1000000) (← random)
  let (outcome, after) :=
    Daemon.runTour readFile (withDataDir lookup directory) before (.clock now) ids
  settle before after
  match outcome with
  | .ok () => return none
  | .error failure => return some failure

end Steward.Main

/-- Ends with the exit code of the tour's failure, if there is one. -/
def main : IO UInt32 := do
  match ← Steward.Main.run with
  | none => return 0
  | some failure =>
    IO.eprintln failure.message
    return failure.exitCode.toUInt32
