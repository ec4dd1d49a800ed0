import Steward.Daemon.Tour
import Steward.Json.Sorted
import Steward.Rehearsal.Notation

/-!
# Scratch disks

Disks for rehearsals: empty but for a directory that the rehearsal has to itself. Documents say
`$DIR` where they mean its path, and it is hidden again in what they are answered.
-/

namespace Steward.Rehearsal

/-- The directory of a rehearsal. -/
def scratch : String := "/tmp/.tmpQ7fLx2"

/-- The path of a file in the directory. -/
def scratchPath (names : List String) : Store.Path :=
  Daemon.pathOf scratch ++ names

/-- The path in the place of its sign. -/
def withScratch (text : String) : String :=
  text.replace "$DIR" scratch

/-- A document that does not show the path. -/
def hideScratch (j : Json) : Json :=
  j.mapTexts (·.replace scratch "<dir>")

/-- Adds a file and the directories above it to a disk. -/
def withFile (disk : Store.Disk) (path : Store.Path) (content : ByteArray) : Store.Disk :=
  ((disk.createDirectories (Store.Disk.above path)).2.write path content).2

/-- A disk with the directory and the null device. -/
def emptyDisk : Store.Disk :=
  ((withFile {} ["dev", "null"] .empty).createDirectories (scratchPath [])).2

/-- A disk with the file of a configuration, if a document gives one, and with values in files. -/
def scratchDisk (j : Json) (values : List (Store.Key × ByteArray)) : Store.Disk :=
  let disk := match j.textAt? "file" with
    | some text => withFile emptyDisk (scratchPath ["daemon.json"]) (Text.utf8 text)
    | none => emptyDisk
  values.foldl (fun disk (key, value) =>
    withFile disk (scratchPath ["data", key.kind, key.id]) value) disk

/-- The environment that a document gives. -/
def environment (j : Json) (name : String) : Option String :=
  ((j.member "env").textAt? name).map withScratch

end Steward.Rehearsal
