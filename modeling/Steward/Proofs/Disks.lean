import Steward.Store.Directory
import Steward.Assignment
import Mathlib.Data.List.Nodup

/-!
# What becomes of paths on a disk

Below a directory that paths lead to without detours, an operation on the disk comes down to the
nodes at a few paths. Main statements: `Rooted.locate`, and for each operation what it answers and
leaves behind one or two levels below the root.
-/

namespace Steward.Store.Disk

variable {d : Disk} {path other root here : Path} {name kind : String} {node : Node}

/-! ## Nodes -/

/-- Each path has one entry at most. -/
def Unrepeated (d : Disk) : Prop :=
  (d.entries.map (·.1)).Nodup

theorem node?_setNode (below : path ≠ []) (node : Node) (other : Path) :
    (d.setNode path node).node? other = if other = path then some node else d.node? other := by
  unfold node? setNode
  rw [List.lookup_cons, lookup_filter_ne]
  by_cases same : other = path
  · simp [same, below]
  · simp [same, beq_eq_false_iff_ne.2 same]

theorem node?_removeNode (below : path ≠ []) (other : Path) :
    (d.removeNode path).node? other = if other = path then none else d.node? other := by
  unfold node? removeNode
  rw [lookup_filter_ne]
  by_cases same : other = path
  · simp [same, below]
  · simp [same]

theorem Unrepeated.removeNode (unrepeated : d.Unrepeated) (path : Path) :
    (d.removeNode path).Unrepeated :=
  (List.Sublist.map _ List.filter_sublist).nodup unrepeated

theorem Unrepeated.setNode (unrepeated : d.Unrepeated) (path : Path) (node : Node) :
    (d.setNode path node).Unrepeated := by
  refine List.nodup_cons.2 ⟨fun again => ?_, unrepeated.removeNode path⟩
  obtain ⟨entry, kept, same⟩ := List.mem_map.1 again
  simpa [same] using (List.mem_filter.1 kept).2

/-- The entries of a disk are the nodes below its root. -/
theorem Unrepeated.mem_entries (unrepeated : d.Unrepeated) (below : path ≠ []) :
    (path, node) ∈ d.entries ↔ d.node? path = some node := by
  rw [node?, if_neg below]
  constructor
  · intro inside
    obtain ⟨before, after, split⟩ := List.append_of_mem inside
    have apart : ∀ entry ∈ before, path ≠ entry.1 := by
      rintro entry earlier rfl
      rw [Unrepeated, split, List.map_append, List.nodup_append] at unrepeated
      exact unrepeated.2.2 _ (List.mem_map_of_mem earlier) _ (by simp) rfl
    exact List.lookup_eq_some_iff.2 ⟨before, after, split, by simpa using apart⟩
  · intro found
    obtain ⟨before, after, split, -⟩ := List.lookup_eq_some_iff.1 found
    rw [split]
    simp

theorem nameIn_eq_some : nameIn here path = some name ↔ path = here ++ [name] := by
  unfold nameIn
  constructor
  · intro named
    split at named
    · split at named
      · next whole => exact Option.some.inj named ▸ whole
      · cases named
    · cases named
  · rintro rfl
    simp

/-- The nodes in a directory by their names, as they are read. -/
theorem Unrepeated.mem_listed (unrepeated : d.Unrepeated) :
    (name, node) ∈ d.entries.filterMap (fun (entry, node) => (nameIn here entry).map (·, node)) ↔
      d.node? (here ++ [name]) = some node := by
  rw [← unrepeated.mem_entries (by simp), List.mem_filterMap]
  constructor
  · rintro ⟨⟨path, other⟩, inside, same⟩
    obtain ⟨called, named, same⟩ := Option.map_eq_some_iff.1 same
    obtain ⟨rfl, rfl⟩ := Prod.mk.inj same
    exact nameIn_eq_some.1 named ▸ inside
  · exact fun inside => ⟨_, inside, by simp [nameIn_eq_some.2]⟩

theorem Unrepeated.nodup_listed (unrepeated : d.Unrepeated) (here : Path) :
    ((d.entries.filterMap fun (entry, node) => (nameIn here entry).map (·, node)).map
      (·.1)).Nodup := by
  have names : (d.entries.filterMap fun (entry, node) => (nameIn here entry).map (·, node)).map
      (·.1) = (d.entries.map (·.1)).filterMap (nameIn here) := by
    rw [List.map_filterMap, List.filterMap_map]
    simp [Function.comp_def]
  rw [names]
  refine List.Nodup.filterMap (fun a b name first second => ?_) unrepeated
  rw [nameIn_eq_some.1 first, nameIn_eq_some.1 second]

/-! ## Following a path -/

/-- A name that an entry on the disk can have. -/
structure Proper (name : String) : Prop where
  placed : isStep name = false
  held : isName name = true

theorem Proper.idle (proper : Proper name) : isIdle name = false := by
  have placed := proper.placed
  rw [isStep, Bool.or_eq_false_iff] at placed
  exact placed.1

theorem Proper.ne_up (proper : Proper name) : name ≠ ".." := by
  rintro rfl
  exact absurd proper.placed (by decide)

/-- From a directory a proper name leads to the entry with this name. -/
theorem walk_cons (home : d.node? here = some .directory) (proper : Proper name) (names : Path) :
    d.walk here (name :: names) =
      if (d.node? (here ++ [name])).isSome then d.walk (here ++ [name]) names
      else .error .missing := by
  simp [walk, home, proper.idle, proper.ne_up, proper.held]

/-- A path leads to where it says, and all that is on the way are directories. -/
structure Rooted (d : Disk) (root : Path) : Prop where
  proper : ∀ name ∈ root, Proper name
  directories : ∀ p, p <+: root → d.node? p = some .directory

theorem Rooted.home (rooted : d.Rooted root) : d.node? root = some .directory :=
  rooted.directories root (List.prefix_refl root)

/-- A path that goes on below the root is not on the way to it. -/
theorem ne_append_of_isPrefix {p names : Path} (within : p <+: root) (below : names ≠ []) :
    p ≠ root ++ names := by
  rintro rfl
  have short := within.length_le
  rw [List.length_append] at short
  exact below (List.eq_nil_of_length_eq_zero (by omega))

/-- Only the directories on the way matter. -/
theorem Rooted.congr {d' : Disk} (rooted : d.Rooted root)
    (same : ∀ p, p <+: root → d'.node? p = d.node? p) : d'.Rooted root :=
  ⟨rooted.proper, fun p within => (same p within).trans (rooted.directories p within)⟩

theorem walk_through {names : Path} (proper : ∀ name ∈ names, Proper name)
    (directories : ∀ p, p <+: names → d.node? (here ++ p) = some .directory) (rest : Path) :
    d.walk here (names ++ rest) = d.walk (here ++ names) rest := by
  induction names generalizing here with
  | nil => simp
  | cons name names ih =>
    have home : d.node? here = some .directory := by
      simpa using directories [] List.nil_prefix
    have next : d.node? (here ++ [name]) = some .directory :=
      directories [name] (by simp [List.cons_prefix_cons])
    rw [List.cons_append, walk_cons home (proper name List.mem_cons_self), next, Option.isSome_some,
      if_pos rfl, ih (fun other inside => proper other (List.mem_cons_of_mem _ inside))]
    · rw [List.append_assoc, List.singleton_append]
    · intro p within
      rw [List.append_assoc, List.singleton_append]
      exact directories (name :: p) (List.cons_prefix_cons.2 ⟨rfl, within⟩)

theorem Rooted.walk (rooted : d.Rooted root) (rest : Path) :
    d.walk [] (root ++ rest) = d.walk root rest := by
  simpa using @walk_through d [] root rooted.proper (fun p within => by
    simpa using rooted.directories p within) rest

theorem Rooted.locate (rooted : d.Rooted root) {rest : Path}
    (address : isAddress (root ++ rest) = true) :
    d.locate (root ++ rest) = d.walk root rest := by
  rw [Disk.locate, if_pos address, rooted.walk]

/-- A directory with a plain name is created where its path leads to, if nothing is there yet. -/
theorem createDirectory_of_placed (placed : isStep name = false) :
    d.createDirectory (here ++ [name]) =
      match d.site (here ++ [name]) with
      | .error trouble => (.error trouble, d)
      | .ok place =>
        if (d.node? place).isSome then (.error .occupied, d)
        else (.ok (), d.setNode place .directory) := by
  have named : (name == "") = false := by
    rw [isStep, isIdle, Bool.or_eq_false_iff, Bool.or_eq_false_iff] at placed
    exact placed.1.1
  cases led : d.site (here ++ [name]) <;> simp [createDirectory, named, placed, led]

/-! ## One level below the root -/

/-- The disk takes the names as a path below the root. -/
structure Takes (root names : Path) : Prop where
  address : isAddress (root ++ names) = true
  proper : ∀ name ∈ names, Proper name

section One

variable (rooted : d.Rooted root) (takes : Takes root [kind])
include rooted takes

theorem locate_one : d.locate (root ++ [kind]) =
    if (d.node? (root ++ [kind])).isSome then .ok (root ++ [kind]) else .error .missing := by
  rw [rooted.locate takes.address, walk_cons rooted.home (takes.proper kind List.mem_cons_self)]
  rfl

theorem find_one : d.find (root ++ [kind]) =
    match d.node? (root ++ [kind]) with
    | some node => .ok node
    | none => .error .missing := by
  rw [find, locate_one rooted takes]
  cases there : d.node? (root ++ [kind]) <;> simp [there]

theorem site_one : d.site (root ++ [kind]) = .ok (root ++ [kind]) := by
  have proper := takes.proper kind List.mem_cons_self
  have led : d.walk [] root = .ok root := by simpa [walk] using rooted.walk []
  simp [site, takes.address, led, rooted.home, proper.placed, proper.held]

theorem createDirectory_one : d.createDirectory (root ++ [kind]) =
    if (d.node? (root ++ [kind])).isSome then (.error .occupied, d)
    else (.ok (), d.setNode (root ++ [kind]) .directory) := by
  rw [createDirectory_of_placed (takes.proper kind List.mem_cons_self).placed,
    site_one rooted takes]

/-- A directory that is there is left as it is, and one that is missing is created. -/
theorem createDirectories_one (working : d.outage = none) :
    (d.node? (root ++ [kind]) = some .directory →
      d.createDirectories (root ++ [kind]) = (.ok (), d)) ∧
    (d.node? (root ++ [kind]) = none →
      d.createDirectories (root ++ [kind]) = (.ok (), d.setNode (root ++ [kind]) .directory)) := by
  have created := createDirectory_one rooted takes
  rw [createDirectories, if_neg (by simp [working])]
  unfold createBelow
  constructor
  · intro there
    have ensured : d.ensureDirectory (root ++ [kind]) = (.ok (), d) := by
      simp [ensureDirectory, created, there, isDirectory, find_one rooted takes]
    rw [ensured]
  · intro free
    have ensured : d.ensureDirectory (root ++ [kind]) =
        (.ok (), d.setNode (root ++ [kind]) .directory) := by
      simp [ensureDirectory, created, free]
    rw [ensured]

theorem readDirectory_one_of_missing (missing : d.node? (root ++ [kind]) = none) :
    d.readDirectory (root ++ [kind]) = .error .missing := by
  rw [readDirectory, locate_one rooted takes, missing]
  rfl

/-- What is read of a directory are the nodes in it, each of them once. -/
theorem readDirectory_one (unrepeated : d.Unrepeated)
    (home : d.node? (root ++ [kind]) = some .directory) :
    ∃ entries, d.readDirectory (root ++ [kind]) = .ok entries ∧ (entries.map (·.1)).Nodup ∧
      ∀ name node, (name, node) ∈ entries ↔ d.node? (root ++ [kind, name]) = some node := by
  refine ⟨_, ?_, unrepeated.nodup_listed (root ++ [kind]), fun name node => ?_⟩
  · simp only [readDirectory, locate_one rooted takes, home, Option.isSome_some, if_true]
  · rw [unrepeated.mem_listed, List.append_assoc, List.singleton_append]

end One

/-! ## Two levels below the root -/

section Two

variable (rooted : d.Rooted root) (takes : Takes root [kind, name])
include rooted takes

/-- Nothing is in a directory that is missing. -/
theorem locate_two_of_missing (missing : d.node? (root ++ [kind]) = none) :
    d.locate (root ++ [kind, name]) = .error .missing := by
  rw [rooted.locate takes.address, walk_cons rooted.home (takes.proper kind List.mem_cons_self),
    missing]
  rfl

variable (home : d.node? (root ++ [kind]) = some .directory)
include home

theorem locate_two : d.locate (root ++ [kind, name]) =
    if (d.node? (root ++ [kind, name])).isSome then .ok (root ++ [kind, name])
    else .error .missing := by
  have proper := takes.proper name (by simp)
  rw [rooted.locate takes.address, walk_cons rooted.home (takes.proper kind List.mem_cons_self),
    home, Option.isSome_some, if_pos rfl, walk_cons home proper, List.append_assoc,
    List.singleton_append]
  rfl

theorem site_two : d.site (root ++ [kind, name]) = .ok (root ++ [kind, name]) := by
  have proper := takes.proper name (by simp)
  have split : root ++ [kind, name] = (root ++ [kind]) ++ [name] := by simp
  have led : d.walk [] (root ++ [kind]) = .ok (root ++ [kind]) := by
    rw [rooted.walk, walk_cons rooted.home (takes.proper kind List.mem_cons_self), home]
    rfl
  rw [site, split, List.getLast?_concat, List.dropLast_concat]
  simp [← split, takes.address, led, home, proper.placed, proper.held]

theorem read_two : d.read (root ++ [kind, name]) =
    match d.node? (root ++ [kind, name]) with
    | some (.file content) => .ok content
    | some .directory => .error .notFile
    | none => .error .missing := by
  rw [read, find, locate_two rooted takes home]
  cases there : d.node? (root ++ [kind, name]) with
  | none => simp
  | some node => cases node <;> simp [there]

theorem removeFile_two : d.removeFile (root ++ [kind, name]) =
    match d.node? (root ++ [kind, name]) with
    | some (.file _) => (.ok (), d.removeNode (root ++ [kind, name]))
    | some .directory => (.error .notFile, d)
    | none => (.error .missing, d) := by
  rw [removeFile, locate_two rooted takes home]
  cases there : d.node? (root ++ [kind, name]) with
  | none => simp
  | some node => cases node <;> simp [there]

theorem fileSite_two (unoccupied : d.node? (root ++ [kind, name]) ≠ some .directory) :
    d.fileSite (root ++ [kind, name]) = .ok (root ++ [kind, name]) := by
  rw [fileSite, site_two rooted takes home]
  exact if_neg unoccupied

theorem write_two (working : d.outage = none) (content : ByteArray)
    (unoccupied : d.node? (root ++ [kind, name]) ≠ some .directory) :
    d.write (root ++ [kind, name]) content =
      (.ok (), d.setNode (root ++ [kind, name]) (.file content)) := by
  rw [write, fileSite_two rooted takes home unoccupied, working]

theorem rename_two {target : String} {content : ByteArray} (working : d.outage = none)
    (there : d.node? (root ++ [kind, name]) = some (.file content))
    (takes' : Takes root [kind, target])
    (unoccupied : d.node? (root ++ [kind, target]) ≠ some .directory) :
    d.rename (root ++ [kind, name]) (root ++ [kind, target]) =
      (.ok (), (d.removeNode (root ++ [kind, name])).setNode (root ++ [kind, target])
        (.file content)) := by
  rw [rename, locate_two rooted takes home, read_two rooted takes home, there,
    fileSite_two rooted takes' home unoccupied]
  simp [working]

/-- A file that is written under a free name and then renamed leaves nothing under that name. -/
theorem replace_two {staging : String} (working : d.outage = none)
    (takes' : Takes root [kind, staging]) (content : ByteArray) (apart : name ≠ staging)
    (free : d.node? (root ++ [kind, staging]) = none)
    (unoccupied : d.node? (root ++ [kind, name]) ≠ some .directory) :
    ∃ during after, d.write (root ++ [kind, staging]) content = (.ok (), during) ∧
      during.rename (root ++ [kind, staging]) (root ++ [kind, name]) = (.ok (), after) ∧
      after.outage = none ∧ (d.Unrepeated → after.Unrepeated) ∧
      ∀ path, after.node? path =
        if path = root ++ [kind, name] then some (.file content) else d.node? path := by
  have look := node?_setNode (d := d) (show root ++ [kind, staging] ≠ [] by simp) (.file content)
  have written := write_two rooted takes' home working content (by rw [free]; nofun)
  have rooted' : (d.setNode (root ++ [kind, staging]) (.file content)).Rooted root :=
    rooted.congr fun p within => (look p).trans (if_neg (ne_append_of_isPrefix within (by simp)))
  have renamed := rename_two rooted' takes' (by rw [look, if_neg (by simp), home]) working
    ((look _).trans (if_pos rfl)) takes
    (by rw [look, if_neg (by simpa using apart)]; exact unoccupied)
  refine ⟨_, _, written, renamed, working, fun unrepeated => ?_, fun path => ?_⟩
  · exact ((unrepeated.setNode _ _).removeNode _).setNode _ _
  · rw [node?_setNode (by simp), node?_removeNode (by simp), look]
    by_cases staged : path = root ++ [kind, staging] <;> simp [staged, free]

end Two

end Steward.Store.Disk
