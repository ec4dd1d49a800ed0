import Steward.Proofs.Regions
import Mathlib.Data.List.Induction

/-!
# What stands in the way below the root

An operation on a name one or two levels below the root comes to nothing if the path is too long for
the disk, if one of its names is no name, or if there is no directory to go through. Otherwise it
acts on the entry with this very path, whatever else is on the disk. Main statements: for each
operation, what it comes to under all circumstances.
-/

namespace Steward.Store.Disk

variable {d : Disk} {root here path : Path} {kind name : String} {node : Node} {trouble : Trouble}

/-- A plain name leads down from a directory, or nowhere. -/
theorem walk_placed (home : d.node? here = some .directory) (placed : isStep name = false)
    (names : Path) :
    d.walk here (name :: names) =
      if isName name then
        if (d.node? (here ++ [name])).isSome then d.walk (here ++ [name]) names
        else .error .missing
      else .error .badName := by
  by_cases held : isName name = true
  · rw [walk_cons home ⟨placed, held⟩, if_pos held]
  · have idle : isIdle name = false := (Bool.or_eq_false_iff.1 placed).1
    have up : name ≠ ".." := by
      rintro rfl
      exact absurd placed (by decide)
    simp [walk, home, idle, up, held]

/-! ## Orderly disks -/

/-- The entries have plain names, and each of them is in a directory. -/
structure Orderly (d : Disk) : Prop where
  plain : ∀ path, (d.node? path).isSome → ∀ name ∈ path, Proper name
  housed : ∀ here name, (d.node? (here ++ [name])).isSome → d.node? here = some .directory

namespace Orderly

/-- Where no directory is, nothing is below. -/
theorem bare (orderly : d.Orderly) (without : d.node? here ≠ some .directory) (name : String) :
    d.node? (here ++ [name]) = none := by
  by_contra there
  exact without (orderly.housed here name (Option.isSome_iff_ne_none.2 there))

/-- To a directory its own path leads. -/
theorem rooted (orderly : d.Orderly) (home : d.node? root = some .directory) : d.Rooted root := by
  refine ⟨orderly.plain root (by rw [home]; rfl), ?_⟩
  rintro p ⟨rest, rfl⟩
  induction rest using List.reverseRecOn with
  | nil => simpa using home
  | append_singleton rest name ih =>
    refine ih (orderly.housed (p ++ rest) name ?_)
    rw [List.append_assoc, home]
    rfl

theorem setNode (orderly : d.Orderly) (home : d.node? here = some .directory)
    (proper : Proper name) (kept : node = .directory ∨ d.node? (here ++ [name]) ≠ some .directory) :
    (d.setNode (here ++ [name]) node).Orderly := by
  have look : ∀ other, (d.setNode (here ++ [name]) node).node? other =
      if other = here ++ [name] then some node else d.node? other := node?_setNode (by simp) node
  constructor
  · intro path there
    rw [look] at there
    split at there
    · next same =>
      subst same
      intro other inside
      rcases List.mem_append.1 inside with above | last
      · exact orderly.plain here (by rw [home]; rfl) other above
      · rw [List.mem_singleton.1 last]
        exact proper
    · exact orderly.plain path there
  · intro above other there
    -- the directory above is the one that was there, also if the entry itself is a new one
    have was : d.node? above = some .directory := by
      rw [look] at there
      split at there
      · next same =>
        rw [List.append_inj_left' same rfl]
        exact home
      · exact orderly.housed above other there
    rw [look]
    split
    · next same =>
      subst same
      rw [kept.resolve_right (fun apart => apart was)]
    · exact was

theorem removeNode (orderly : d.Orderly) (leaf : d.node? path ≠ some .directory) :
    (d.removeNode path).Orderly := by
  have below : path ≠ [] := by
    rintro rfl
    exact leaf rfl
  have look := node?_removeNode (d := d) below
  constructor
  · intro other there
    rw [look] at there
    split at there
    · cases there
    · exact orderly.plain other there
  · intro above other there
    rw [look] at there
    split at there
    · cases there
    · have was := orderly.housed above other there
      have apart : above ≠ path := by
        rintro rfl
        exact leaf was
      rw [look, if_neg apart, was]

/-- A file in a directory below the root. -/
theorem setNode_two (orderly : d.Orderly) (takes : Takes root [kind, name])
    (home : d.node? (root ++ [kind]) = some .directory)
    (unoccupied : d.node? (root ++ [kind, name]) ≠ some .directory) :
    (d.setNode (root ++ [kind, name]) node).Orderly := by
  have whole : root ++ [kind, name] = (root ++ [kind]) ++ [name] := by simp
  rw [whole] at unoccupied ⊢
  exact orderly.setNode home (takes.proper name (by simp)) (.inr unoccupied)

end Orderly

/-! ## One level below the root -/

/-- The disk takes a name below a directory. -/
def fits (root : Path) (kind : String) : Bool :=
  isAddress (root ++ [kind]) && isName kind

theorem takes_of_fits (placed : isStep kind = false) (fit : fits root kind = true) :
    Takes root [kind] := by
  obtain ⟨address, held⟩ := Bool.and_eq_true_iff.1 fit
  refine ⟨address, fun name inside => ?_⟩
  rw [List.mem_singleton.1 inside]
  exact ⟨placed, held⟩

section One

variable (rooted : d.Rooted root) (placed : isStep kind = false)
include rooted placed

theorem locate_of_not_fits (unfit : fits root kind = false) :
    d.locate (root ++ [kind]) = .error .badName := by
  by_cases address : isAddress (root ++ [kind]) = true
  · have held : isName kind = false := by simpa [fits, address] using unfit
    rw [rooted.locate address, walk_placed rooted.home placed, held]
    rfl
  · exact if_neg address

theorem site_of_not_fits (unfit : fits root kind = false) :
    d.site (root ++ [kind]) = .error .badName := by
  by_cases address : isAddress (root ++ [kind]) = true
  · have held : isName kind = false := by simpa [fits, address] using unfit
    have led : d.walk [] root = .ok root := by simpa [walk] using rooted.walk []
    simp [site, address, led, rooted.home, placed, held]
  · simp [site, address]

/-- What creating a directory below the root comes to. -/
theorem createDirectories_below : d.createDirectories (root ++ [kind]) =
    if d.outage = some .createDirectory then (.error .device, d.repaired)
    else if fits root kind then
      match d.node? (root ++ [kind]) with
      | some .directory => (.ok (), d)
      | some (.file _) => (.error .occupied, d)
      | none => (.ok (), d.setNode (root ++ [kind]) .directory)
    else (.error .badName, d) := by
  rw [createDirectories]
  split
  · rfl
  have ensured : d.ensureDirectory (root ++ [kind]) =
      if fits root kind then
        match d.node? (root ++ [kind]) with
        | some .directory => (.ok (), d)
        | some (.file _) => (.error .occupied, d)
        | none => (.ok (), d.setNode (root ++ [kind]) .directory)
      else (.error .badName, d) := by
    cases fit : fits root kind with
    | false =>
      have nowhere : d.isDirectory (root ++ [kind]) = false := by
        rw [isDirectory, find, locate_of_not_fits rooted placed fit]
      rw [ensureDirectory, createDirectory_of_placed placed, site_of_not_fits rooted placed fit]
      simp [nowhere]
    | true =>
      have created := createDirectory_one rooted (takes_of_fits placed fit)
      have found := find_one rooted (takes_of_fits placed fit)
      cases there : d.node? (root ++ [kind]) with
      | none => simp [ensureDirectory, created, there]
      | some node => cases node <;> simp [ensureDirectory, created, isDirectory, found, there]
  -- the directory above is the root, so that nothing above has to be created
  unfold createBelow
  rw [ensured]
  cases fits root kind with
  | false => rfl
  | true =>
    cases d.node? (root ++ [kind]) with
    | none => rfl
    | some node => cases node <;> rfl

/-- What reading a directory below the root comes to. -/
theorem readDirectory_below : d.readDirectory (root ++ [kind]) =
    if fits root kind then
      match d.node? (root ++ [kind]) with
      | some .directory => .ok (d.listing (root ++ [kind]))
      | some (.file _) => .error .notDirectory
      | none => .error .missing
    else .error .badName := by
  rw [readDirectory]
  cases fit : fits root kind with
  | false => simp [locate_of_not_fits rooted placed fit]
  | true =>
    rw [locate_one rooted (takes_of_fits placed fit)]
    cases there : d.node? (root ++ [kind]) with
    | none => simp
    | some node => cases node <;> simp [there, listing]

end One

/-! ## Two levels below the root -/

/-- What stops the disk on the way to a name in a directory below the root. -/
def hindrance (d : Disk) (root : Path) (kind name : String) : Option Trouble :=
  if isAddress (root ++ [kind, name]) && isName kind then
    match d.node? (root ++ [kind]) with
    | some .directory => if isName name then none else some .badName
    | some (.file _) => some .notDirectory
    | none => some .missing
  else some .badName

section Two

variable (rooted : d.Rooted root) (kindPlaced : isStep kind = false)
  (namePlaced : isStep name = false)

include kindPlaced namePlaced in
theorem takes_of_unhindered (free : d.hindrance root kind name = none) :
    Takes root [kind, name] ∧ d.node? (root ++ [kind]) = some .directory := by
  unfold hindrance at free
  split at free
  · next fit =>
    obtain ⟨address, held⟩ := Bool.and_eq_true_iff.1 fit
    split at free
    · next home =>
      have named : isName name = true := by simpa using free
      refine ⟨⟨address, ?_⟩, home⟩
      simp only [List.mem_cons, List.not_mem_nil, or_false]
      rintro other (rfl | rfl)
      exacts [⟨kindPlaced, held⟩, ⟨namePlaced, named⟩]
    all_goals cases free
  · cases free

include rooted kindPlaced namePlaced

theorem locate_hindered (hindered : d.hindrance root kind name = some trouble) :
    d.locate (root ++ [kind, name]) = .error trouble := by
  by_cases address : isAddress (root ++ [kind, name]) = true
  · rw [rooted.locate address, walk_placed rooted.home kindPlaced]
    by_cases held : isName kind = true
    · simp only [hindrance, address, held, Bool.and_self, if_true] at hindered ⊢
      cases there : d.node? (root ++ [kind]) with
      | none => simpa [there] using hindered
      | some node =>
        cases node with
        | file content => simpa [there, walk] using hindered
        | directory =>
          by_cases named : isName name = true
          · simp [there, named] at hindered
          · simpa [there, walk_placed there namePlaced, named] using hindered
    · simpa [hindrance, held] using hindered
  · simpa [locate, hindrance, address] using hindered

theorem site_hindered (hindered : d.hindrance root kind name = some trouble) :
    d.site (root ++ [kind, name]) = .error trouble := by
  have whole : root ++ [kind, name] = (root ++ [kind]) ++ [name] := by simp
  have led := rooted.walk [kind]
  rw [walk_placed rooted.home kindPlaced] at led
  rw [whole, site, List.getLast?_concat, List.dropLast_concat, ← whole, led]
  by_cases address : isAddress (root ++ [kind, name]) = true
  · by_cases held : isName kind = true
    · simp only [hindrance, address, held, Bool.and_self, if_true] at hindered ⊢
      cases there : d.node? (root ++ [kind]) with
      | none => simpa [there] using hindered
      | some node =>
        cases node with
        | file content => simpa [there, walk] using hindered
        | directory =>
          by_cases named : isName name = true
          · simp [there, named] at hindered
          · simpa [there, walk, named, namePlaced] using hindered
    · simpa [hindrance, address, held] using hindered
  · simpa [hindrance, address] using hindered

/-- What reading a file in a directory below the root comes to. -/
theorem read_below : d.read (root ++ [kind, name]) =
    match d.hindrance root kind name with
    | some trouble => .error trouble
    | none =>
      match d.node? (root ++ [kind, name]) with
      | some (.file content) => .ok content
      | some .directory => .error .notFile
      | none => .error .missing := by
  cases hindered : d.hindrance root kind name with
  | some trouble => simp [read, find, locate_hindered rooted kindPlaced namePlaced hindered]
  | none =>
    obtain ⟨takes, home⟩ := takes_of_unhindered kindPlaced namePlaced hindered
    exact read_two rooted takes home

/-- What removing a file in a directory below the root comes to. -/
theorem removeFile_below : d.removeFile (root ++ [kind, name]) =
    match d.hindrance root kind name with
    | some trouble => (.error trouble, d)
    | none =>
      match d.node? (root ++ [kind, name]) with
      | some (.file _) => (.ok (), d.removeNode (root ++ [kind, name]))
      | some .directory => (.error .notFile, d)
      | none => (.error .missing, d) := by
  cases hindered : d.hindrance root kind name with
  | some trouble => simp [removeFile, locate_hindered rooted kindPlaced namePlaced hindered]
  | none =>
    obtain ⟨takes, home⟩ := takes_of_unhindered kindPlaced namePlaced hindered
    exact removeFile_two rooted takes home

/-- Where a file in a directory below the root goes. -/
theorem fileSite_below : d.fileSite (root ++ [kind, name]) =
    match d.hindrance root kind name with
    | some trouble => .error trouble
    | none =>
      if d.node? (root ++ [kind, name]) = some .directory then .error .notFile
      else .ok (root ++ [kind, name]) := by
  rw [fileSite]
  cases hindered : d.hindrance root kind name with
  | some trouble => rw [site_hindered rooted kindPlaced namePlaced hindered]
  | none =>
    obtain ⟨takes, home⟩ := takes_of_unhindered kindPlaced namePlaced hindered
    rw [site_two rooted takes home]

/-- Where a file goes, it can be put. -/
theorem fileSite_eq_ok {place : Path} (led : d.fileSite (root ++ [kind, name]) = .ok place) :
    place = root ++ [kind, name] ∧ Takes root [kind, name] ∧
      d.node? (root ++ [kind]) = some .directory ∧
      d.node? (root ++ [kind, name]) ≠ some .directory := by
  rw [fileSite_below rooted kindPlaced namePlaced] at led
  cases hindered : d.hindrance root kind name with
  | some trouble =>
    rw [hindered] at led
    cases led
  | none =>
    obtain ⟨takes, home⟩ := takes_of_unhindered kindPlaced namePlaced hindered
    rw [hindered] at led
    by_cases occupied : d.node? (root ++ [kind, name]) = some .directory
    · simp [occupied] at led
    · simp only [occupied, if_false, Except.ok.injEq] at led
      exact ⟨led.symm, takes, home, occupied⟩

/-- What renaming a file in a directory below the root comes to. -/
theorem rename_below {target : String} :
    d.rename (root ++ [kind, name]) (root ++ [kind, target]) =
      match d.read (root ++ [kind, name]), d.fileSite (root ++ [kind, target]) with
      | .error trouble, _ => (.error trouble, d)
      | .ok _, .error trouble => (.error trouble, d)
      | .ok content, .ok destination =>
        if d.outage = some .rename then (.error .device, d.repaired)
        else
          (.ok (), (d.removeNode (root ++ [kind, name])).setNode destination (.file content)) := by
  rw [rename]
  cases hindered : d.hindrance root kind name with
  | some trouble =>
    rw [locate_hindered rooted kindPlaced namePlaced hindered,
      read_below rooted kindPlaced namePlaced, hindered]
  | none =>
    obtain ⟨takes, home⟩ := takes_of_unhindered kindPlaced namePlaced hindered
    rw [locate_two rooted takes home, read_two rooted takes home]
    cases d.node? (root ++ [kind, name]) with
    | none => rfl
    | some node =>
      cases node with
      | directory => cases d.fileSite (root ++ [kind, target]) <;> rfl
      | file content => cases d.fileSite (root ++ [kind, target]) <;> rfl

end Two

/-- A file that cannot be removed stays. -/
theorem removeFile_eq_error {d' : Disk} (failed : d.removeFile path = (.error trouble, d')) :
    d' = d := by
  unfold removeFile at failed
  split at failed
  · exact (Prod.mk.inj failed).2.symm
  · split at failed
    · cases failed
    all_goals exact (Prod.mk.inj failed).2.symm

/-- What the device makes of writing a file in its place. -/
def record (d : Disk) (place : Path) (content : ByteArray) : Except Trouble Unit × Disk :=
  match d.outage with
  | some (.write (some left)) =>
    (.error .device, d.repaired.setNode place (.file (content.extract 0 left)))
  | some (.write none) => (.error .device, d.repaired)
  | _ => (.ok (), d.setNode place (.file content))

theorem write_eq (path : Path) (content : ByteArray) : d.write path content =
    match d.fileSite path with
    | .error trouble => (.error trouble, d)
    | .ok place => d.record place content := by
  rw [write]
  cases d.fileSite path <;> rfl

end Steward.Store.Disk
