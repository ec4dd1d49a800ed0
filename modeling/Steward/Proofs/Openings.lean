import Steward.Proofs.Confinement
import Mathlib.Data.List.TakeWhile

/-!
# Directories that are opened

On an orderly disk a directory of values is opened at a directory, whatever path it is opened with,
and the disk stays orderly: directories are created one after another, each in one that is there.
Main statement: `standing_open`.
-/

namespace Steward.Store

namespace Disk

variable {d d' : Disk} {here place path names : Path} {name : String} {node : Node}
  {trouble : Trouble}

/-- A path is followed name by name. -/
theorem walk_append (led : d.walk here names = .ok place) (rest : Path) :
    d.walk here (names ++ rest) = d.walk place rest := by
  induction names generalizing here with
  | nil => rw [← Except.ok.inj led, List.nil_append]
  | cons name names ih =>
    rw [walk] at led
    rw [List.cons_append, walk]
    split at led
    · split_ifs at led ⊢
      all_goals exact ih led
    all_goals cases led

/-- A node that is added stands in nobody's way. -/
theorem walk_setNode (vacant : d.node? place = none) (led : d.walk here names = .ok path) :
    (d.setNode place node).walk here names = .ok path := by
  have below : place ≠ [] := by
    rintro rfl
    cases vacant
  have kept : ∀ {p n}, d.node? p = some n → (d.setNode place node).node? p = some n := by
    intro p n there
    rw [node?_setNode below, if_neg, there]
    rintro rfl
    rw [vacant] at there
    cases there
  induction names generalizing here with
  | nil => exact led
  | cons name names ih =>
    rw [walk] at led ⊢
    split at led
    · next home =>
      rw [kept home]
      split_ifs at led with idle up held there
      · rw [if_pos idle]
        exact ih led
      · rw [if_neg idle, if_pos up]
        exact ih led
      · obtain ⟨n, found⟩ := Option.isSome_iff_exists.1 there
        rw [if_neg idle, if_neg up, if_neg held, kept found, Option.isSome_some, if_pos rfl]
        exact ih led
    · cases led
    · cases led

/-- Slashes at the end of a path lead nowhere else. -/
theorem walk_slashes (home : d.node? here = some .directory) (slashes : ∀ name ∈ names, name = "") :
    d.walk here names = .ok here := by
  induction names with
  | nil => rfl
  | cons name names ih =>
    obtain rfl := slashes name List.mem_cons_self
    rw [walk, home]
    exact ih fun name later => slashes name (List.mem_cons_of_mem _ later)

/-- A site is in a directory, and takes a name. -/
theorem site_eq_ok (sited : d.site path = .ok place) :
    ∃ above name here, path = above ++ [name] ∧ d.walk [] above = .ok here ∧
      d.node? here = some .directory ∧ Proper name ∧ place = here ++ [name] := by
  rw [site] at sited
  split at sited
  · cases sited
  next name last =>
  split at sited
  · cases sited
  split at sited
  · cases sited
  next here led =>
  split at sited
  · next home =>
    split at sited
    · cases sited
    next placed =>
    split at sited
    · next held =>
      exact ⟨path.dropLast, name, here, (List.dropLast_append_getLast? name last).symm, led, home,
        ⟨Bool.eq_false_iff.2 placed, held⟩, (Except.ok.inj sited).symm⟩
    · cases sited
  all_goals cases sited

/-- What creating a directory changes. -/
theorem createDirectory_eq_ok (created : d.createDirectory path = (.ok (), d')) :
    ∃ above name here, (path.reverse.dropWhile (· == "")).reverse = above ++ [name] ∧
      d.walk [] above = .ok here ∧ d.node? here = some .directory ∧ Proper name ∧
      d.node? (here ++ [name]) = none ∧ d' = d.setNode (here ++ [name]) .directory := by
  simp only [createDirectory] at created
  split at created
  · cases created
  split at created
  · split at created <;> cases created
  split at created
  · cases created
  next place sited =>
  split at created
  · cases created
  next vacant =>
  obtain ⟨above, name, here, written, led, home, proper, rfl⟩ := site_eq_ok sited
  exact ⟨above, name, here, written, led, home, proper, by simpa using vacant,
    (Prod.mk.inj created).2.symm⟩

/-- A directory that was created is where its path leads to. -/
theorem locate_created (created : d.createDirectory path = (.ok (), d'))
    (led : d'.locate path = .ok place) : d'.node? place = some .directory := by
  obtain ⟨above, name, here, written, up, home, proper, vacant, rfl⟩ :=
    createDirectory_eq_ok created
  have there : (d.setNode (here ++ [name]) .directory).node? (here ++ [name]) =
      some .directory := by
    rw [node?_setNode (by simp), if_pos rfl]
  have still : (d.setNode (here ++ [name]) .directory).node? here = some .directory := by
    rw [node?_setNode (by simp), if_neg (by simp), home]
  obtain ⟨slashes, whole, idle⟩ : ∃ slashes, path = above ++ [name] ++ slashes ∧
      ∀ name ∈ slashes, name = "" := by
    refine ⟨(path.reverse.takeWhile (· == "")).reverse, ?_, ?_⟩
    · rw [← written, ← List.reverse_append, List.takeWhile_append_dropWhile, List.reverse_reverse]
    · intro name inside
      simpa using List.mem_takeWhile_imp (List.mem_reverse.1 inside)
  have arrived : (d.setNode (here ++ [name]) .directory).walk [] (above ++ [name]) =
      .ok (here ++ [name]) := by
    rw [walk_append (walk_setNode vacant up), walk_cons still proper, there]
    rfl
  rw [locate] at led
  split at led
  · rw [whole, walk_append arrived, walk_slashes there idle] at led
    rw [← Except.ok.inj led, there]
  · cases led

/-- Where no directory is created, nothing changes. -/
theorem createDirectory_eq_error (failed : d.createDirectory path = (.error trouble, d')) :
    d' = d := by
  simp only [createDirectory] at failed
  split at failed
  · exact (Prod.mk.inj failed).2.symm
  split at failed
  · split at failed <;> exact (Prod.mk.inj failed).2.symm
  split at failed
  · exact (Prod.mk.inj failed).2.symm
  split at failed
  · exact (Prod.mk.inj failed).2.symm
  · cases failed

/-! ## Directories above each other -/

theorem orderly_empty : ({} : Disk).Orderly where
  plain path there name inside := by
    by_cases top : path = []
    · simp [top] at inside
    · simp [node?, top] at there
  housed here name there := by simp [node?] at there

/-- The directory is created in what there is, or in what creating those above it came to, unless
this failed. -/
theorem createBelow_cases (d : Disk) (path : Path) (aboveIt : Except Trouble Unit × Disk) :
    d.createBelow path aboveIt = d.ensureDirectory path ∨
      (∃ d', aboveIt = (.ok (), d') ∧ d.createBelow path aboveIt = d'.ensureDirectory path) ∨
      ∃ trouble d', aboveIt = (.error trouble, d') ∧
        d.createBelow path aboveIt = (.error trouble, d') := by
  unfold createBelow
  rcases d.ensureDirectory path with ⟨answer, d'⟩
  rcases aboveIt with ⟨above, d''⟩
  cases answer with
  | ok _ => exact .inl rfl
  | error trouble =>
    cases trouble
    case missing =>
      cases above with
      | ok _ => exact .inr (.inl ⟨d'', rfl, rfl⟩)
      | error trouble => exact .inr (.inr ⟨trouble, d'', rfl, rfl⟩)
    all_goals exact .inl rfl

namespace Orderly

theorem createDirectory (orderly : d.Orderly) (path : Path) :
    (d.createDirectory path).2.Orderly := by
  rcases created : d.createDirectory path with ⟨answer, d'⟩
  cases answer with
  | ok _ =>
    obtain ⟨above, name, here, -, -, home, proper, -, rfl⟩ := createDirectory_eq_ok created
    exact orderly.setNode home proper (.inl rfl)
  | error trouble => rwa [createDirectory_eq_error created]

theorem ensureDirectory (orderly : d.Orderly) (path : Path) :
    (d.ensureDirectory path).2.Orderly := by
  have kept := orderly.createDirectory path
  rw [Disk.ensureDirectory]
  split
  · next created => rwa [created] at kept
  · next created =>
    rw [created] at kept
    split <;> exact kept

theorem createBelow (orderly : d.Orderly) (path : Path) {aboveIt : Except Trouble Unit × Disk}
    (above : aboveIt.2.Orderly) : (d.createBelow path aboveIt).2.Orderly := by
  rcases d.createBelow_cases path aboveIt with same | ⟨d', rfl, same⟩ | ⟨trouble, d', rfl, same⟩
  all_goals rw [same]
  exacts [orderly.ensureDirectory path, Orderly.ensureDirectory above path, above]

theorem createUpwards (orderly : d.Orderly) (names : List String) :
    (d.createUpwards names).2.Orderly := by
  induction names with
  | nil => exact orderly
  | cons name names ih =>
    rw [Disk.createUpwards]
    split
    · exact ih
    · exact orderly.createBelow _ ih

theorem createDirectories (orderly : d.Orderly) (path : Path) :
    (d.createDirectories path).2.Orderly := by
  rw [Disk.createDirectories]
  split
  · exact ⟨orderly.plain, orderly.housed⟩
  · exact orderly.createBelow _ (orderly.createUpwards _)

end Orderly

/-- A directory that is there is where its path leads to. -/
theorem locate_ensured (ensured : d.ensureDirectory path = (.ok (), d'))
    (led : d'.locate path = .ok place) : d'.node? place = some .directory := by
  rw [ensureDirectory] at ensured
  split at ensured
  · next created =>
    rw [← (Prod.mk.inj ensured).2] at led ⊢
    exact locate_created created led
  · split at ensured
    · next there =>
      rw [(Prod.mk.inj ensured).2, isDirectory, find, led] at there
      cases home : d'.node? place with
      | none => simp [home] at there
      | some node =>
        cases node with
        | file content => simp [home] at there
        | directory => rfl
    · cases ensured

theorem locate_createdDirectories (created : d.createDirectories path = (.ok (), d'))
    (led : d'.locate path = .ok place) : d'.node? place = some .directory := by
  rw [createDirectories] at created
  split at created
  · cases created
  rcases d.createBelow_cases path (d.createUpwards (above path).reverse) with
    same | ⟨d'', -, same⟩ | ⟨trouble, d'', -, same⟩
  · exact locate_ensured (same.symm.trans created) led
  · exact locate_ensured (same.symm.trans created) led
  · rw [same] at created
    cases created

end Disk

namespace Directory

variable {s : Directory}

/-- A directory of values is opened at a directory. -/
theorem standing_open {d d' : Disk} {path : Path} (orderly : d.Orderly)
    (opened : «open» d path = (.ok s, d')) : s.disk.Standing s.root := by
  have kept := orderly.createDirectories path
  rw [«open»] at opened
  split at opened
  · cases opened
  next disk created =>
  split at opened
  · next root led =>
    rw [created] at kept
    rw [← Except.ok.inj (Prod.mk.inj opened).1]
    exact ⟨kept, Disk.locate_createdDirectories created led⟩
  · cases opened

end Directory

end Steward.Store
