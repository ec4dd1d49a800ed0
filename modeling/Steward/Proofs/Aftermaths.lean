import Steward.Proofs.Openings

/-!
# When a value could not be stored

A value that could not be stored is never listed nor fetched, and what was there before still is.
Two things may stay behind all the same. If the device refuses the rest of the hidden file when it
has written a part, this part stays, since only a file that could not be renamed is removed. And if
the kind had no directory it may have got one; then a key of this kind whose id is no name for the
disk is answered with trouble, while it was missing before. Main statements:
`leftover_of_failed_store`, `store_failed`.
-/

namespace Steward.Store

namespace Disk

variable {d d' : Disk} {root source target : Path} {kind name : String} {content : ByteArray}
  {trouble : Trouble}

/-- How much the device kept of a file before it refused to write the rest. -/
def cutShort (d d' : Disk) : Option Nat :=
  match d.outage, d'.outage with
  | some (.write left), none => left
  | _, _ => none

theorem cutShort_self (d : Disk) : d.cutShort d = none := by
  unfold cutShort
  split
  · next write working =>
    rw [working] at write
    cases write
  · rfl

theorem cutShort_eq_none (whole : ∀ left, d.outage ≠ some (.write (some left))) (d' : Disk) :
    d.cutShort d' = none := by
  unfold cutShort
  split
  · next left cut _ =>
    cases left with
    | none => rfl
    | some left => exact absurd cut (whole left)
  · rfl

/-- A file that cannot be renamed stays where it is. -/
theorem rename_eq_error (failed : d.rename source target = (.error trouble, d')) :
    d'.entries = d.entries := by
  unfold rename at failed
  split at failed
  · split at failed
    · rw [← (Prod.mk.inj failed).2]
      rfl
    · cases failed
  all_goals rw [(Prod.mk.inj failed).2]

section

variable (rooted : d.Rooted root) (kindPlaced : isStep kind = false)
  (namePlaced : isStep name = false)
include rooted kindPlaced namePlaced

/-- A file that was written is all there. -/
theorem write_eq_ok (written : d.write (root ++ [kind, name]) content = (.ok (), d')) :
    d' = d.setNode (root ++ [kind, name]) (.file content) ∧ Takes root [kind, name] ∧
      d.node? (root ++ [kind]) = some .directory ∧ ∀ d'', d.cutShort d'' = none := by
  rw [write_eq] at written
  cases led : d.fileSite (root ++ [kind, name]) with
  | error trouble =>
    rw [led] at written
    cases written
  | ok place =>
    obtain ⟨rfl, takes, home, -⟩ := fileSite_eq_ok rooted kindPlaced namePlaced led
    simp only [led, record] at written
    split at written
    · cases written
    · cases written
    · next whole _ =>
      exact ⟨(Prod.mk.inj written).2.symm, takes, home, cutShort_eq_none whole⟩

/-- A file that could not be written is not there, unless the device cut it short. -/
theorem write_eq_error (fresh : d.node? (root ++ [kind, name]) = none)
    (failed : d.write (root ++ [kind, name]) content = (.error trouble, d')) :
    SameOn (fun path => path ≠ root ++ [kind, name]) d d' ∧ d'.node? (root ++ [kind, name]) =
      (d.cutShort d').map fun left => .file (content.extract 0 left) := by
  rw [write_eq] at failed
  cases led : d.fileSite (root ++ [kind, name]) with
  | error trouble =>
    rw [led] at failed
    obtain rfl : d = d' := (Prod.mk.inj failed).2
    exact ⟨rfl, by rw [fresh, cutShort_self]; rfl⟩
  | ok place =>
    obtain ⟨rfl, -⟩ := fileSite_eq_ok rooted kindPlaced namePlaced led
    simp only [led, record] at failed
    split at failed
    · next left outage =>
      rw [← (Prod.mk.inj failed).2]
      have still : SameOn (fun path => path ≠ root ++ [kind, name]) d d.repaired := rfl
      refine ⟨still.trans (sameOn_setNode (by simp) _), ?_⟩
      rw [node?_setNode, if_pos rfl, cutShort, outage]
      · rfl
      · simp
    · next outage =>
      rw [← (Prod.mk.inj failed).2]
      refine ⟨rfl, ?_⟩
      rw [cutShort, outage]
      exact fresh
    · cases failed

end

end Disk

namespace Directory

open Disk (SameOn)

variable {s s' : Directory} {root : Path} {d : Disk} {key other : Key} {name id unique : String}
  {value : ByteArray} {failure : Failure}

/-- Where a value is written before it is renamed. -/
def staging (s : Directory) (key : Key) (unique : String) : Path :=
  s.ofKind key.kind ++ [stagingName key.id unique]

theorem staging_eq (s : Directory) (key : Key) (unique : String) :
    s.staging key unique = s.root ++ [key.kind, stagingName key.id unique] :=
  s.ofKind_append _ _

/-! ## What is left on the disk -/

/-- What a value that could not be stored leaves on the disk. -/
structure Leftover (s s' : Directory) (key : Key) (value : ByteArray) (unique : String) : Prop where
  root : s'.root = s.root
  standing : s'.disk.Standing s.root
  elsewhere : SameOn (fun path => path ≠ s.ofKind key.kind && path ≠ s.staging key unique)
    s.disk s'.disk
  /-- If there was no directory for the kind, there may be one now. -/
  home : s'.disk.node? (s.ofKind key.kind) = s.disk.node? (s.ofKind key.kind) ∨
    s.disk.node? (s.ofKind key.kind) = none ∧
      s'.disk.node? (s.ofKind key.kind) = some .directory
  /-- The hidden file is there only if the device did not write it to its end. -/
  staged : s'.disk.node? (s.staging key unique) =
    (s.disk.cutShort s'.disk).map fun left => .file (value.extract 0 left)

/-- A file that could not be renamed is removed. -/
theorem failed_settle {target : Path} {content : ByteArray}
    (standing : d.Standing root) (takes : Disk.Takes root [key.kind, name])
    (home : d.node? (root ++ [key.kind]) = some .directory)
    (written : d.node? (root ++ [key.kind, name]) = some (.file content))
    (failed : (⟨d, root⟩ : Directory).settle (root ++ [key.kind, name]) target =
      (.error failure, s')) :
    s'.disk.entries = (d.removeNode (root ++ [key.kind, name])).entries := by
  unfold settle at failed
  split at failed
  · cases failed
  · next trouble d' renamed =>
    have same := Disk.rename_eq_error renamed
    have look := Disk.node?_of_entries same
    have removed := Disk.removeFile_two (standing.of_entries same).rooted takes (by rw [look, home])
    rw [look, written] at removed
    rw [← (Prod.mk.inj failed).2]
    simp [onDisk, removed, Disk.removeNode, same]

section

variable (standing : s.disk.Standing s.root)
  (fresh : s.disk.node? (s.staging key unique) = none)
include standing fresh

/-- A value that could not be written or renamed leaves no file behind, unless the device cut it
short. -/
theorem failed_stage (checked : checkKey key = .ok ())
    (failed : s.stage key value unique = (.error failure, s')) :
    SameOn (fun path => path ≠ s.staging key unique) s.disk s'.disk ∧
      s'.disk.node? (s.staging key unique) =
        (s.disk.cutShort s'.disk).map fun left => .file (value.extract 0 left) := by
  obtain ⟨kind, -⟩ := isSegment_of_checkKey checked
  rw [staging_eq] at fresh ⊢
  rw [stage, ofKind_append] at failed
  split at failed
  · next d' written =>
    obtain ⟨rfl, takes, home, whole⟩ := Disk.write_eq_ok standing.rooted (isStep_of_isSegment kind)
      isStep_stagingName written
    have kept := Disk.Keeps.setFile standing takes home (by simp [fresh]) (.file value)
    have cleared := failed_settle kept.standing takes
      (by rw [Disk.node?_setNode (by simp), if_neg (by simp), home])
      (by rw [Disk.node?_setNode (by simp), if_pos rfl]) failed
    constructor
    · exact ((Disk.sameOn_setNode (by simp) _).trans (Disk.sameOn_removeNode (by simp))).trans
        (.of_entries cleared)
    · rw [Disk.node?_of_entries cleared, Disk.node?_removeNode (by simp), if_pos rfl, whole]
      rfl
  · next trouble d' refused =>
    obtain rfl : s' = s.onDisk d' := (Prod.mk.inj failed).2.symm
    exact Disk.write_eq_error standing.rooted (isStep_of_isSegment kind) isStep_stagingName fresh
      refused

theorem leftover_of_failed_stage (checked : checkKey key = .ok ())
    (failed : s.stage key value unique = (.error failure, s')) :
    s.Leftover s' key value unique := by
  obtain ⟨elsewhere, staged⟩ := failed_stage standing fresh checked failed
  have standing' : (s.stage key value unique).2.disk.Standing s.root :=
    (confined_stage checked value standing standing (.refl _ _ _)).2.2.standing
  have root := s.root_stage key value unique
  rw [failed] at standing' root
  exact {
    root, staged
    standing := standing'
    elsewhere := elsewhere.mono fun path apart => (Bool.and_eq_true_iff.1 apart).2
    home := .inl (elsewhere.node? (by simp [staging])) }

/-- Where nothing was done, nothing is left. -/
theorem leftover_of_entries (same : d.entries = s.disk.entries) (whole : s.disk.cutShort d = none) :
    s.Leftover (s.onDisk d) key value unique where
  root := rfl
  standing := standing.of_entries same
  elsewhere := .of_entries same
  home := .inl (congrFun (Disk.node?_of_entries same) _)
  staged := (congrFun (Disk.node?_of_entries same) _).trans (by rw [fresh, onDisk, whole]; rfl)

omit standing fresh in
/-- A directory that was created for the kind stays. -/
theorem leftover_of_housed (missing : s.disk.node? (s.ofKind key.kind) = none)
    (left : (s.onDisk (s.disk.setNode (s.ofKind key.kind) .directory)).Leftover s' key value
      unique) : s.Leftover s' key value unique := by
  refine ⟨left.root, left.standing, ?_, .inr ⟨missing, ?_⟩, left.staged⟩
  · exact (Disk.sameOn_setNode (by simp) _).trans left.elsewhere
  · have there : (s.disk.setNode (s.ofKind key.kind) .directory).node? (s.ofKind key.kind) =
        some .directory := by
      rw [Disk.node?_setNode (by simp [ofKind]), if_pos rfl]
    rcases left.home with same | ⟨absent, -⟩
    · exact same.trans there
    · cases absent.symm.trans there

/-- Whichever operation failed, the others were undone as far as they are undone at all. -/
theorem leftover_of_failed_store (failed : s.store key value unique = (.error failure, s')) :
    s.Leftover s' key value unique := by
  have unchanged : s.Leftover s key value unique :=
    leftover_of_entries standing fresh rfl (Disk.cutShort_self _)
  rw [store] at failed
  split at failed
  · rwa [← (Prod.mk.inj failed).2]
  · next checked =>
    have placed := isStep_of_isSegment (isSegment_of_checkKey checked).1
    rw [ofKind, Disk.createDirectories_below standing.rooted placed] at failed
    by_cases outage : s.disk.outage = some .createDirectory
    · rw [if_pos outage] at failed
      rw [← (Prod.mk.inj failed).2]
      exact leftover_of_entries standing fresh rfl (by rw [Disk.cutShort, outage])
    rw [if_neg outage] at failed
    by_cases fit : Disk.fits s.root key.kind = true
    · rw [if_pos fit] at failed
      cases home : s.disk.node? (s.root ++ [key.kind]) with
      | none =>
        simp only [home] at failed
        have kept : Disk.Keeps s.root key.kind s.disk
            (s.disk.setNode (s.root ++ [key.kind]) .directory) :=
          .house standing (Disk.takes_of_fits placed fit)
        refine leftover_of_housed home (leftover_of_failed_stage kept.standing ?_ checked failed)
        refine (Disk.node?_setNode (by simp [ofKind]) _ _).trans ((if_neg ?_).trans fresh)
        simp [staging, ofKind, onDisk]
      | some node =>
        cases node with
        | file content =>
          simp only [home] at failed
          rwa [← (Prod.mk.inj failed).2]
        | directory =>
          simp only [home] at failed
          exact leftover_of_failed_stage standing fresh checked failed
    · rw [if_neg fit] at failed
      rwa [← (Prod.mk.inj failed).2]

end

/-! ## What can be told from it -/

/-- The kind of the key has got a directory, and there the disk cannot hold a name like the id of
the key. -/
structure Obscured (s s' : Directory) (key : Key) : Prop where
  checked : checkKey key = .ok ()
  missing : s.disk.node? (s.ofKind key.kind) = none
  home : s'.disk.node? (s.ofKind key.kind) = some .directory
  address : Disk.isAddress (s.file key) = true
  unnamed : Disk.isName key.id = false

/-- What is fetched, by what stands in the way of the key. -/
theorem fetch_below (standing : s.disk.Standing s.root) (checked : checkKey key = .ok ()) :
    s.fetch key = match s.disk.hindrance s.root key.kind key.id with
      | some trouble => .error (explain key trouble)
      | none =>
        match s.disk.node? (s.root ++ [key.kind, key.id]) with
        | some (.file content) => .ok content
        | some .directory => .error refused
        | none => .error (.notFound key.text) := by
  obtain ⟨kind, id⟩ := isSegment_of_checkKey checked
  rw [fetch, checked]
  simp only [file_eq,
    Disk.read_below standing.rooted (isStep_of_isSegment kind) (isStep_of_isSegment id)]
  cases s.disk.hindrance s.root key.kind key.id with
  | some trouble => rfl
  | none =>
    cases s.disk.node? (s.root ++ [key.kind, key.id]) with
    | none => rfl
    | some node => cases node <;> rfl

namespace Leftover

variable (left : s.Leftover s' key value unique)
include left

theorem standing' : s'.disk.Standing s'.root := by
  rw [left.root]
  exact left.standing

/-- Whatever is neither the directory of the kind nor the hidden file is as it was. -/
theorem node? {path : Path} (kind : path ≠ s.ofKind key.kind) (file : path ≠ s.staging key unique) :
    s'.disk.node? path = s.disk.node? path :=
  left.elsewhere.node? (by simp [kind, file])

/-- The directory of a kind is as it was, or the kind has just got one. -/
theorem housed (kind : String) : s'.disk.node? (s.ofKind kind) = s.disk.node? (s.ofKind kind) ∨
    kind = key.kind ∧ s.disk.node? (s.ofKind kind) = none ∧
      s'.disk.node? (s.ofKind kind) = some .directory := by
  by_cases same : kind = key.kind
  · rw [same]
    exact left.home.imp_right fun housed => ⟨rfl, housed⟩
  · exact .inl (left.node? (by simpa [ofKind] using same) (by simp [staging, ofKind]))

/-- Where a key leads to is as it was. -/
theorem entry (checked : checkKey other = .ok ()) :
    s'.disk.node? (s.root ++ [other.kind, other.id]) =
      s.disk.node? (s.root ++ [other.kind, other.id]) := by
  have named : other.id ≠ stagingName key.id unique := by
    intro same
    have shown := isHidden_of_isSegment (isSegment_of_checkKey checked).2
    rw [same, isHidden_stagingName] at shown
    cases shown
  exact left.node? (by simp [ofKind]) (by simp [staging_eq, named])

section

variable (standing : s.disk.Standing s.root)
include standing

theorem visible (kind : String) : s'.visible kind = s.visible kind := by
  by_cases segment : isSegment kind = true
  · -- the hidden file is not listed, and a directory that is new has nothing else to list
    have apart : ∀ name, (!isHidden name) = true →
        (s.ofKind kind ++ [name] ≠ s.ofKind key.kind &&
          s.ofKind kind ++ [name] ≠ s.staging key unique : Bool) = true := by
      intro name shown
      have named : name ≠ stagingName key.id unique := by
        rintro rfl
        simp [isHidden_stagingName] at shown
      simp [staging, ofKind, named]
    have listed := left.elsewhere.listing (!isHidden ·) apart
    have seen := visible_below segment left.standing
    rw [← left.root] at seen
    rw [seen, visible_below segment standing, left.root, ← ofKind, listed]
    rcases left.housed kind with same | ⟨-, missing, home⟩
    · rw [same]
    · rw [missing, home]
  · simp [Directory.visible, checkSegment, segment]

theorem list (kind : String) : s'.list kind = s.list kind := by
  rw [Directory.list, Directory.list, left.visible standing]

/-- Without a directory for its kind a key is missing, whatever its id. -/
theorem fetch_of_obscured (obscured : s.Obscured s' other) :
    s.fetch other = .error (.notFound other.text) ∧ s'.fetch other = .error refused := by
  have kind : Disk.isName other.kind = true :=
    (left.standing.orderly.plain _ (by rw [obscured.home]; rfl) other.kind (by simp [ofKind])).held
  have address := obscured.address
  have missing := obscured.missing
  have home := obscured.home
  rw [file_eq] at address
  rw [ofKind] at missing home
  rw [fetch_below standing obscured.checked, fetch_below left.standing' obscured.checked, left.root]
  simp [Disk.hindrance, address, kind, missing, home, obscured.unnamed, explain, refused]

theorem fetch_of_clear (clear : ¬ s.Obscured s' other) : s'.fetch other = s.fetch other := by
  by_cases checked : checkKey other = .ok ()
  · rw [fetch_below standing checked, fetch_below left.standing' checked, left.root,
      left.entry checked]
    rcases left.housed other.kind with same | ⟨-, missing, home⟩
    · rw [ofKind] at same
      rw [Disk.hindrance, Disk.hindrance, same]
    · have bare := standing.orderly.bare (by rw [missing]; simp) other.id
      rw [ofKind_append] at bare
      have named (address : Disk.isAddress (s.file other) = true) :
          Disk.isName other.id = true := by
        by_contra unnamed
        exact clear ⟨checked, missing, home, address, Bool.eq_false_iff.2 unnamed⟩
      rw [file_eq] at named
      rw [ofKind] at missing home
      rw [bare, Disk.hindrance, Disk.hindrance, missing, home]
      by_cases address : Disk.isAddress (s.root ++ [other.kind, other.id]) = true
      · by_cases kind : Disk.isName other.kind = true
        · simp [address, kind, named address, explain]
        · simp [kind]
      · simp [address]
  · obtain ⟨segment, -, -, refused⟩ := checkKey_eq_error checked
    rw [fetch, fetch, refused]

end

/-- If the kind had its directory already, no key is answered otherwise. -/
theorem not_obscured (home : s.disk.node? (s.ofKind key.kind) ≠ none) :
    ¬ s.Obscured s' other := by
  intro obscured
  rcases left.housed other.kind with same | ⟨own, missing, -⟩
  · rw [obscured.home, obscured.missing] at same
    cases same
  · exact home (own ▸ missing)

end Leftover

/-! ## The first value of a kind -/

theorem isName_of_isName_stagingName (named : Disk.isName (stagingName id unique) = true) :
    Disk.isName id = true := by
  have size : id.utf8ByteSize ≤ (stagingName id unique).utf8ByteSize := by
    simp only [stagingName, toString, String.utf8ByteSize_append]
    omega
  simp only [Disk.isName, toList_stagingName, Bool.and_eq_true, decide_eq_true_eq,
    Bool.not_eq_true', List.contains_eq_mem, decide_eq_false_iff_not] at named ⊢
  refine ⟨by omega, fun zero => named.2 ?_⟩
  simp [zero]

/-- If the id is no name for the disk, the name of the hidden file is none either. -/
theorem stage_of_unnamed (standing : s.disk.Standing s.root) (checked : checkKey key = .ok ())
    (unnamed : Disk.isName key.id = false) :
    s.stage key value unique = (.error refused, s) := by
  obtain ⟨kind, -⟩ := isSegment_of_checkKey checked
  rw [stage, ofKind_append, Disk.write_eq]
  cases led : s.disk.fileSite (s.root ++ [key.kind, stagingName key.id unique]) with
  | error trouble => rfl
  | ok place =>
    obtain ⟨-, takes, -⟩ := Disk.fileSite_eq_ok standing.rooted (isStep_of_isSegment kind)
      isStep_stagingName led
    have staged := takes.proper (stagingName key.id unique) (by simp)
    exact absurd (isName_of_isName_stagingName staged.held) (by simp [unnamed])

/-- The first value of a kind is not stored if its id is no name for the disk, but the kind gets its
directory. -/
theorem obscured_of_unnamed (standing : s.disk.Standing s.root) (checked : checkKey key = .ok ())
    (working : s.disk.outage ≠ some .createDirectory) (fit : Disk.fits s.root key.kind = true)
    (missing : s.disk.node? (s.ofKind key.kind) = none)
    (address : Disk.isAddress (s.file key) = true) (unnamed : Disk.isName key.id = false)
    (value : ByteArray) (unique : String) :
    ∃ s', s.store key value unique = (.error refused, s') ∧ s.Obscured s' key := by
  have placed := isStep_of_isSegment (isSegment_of_checkKey checked).1
  have kept := Disk.Keeps.house standing (Disk.takes_of_fits placed fit)
  refine ⟨s.onDisk (s.disk.setNode (s.ofKind key.kind) .directory), ?_, checked, missing, ?_,
    address, unnamed⟩
  · rw [store, checked]
    rw [ofKind] at missing ⊢
    simp only [Disk.createDirectories_below standing.rooted placed, if_neg working, if_pos fit,
      missing]
    exact stage_of_unnamed kept.standing checked unnamed
  · exact (Disk.node?_setNode (by simp [ofKind]) _ _).trans (if_pos rfl)

/-- A text that is as long as one likes. -/
def lengthy (n : Nat) : String :=
  String.ofList (List.replicate n 'a')

theorem utf8ByteSize_lengthy (n : Nat) : (lengthy n).utf8ByteSize = n := by
  induction n with
  | zero => rfl
  | succ n ih =>
    rw [lengthy] at ih ⊢
    rw [List.replicate_succ, String.ofList_cons, String.utf8ByteSize_append, ih,
      String.utf8ByteSize_singleton, Nat.add_comm]
    rfl

theorem hasDoubleDot_replicate (n : Nat) : hasDoubleDot (List.replicate n 'a') = false := by
  induction n with
  | zero => rfl
  | succ n ih => simpa [List.replicate_succ, hasDoubleDot] using ih

theorem isSegment_lengthy {n : Nat} (long : n ≠ 0) : isSegment (lengthy n) = true := by
  simp [isSegment, lengthy, hasDoubleDot_replicate, long, List.head?_replicate]

theorem checkKey_of_isSegment (kind : isSegment key.kind = true) (id : isSegment key.id = true) :
    checkKey key = .ok () := by
  rw [checkKey, checkSegment, if_pos kind, checkSegment, if_pos id]
  rfl

theorem isAddress_lengthy {n : Nat} (fit : n < 4085) :
    Disk.isAddress ["data", "Agent", lengthy n] = true := by
  have text : "/".intercalate ["data", "Agent", lengthy n] = "data/Agent/" ++ lengthy n := by
    rw [← String.toList_inj]
    simp
  have size : "data/Agent/".utf8ByteSize = 11 := by decide
  have short : 11 + n < 4096 := by omega
  simpa [Disk.isAddress, text, utf8ByteSize_lengthy, size, short] using by simp [lengthy]

/-! ## Traces -/

/-- Nobody who fetches or lists values can tell that one was to be stored, and no file of it is left
over. -/
structure Traceless (s s' : Directory) (key : Key) (unique : String) : Prop where
  fetched : ∀ other, s'.fetch other = s.fetch other
  listed : ∀ kind, s'.list kind = s.list kind
  cleared : s'.disk.node? (s.staging key unique) = none

theorem Leftover.not_traceless (left : s.Leftover s' key value unique)
    (standing : s.disk.Standing s.root) (obscured : s.Obscured s' other) :
    ¬ s.Traceless s' key unique := by
  intro traceless
  obtain ⟨missing, hindered⟩ := left.fetch_of_obscured standing obscured
  have same := traceless.fetched other
  rw [missing, hindered] at same
  cases same

/-- What there is after a value could not be stored, and what is made of it. -/
structure Aftermath (s s' : Directory) (key : Key) (value : ByteArray) (unique : String) : Prop
    extends Leftover s s' key value unique where
  listed : ∀ kind, s'.list kind = s.list kind
  fetched : ∀ other, ¬ s.Obscured s' other → s'.fetch other = s.fetch other
  obscured : ∀ other, s.Obscured s' other →
    s.fetch other = .error (.notFound other.text) ∧ s'.fetch other = .error refused

theorem Leftover.traceless_iff (left : s.Leftover s' key value unique)
    (standing : s.disk.Standing s.root) : s.Traceless s' key unique ↔
      s.disk.cutShort s'.disk = none ∧ ∀ other, ¬ s.Obscured s' other := by
  constructor
  · intro traceless
    refine ⟨?_, fun other obscured => left.not_traceless standing obscured traceless⟩
    have cleared := traceless.cleared
    rwa [left.staged, Option.map_eq_none_iff] at cleared
  · rintro ⟨whole, clear⟩
    refine ⟨fun other => left.fetch_of_clear standing (clear other), left.list standing, ?_⟩
    rw [left.staged, whole]
    rfl

/-- A directory with one on it for a kind, and a device that will refuse an operation. -/
def refusing (outage : Outage) : Directory :=
  ⟨{ entries := [(["data", "Agent"], .directory), (["data"], .directory)], outage := some outage },
    ["data"]⟩

theorem standing_opened : opened.disk.Standing opened.root :=
  standing_open Disk.orderly_empty
    (show «open» {} ["", "data"] = (.ok opened, opened.disk) from rfl)

theorem standing_refusing (outage : Outage) :
    (refusing outage).disk.Standing (refusing outage).root := by
  have takes : Disk.Takes opened.root ["Agent"] := Disk.takes_of_fits (by decide) (by decide)
  exact (Disk.Keeps.house standing_opened takes).standing.of_entries rfl

/-- A value that could not be stored leaves no trace, unless the device cut its hidden file short or
its kind has got a directory in which some id is no name. -/
theorem store_failed (standing : s.disk.Standing s.root)
    (fresh : s.disk.node? (s.staging key unique) = none)
    (failed : s.store key value unique = (.error failure, s')) :
    s.Aftermath s' key value unique ∧ (s.Traceless s' key unique ↔
      s.disk.cutShort s'.disk = none ∧ ∀ other, ¬ s.Obscured s' other) := by
  have left := leftover_of_failed_store standing fresh failed
  exact ⟨{ left with
    listed := left.list standing
    fetched := fun _ => left.fetch_of_clear standing
    obscured := fun _ => left.fetch_of_obscured standing }, left.traceless_iff standing⟩

theorem store_failed_renaming :
    (refusing .rename).disk.Standing ["data"] ∧
      (refusing .rename).disk.node? ["data", "Agent", ".a.x.tmp"] = none ∧
      ∃ s', (refusing .rename).store ⟨"Agent", "a"⟩ "1".toUTF8 "x" = (.error refused, s') ∧
        (refusing .rename).Traceless s' ⟨"Agent", "a"⟩ "x" := by
  have failed : (refusing .rename).store ⟨"Agent", "a"⟩ "1".toUTF8 "x" =
      (.error refused, (refusing .rename).onDisk (refusing .rename).disk.repaired) := by decide
  obtain ⟨aftermath, traceless⟩ := store_failed (standing_refusing .rename) (by decide) failed
  exact ⟨standing_refusing .rename, by decide, _, failed,
    traceless.2 ⟨rfl, fun other => aftermath.toLeftover.not_obscured (by decide)⟩⟩

/-- A key whose id is too long is no longer missing after a value could not be stored there, and of
a value that the device cut short the beginning is left over. -/
theorem store_leaves_traces :
    (opened.disk.Standing opened.root ∧
      opened.disk.node? (opened.staging ⟨"Agent", lengthy 256⟩ "x") = none ∧
      ∃ s', opened.store ⟨"Agent", lengthy 256⟩ "1".toUTF8 "x" = (.error refused, s') ∧
        opened.fetch ⟨"Agent", lengthy 256⟩ =
          .error (.notFound (Key.text ⟨"Agent", lengthy 256⟩)) ∧
        s'.fetch ⟨"Agent", lengthy 256⟩ = .error refused ∧
        ¬ opened.Traceless s' ⟨"Agent", lengthy 256⟩ "x") ∧
    ((refusing (.write (some 1))).disk.Standing ["data"] ∧
      (refusing (.write (some 1))).disk.node? ["data", "Agent", ".a.x.tmp"] = none ∧
      ∃ s', (refusing (.write (some 1))).store ⟨"Agent", "a"⟩ "12".toUTF8 "x" =
          (.error refused, s') ∧
        s'.disk.node? ["data", "Agent", ".a.x.tmp"] = some (.file "1".toUTF8) ∧
        ¬ (refusing (.write (some 1))).Traceless s' ⟨"Agent", "a"⟩ "x") := by
  constructor
  · have fresh : opened.disk.node? (opened.staging ⟨"Agent", lengthy 256⟩ "x") = none := by
      simp [Disk.node?, staging, ofKind, opened]
    have checked : checkKey ⟨"Agent", lengthy 256⟩ = .ok () :=
      checkKey_of_isSegment (by decide) (isSegment_lengthy (by decide))
    have unnamed : Disk.isName (lengthy 256) = false := by
      rw [Disk.isName, utf8ByteSize_lengthy]
      rfl
    obtain ⟨s', failed, obscured⟩ := obscured_of_unnamed standing_opened checked (by decide)
      (by decide) rfl (isAddress_lengthy (by decide)) unnamed "1".toUTF8 "x"
    have left := leftover_of_failed_store standing_opened fresh failed
    obtain ⟨missing, hindered⟩ := left.fetch_of_obscured standing_opened obscured
    exact ⟨standing_opened, fresh, s', failed, missing, hindered,
      fun traceless => left.not_traceless standing_opened obscured traceless⟩
  · refine ⟨standing_refusing _, by decide, ⟨{ entries := [(["data", "Agent", ".a.x.tmp"],
      .file "1".toUTF8), (["data", "Agent"], .directory), (["data"], .directory)] }, ["data"]⟩,
      by decide, by decide, fun traceless => ?_⟩
    exact absurd traceless.cleared (by decide)

end Directory

end Steward.Store
