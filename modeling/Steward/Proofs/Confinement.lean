import Steward.Proofs.Hindrances
import Steward.Proofs.Mirrors

/-!
# Keys are confined

An operation on a directory of values is refused before anything is done if a text of it is no
segment, and has to do with the directory of one kind otherwise: what it answers and what it changes
depends on nothing else, and nothing else is changed. Within the directory of a kind every key has a
file of its own, and no key has a hidden one. That an operation is confined is shown of each
operation on the disk first, and then handed on from its parts to every other one. Main statements:
`Confined.bind`, `confined_of_valid`, `keysConfined`.
-/

namespace Steward.Store

namespace Disk

variable {d d' d'' : Disk} {root path : Path} {kind name target : String} {node : Node}

/-- The directory of a kind below the root, and the names directly inside it. -/
def inKind (root : Path) (kind : String) (path : Path) : Bool :=
  path = root ++ [kind] || (nameIn (root ++ [kind]) path).isSome

theorem inKind_iff : inKind root kind path = true ↔
    path = root ++ [kind] ∨ ∃ name, path = root ++ [kind, name] := by
  simp [inKind, Option.isSome_iff_exists, nameIn_eq_some]

theorem inKind_home : inKind root kind (root ++ [kind]) = true :=
  inKind_iff.2 (.inl rfl)

theorem inKind_name : inKind root kind (root ++ [kind, name]) = true :=
  inKind_iff.2 (.inr ⟨name, rfl⟩)

theorem not_inKind_of_isPrefix (within : path <+: root) : inKind root kind path = false := by
  refine Bool.eq_false_iff.2 fun inside => ?_
  rcases inKind_iff.1 inside with same | ⟨name, same⟩
  all_goals exact ne_append_of_isPrefix within (by simp) same

/-- The disk is orderly, and the root is one of its directories. -/
structure Standing (root : Path) (d : Disk) : Prop where
  orderly : d.Orderly
  home : d.node? root = some .directory

theorem Standing.rooted (standing : Standing root d) : d.Rooted root :=
  standing.orderly.rooted standing.home

theorem node?_of_entries (same : d'.entries = d.entries) : d'.node? = d.node? := by
  funext path
  rw [node?, node?, same]

/-- What the device will do does not count. -/
theorem Standing.of_entries (standing : Standing root d) (same : d'.entries = d.entries) :
    Standing root d' := by
  have look := node?_of_entries same
  refine ⟨⟨?_, ?_⟩, ?_⟩
  all_goals rw [look]
  exacts [standing.orderly.plain, standing.orderly.housed, standing.home]

/-- The disks are alike in the directory of a kind, and their devices will do alike. -/
structure Alike (root : Path) (kind : String) (d d' : Disk) : Prop where
  entries : SameOn (inKind root kind) d d'
  outage : d'.outage = d.outage

namespace Alike

theorem refl (root : Path) (kind : String) (d : Disk) : Alike root kind d d :=
  ⟨rfl, rfl⟩

variable (alike : Alike root kind d d')
include alike

theorem home : d'.node? (root ++ [kind]) = d.node? (root ++ [kind]) :=
  alike.entries.node? inKind_home

theorem entry (name : String) : d'.node? (root ++ [kind, name]) = d.node? (root ++ [kind, name]) :=
  alike.entries.node? inKind_name

theorem hindrance (name : String) : d'.hindrance root kind name = d.hindrance root kind name := by
  rw [Disk.hindrance, Disk.hindrance, alike.home]

theorem repaired : Alike root kind d.repaired d'.repaired :=
  ⟨alike.entries, rfl⟩

theorem setNode (path : Path) (node : Node) :
    Alike root kind (d.setNode path node) (d'.setNode path node) :=
  ⟨alike.entries.setNode path node, alike.outage⟩

theorem removeNode (path : Path) : Alike root kind (d.removeNode path) (d'.removeNode path) :=
  ⟨alike.entries.removeNode path, alike.outage⟩

end Alike

/-- What an operation leaves behind that has to do with one kind only. -/
structure Keeps (root : Path) (kind : String) (d d' : Disk) : Prop where
  standing : Standing root d'
  outside : SameOn (fun path => !inKind root kind path) d d'

namespace Keeps

theorem of_orderly (standing : Standing root d) (orderly : d'.Orderly)
    (outside : SameOn (fun path => !inKind root kind path) d d') : Keeps root kind d d' where
  standing := ⟨orderly, by
    rw [outside.node? (by rw [not_inKind_of_isPrefix (List.prefix_refl root)]; rfl)]
    exact standing.home⟩
  outside := outside

theorem refl (standing : Standing root d) : Keeps root kind d d :=
  ⟨standing, rfl⟩

theorem trans (first : Keeps root kind d d') (second : Keeps root kind d' d'') :
    Keeps root kind d d'' :=
  ⟨second.standing, first.outside.trans second.outside⟩

theorem repaired (standing : Standing root d) : Keeps root kind d d.repaired :=
  ⟨standing.of_entries rfl, rfl⟩

theorem house (standing : Standing root d) (takes : Takes root [kind]) :
    Keeps root kind d (d.setNode (root ++ [kind]) .directory) :=
  of_orderly standing
    (standing.orderly.setNode standing.home (takes.proper kind List.mem_cons_self) (.inl rfl))
    (sameOn_setNode (by rw [inKind_home]; rfl) _)

theorem setFile (standing : Standing root d) (takes : Takes root [kind, name])
    (home : d.node? (root ++ [kind]) = some .directory)
    (unoccupied : d.node? (root ++ [kind, name]) ≠ some .directory) (node : Node) :
    Keeps root kind d (d.setNode (root ++ [kind, name]) node) :=
  of_orderly standing (standing.orderly.setNode_two takes home unoccupied)
    (sameOn_setNode (by rw [inKind_name]; rfl) _)

theorem removeFile (standing : Standing root d)
    (unoccupied : d.node? (root ++ [kind, name]) ≠ some .directory) :
    Keeps root kind d (d.removeNode (root ++ [kind, name])) :=
  of_orderly standing (standing.orderly.removeNode unoccupied)
    (sameOn_removeNode (by rw [inKind_name]; rfl))

end Keeps

/-- The operation has to do with one kind only: it answers and changes alike what is alike in the
directory of the kind, and keeps everything else. -/
def Confined {α : Type} (root : Path) (kind : String) (f : Disk → α × Disk) : Prop :=
  ∀ ⦃d d'⦄, Standing root d → Standing root d' → Alike root kind d d' →
    (f d').1 = (f d).1 ∧ Alike root kind (f d).2 (f d').2 ∧ Keeps root kind d (f d).2

namespace Confined

variable {α β : Type} {f : Disk → α × Disk}

theorem pure (a : α) : Confined root kind fun d => (a, d) :=
  fun _ _ standing _ alike => ⟨rfl, alike, .refl standing⟩

/-- A question that is answered from the directory of the kind. -/
theorem query {q : Disk → α} (same : ∀ ⦃d d'⦄, d.Rooted root → d'.Rooted root →
    Alike root kind d d' → q d' = q d) : Confined root kind fun d => (q d, d) :=
  fun _ _ standing standing' alike =>
    ⟨same standing.rooted standing'.rooted alike, alike, .refl standing⟩

/-- Two operations one after another, the second of which may depend on the answer of the first. -/
theorem bind {g : α → Disk → β × Disk} (first : Confined root kind f)
    (next : ∀ ⦃d⦄, Standing root d → Confined root kind (g (f d).1)) :
    Confined root kind fun d => g (f d).1 (f d).2 := by
  intro d d' standing standing' alike
  obtain ⟨same, still, kept⟩ := first standing standing' alike
  obtain ⟨-, -, kept'⟩ := first standing' standing' (.refl root kind d')
  obtain ⟨same', still', kept''⟩ := next standing kept.standing kept'.standing still
  refine ⟨?_, ?_, kept.trans kept''⟩
  all_goals dsimp only; rw [same]
  exacts [same', still']

theorem map (confined : Confined root kind f) (h : α → β) :
    Confined root kind fun d => (h (f d).1, (f d).2) :=
  confined.bind (g := fun a d => (h a, d)) fun _ _ => .pure _

theorem congr {g : Disk → α × Disk} (confined : Confined root kind f) (same : ∀ d, g d = f d) :
    Confined root kind g :=
  funext same ▸ confined

/-- An operation that may fail, with what follows then and otherwise. -/
theorem attempt {ε : Type} {f : Disk → Except ε α × Disk} {next : α → Disk → β × Disk}
    {stop : ε → Disk → β × Disk} (first : Confined root kind f)
    (goesOn : ∀ ⦃d a⦄, Standing root d → (f d).1 = .ok a → Confined root kind (next a))
    (stops : ∀ trouble, Confined root kind (stop trouble)) :
    Confined root kind fun d =>
      match f d with
      | (.ok a, d) => next a d
      | (.error trouble, d) => stop trouble d := by
  refine (first.bind (g := fun answer => answer.casesOn stop next) fun d standing => ?_).congr
    fun d => ?_
  · cases answered : (f d).1 with
    | ok a => exact goesOn standing answered
    | error trouble => exact stops trouble
  · rcases f d with ⟨answer, d'⟩
    cases answer <;> rfl

end Confined

/-! ## Operations on the disk -/

section

variable (kindPlaced : isStep kind = false) (namePlaced : isStep name = false)
include kindPlaced

theorem confined_createDirectories :
    Confined root kind fun d => d.createDirectories (root ++ [kind]) := by
  intro d d' standing standing' alike
  simp only [createDirectories_below standing.rooted kindPlaced,
    createDirectories_below standing'.rooted kindPlaced, alike.outage, alike.home]
  split
  · exact ⟨rfl, alike.repaired, .repaired standing⟩
  split
  · next fit =>
    cases d.node? (root ++ [kind]) with
    | none => exact ⟨rfl, alike.setNode _ _, .house standing (takes_of_fits kindPlaced fit)⟩
    | some node => cases node <;> exact ⟨rfl, alike, .refl standing⟩
  · exact ⟨rfl, alike, .refl standing⟩

theorem Alike.readDirectory (alike : Alike root kind d d') (rooted : d.Rooted root)
    (rooted' : d'.Rooted root) :
    d'.readDirectory (root ++ [kind]) = d.readDirectory (root ++ [kind]) := by
  have listed := alike.entries.listing (fun _ => true) fun name _ =>
    show inKind root kind (root ++ [kind] ++ [name]) = true from inKind_iff.2 (.inr ⟨name, by simp⟩)
  rw [List.filter_true, List.filter_true] at listed
  rw [readDirectory_below rooted kindPlaced, readDirectory_below rooted' kindPlaced, alike.home,
    listed]

include namePlaced

theorem Alike.read (alike : Alike root kind d d') (rooted : d.Rooted root)
    (rooted' : d'.Rooted root) :
    d'.read (root ++ [kind, name]) = d.read (root ++ [kind, name]) := by
  rw [read_below rooted kindPlaced namePlaced, read_below rooted' kindPlaced namePlaced,
    alike.hindrance, alike.entry]

theorem Alike.fileSite (alike : Alike root kind d d') (rooted : d.Rooted root)
    (rooted' : d'.Rooted root) :
    d'.fileSite (root ++ [kind, name]) = d.fileSite (root ++ [kind, name]) := by
  rw [fileSite_below rooted kindPlaced namePlaced, fileSite_below rooted' kindPlaced namePlaced,
    alike.hindrance, alike.entry]

theorem confined_write (content : ByteArray) :
    Confined root kind fun d => d.write (root ++ [kind, name]) content := by
  intro d d' standing standing' alike
  simp only [write_eq, alike.fileSite kindPlaced namePlaced standing.rooted standing'.rooted]
  cases led : d.fileSite (root ++ [kind, name]) with
  | error trouble => exact ⟨rfl, alike, .refl standing⟩
  | ok place =>
    obtain ⟨rfl, takes, home, unoccupied⟩ :=
      fileSite_eq_ok standing.rooted kindPlaced namePlaced led
    have kept : Keeps root kind d d.repaired := .repaired standing
    simp only [record, alike.outage]
    split
    · exact ⟨rfl, alike.repaired.setNode _ _,
        kept.trans (.setFile kept.standing takes home unoccupied _)⟩
    · exact ⟨rfl, alike.repaired, kept⟩
    · exact ⟨rfl, alike.setNode _ _, .setFile standing takes home unoccupied _⟩

theorem confined_removeFile :
    Confined root kind fun d => d.removeFile (root ++ [kind, name]) := by
  intro d d' standing standing' alike
  simp only [removeFile_below standing.rooted kindPlaced namePlaced,
    removeFile_below standing'.rooted kindPlaced namePlaced, alike.hindrance, alike.entry]
  cases d.hindrance root kind name with
  | some trouble => exact ⟨rfl, alike, .refl standing⟩
  | none =>
    cases there : d.node? (root ++ [kind, name]) with
    | none => exact ⟨rfl, alike, .refl standing⟩
    | some node =>
      cases node with
      | directory => exact ⟨rfl, alike, .refl standing⟩
      | file content =>
        exact ⟨rfl, alike.removeNode _, .removeFile standing (by simp [there])⟩

theorem confined_rename (targetPlaced : isStep target = false) :
    Confined root kind fun d => d.rename (root ++ [kind, name]) (root ++ [kind, target]) := by
  intro d d' standing standing' alike
  simp only [rename_below standing.rooted kindPlaced namePlaced,
    rename_below standing'.rooted kindPlaced namePlaced,
    alike.read kindPlaced namePlaced standing.rooted standing'.rooted,
    alike.fileSite kindPlaced targetPlaced standing.rooted standing'.rooted, alike.outage]
  cases readd : d.read (root ++ [kind, name]) with
  | error trouble => exact ⟨rfl, alike, .refl standing⟩
  | ok content =>
    cases led : d.fileSite (root ++ [kind, target]) with
    | error trouble => exact ⟨rfl, alike, .refl standing⟩
    | ok place =>
      obtain ⟨rfl, takes, home, unoccupied⟩ :=
        fileSite_eq_ok standing.rooted kindPlaced targetPlaced led
      dsimp only
      split
      · exact ⟨rfl, alike.repaired, .repaired standing⟩
      · have look : ∀ other, (d.removeNode (root ++ [kind, name])).node? other =
            if other = root ++ [kind, name] then none else d.node? other :=
          node?_removeNode (by simp)
        have leaf : d.node? (root ++ [kind, name]) ≠ some .directory := by
          intro occupied
          rw [read_below standing.rooted kindPlaced namePlaced, occupied] at readd
          split at readd <;> cases readd
        have removed := Keeps.removeFile standing leaf
        refine ⟨rfl, (alike.removeNode _).setNode _ _, removed.trans
          (.setFile removed.standing takes ?_ ?_ _)⟩
        · rw [look, if_neg (by simp)]
          exact home
        · rw [look]
          split
          · simp
          · exact unoccupied

end

end Disk

namespace Directory

open Disk (Confined)

variable {root : Path} {d : Disk} {kind name target unique : String} {key : Key}

/-- An operation on a directory, as one on the disk that it is on. -/
def onRoot {α : Type} (root : Path) (f : Directory → α × Directory) (d : Disk) : α × Disk :=
  ((f ⟨d, root⟩).1, (f ⟨d, root⟩).2.disk)

theorem file_eq (s : Directory) (key : Key) : s.file key = s.root ++ [key.kind, key.id] :=
  rfl

theorem ofKind_append (s : Directory) (kind name : String) :
    s.ofKind kind ++ [name] = s.root ++ [kind, name] := by
  simp [ofKind]

section

variable (kindPlaced : Disk.isStep kind = false)
include kindPlaced

theorem confined_settle (namePlaced : Disk.isStep name = false)
    (targetPlaced : Disk.isStep target = false) :
    Confined root kind (onRoot root fun s =>
      s.settle (root ++ [kind, name]) (root ++ [kind, target])) := by
  refine ((Disk.confined_rename kindPlaced namePlaced targetPlaced).attempt
    (fun _ _ _ _ => .pure (Except.ok ()))
    fun _ => (Disk.confined_removeFile kindPlaced namePlaced).map fun _ => .error refused).congr
    fun d => ?_
  rw [onRoot, settle]
  rcases d.rename (root ++ [kind, name]) (root ++ [kind, target]) with ⟨answer, d'⟩
  cases answer <;> rfl

/-- Files of a directory are removed, up to an entry that is no file. -/
theorem confined_removeFiles {entries : List (String × Node)} (count : Nat)
    (placed : ∀ entry ∈ entries, Disk.isStep entry.1 = false) :
    Confined root kind (onRoot root fun s => s.removeFiles kind count entries) := by
  induction entries generalizing count with
  | nil => exact .pure _
  | cons entry entries ih =>
    obtain ⟨name, node⟩ := entry
    have rest := fun count => ih count fun entry later =>
      placed entry (List.mem_cons_of_mem _ later)
    have stops : ∀ trouble, Confined root kind (if trouble = Trouble.missing
        then onRoot root fun s => s.removeFiles kind count entries
        else fun d => (.error refused, d)) := by
      intro trouble
      split
      · exact rest count
      · exact .pure _
    refine ((Disk.confined_removeFile kindPlaced (placed _ List.mem_cons_self)).attempt
      (fun _ _ _ _ => rest (count + 1)) stops).congr fun d => ?_
    rw [onRoot, removeFiles, ofKind_append]
    cases removed : d.removeFile (root ++ [kind, name]) with
    | mk answer d' =>
      cases answer with
      | ok _ => rfl
      | error trouble =>
        obtain rfl := Disk.removeFile_eq_error removed
        cases trouble <;> rfl

end

section

variable (segment : isSegment kind = true)
include segment

/-- On an orderly disk a kind that is missing is listed like one that is bare. -/
theorem visible_below (standing : d.Standing root) :
    (⟨d, root⟩ : Directory).visible kind =
      if Disk.fits root kind then
        match d.node? (root ++ [kind]) with
        | some (.file _) => .error refused
        | some .directory | none =>
          .ok ((d.listing (root ++ [kind])).filter fun entry => !isHidden entry.1)
      else .error refused := by
  have checked : checkSegment kind = .ok () := if_pos segment
  simp only [visible, checked, ofKind,
    Disk.readDirectory_below standing.rooted (isStep_of_isSegment segment)]
  by_cases fit : Disk.fits root kind = true
  · simp only [fit, if_true]
    cases home : d.node? (root ++ [kind]) with
    | none =>
      rw [Disk.listing_eq_nil (standing.orderly.bare (by simp [home]))]
      rfl
    | some node => cases node <;> rfl
  · simp [fit]

theorem visible_alike {d' : Disk} (rooted : d.Rooted root) (rooted' : d'.Rooted root)
    (alike : Disk.Alike root kind d d') :
    (⟨d', root⟩ : Directory).visible kind = (⟨d, root⟩ : Directory).visible kind := by
  simp only [visible, ofKind, alike.readDirectory (isStep_of_isSegment segment) rooted rooted']

/-- What is listed on an orderly disk are names of entries. -/
theorem placed_of_visible (standing : d.Standing root) {entries : List (String × Node)}
    (seen : (⟨d, root⟩ : Directory).visible kind = .ok entries) :
    ∀ entry ∈ entries, Disk.isStep entry.1 = false := by
  have shown : ∀ entry ∈ (d.listing (root ++ [kind])).filter fun entry => !isHidden entry.1,
      Disk.isStep entry.1 = false := by
    rintro ⟨name, node⟩ inside
    have there := Disk.isSome_node?_of_mem (Disk.mem_listing_iff.1 (List.mem_filter.1 inside).1)
    exact (standing.orderly.plain _ there name (by simp)).placed
  rw [visible_below segment standing] at seen
  split at seen
  · split at seen
    · cases seen
    all_goals rwa [Except.ok.inj seen] at shown
  · cases seen

theorem confined_list : Confined root kind (onRoot root fun s => (s.list kind, s)) := by
  refine .query fun d d' rooted rooted' alike => ?_
  simp only [list, visible_alike segment rooted rooted' alike]

theorem confined_removeKind : Confined root kind (onRoot root fun s => s.removeKind kind) := by
  refine ((Confined.query fun _ _ rooted rooted' alike =>
    visible_alike segment rooted rooted' alike).attempt
    (fun _ _ standing seen => confined_removeFiles (isStep_of_isSegment segment) 0
      (placed_of_visible segment standing seen))
    fun failure => .pure (.error failure)).congr fun d => ?_
  simp only [onRoot, removeKind]
  cases (⟨d, root⟩ : Directory).visible kind <;> rfl

end

section

variable (checked : checkKey key = .ok ())
include checked

theorem confined_fetch : Confined root key.kind (onRoot root fun s => (s.fetch key, s)) := by
  obtain ⟨kind, id⟩ := isSegment_of_checkKey checked
  refine .query fun d d' rooted rooted' alike => ?_
  simp only [fetch, file_eq,
    alike.read (isStep_of_isSegment kind) (isStep_of_isSegment id) rooted rooted']

theorem confined_stage (value : ByteArray) :
    Confined root key.kind (onRoot root fun s => s.stage key value unique) := by
  obtain ⟨kind, id⟩ := isSegment_of_checkKey checked
  have staged : Disk.isStep (stagingName key.id unique) = false := isStep_stagingName
  refine ((Disk.confined_write (isStep_of_isSegment kind) staged value).attempt
    (fun _ _ _ _ => confined_settle (isStep_of_isSegment kind) staged (isStep_of_isSegment id))
    fun _ => .pure (.error refused)).congr fun d => ?_
  rw [onRoot, stage, ofKind_append]
  rcases d.write (root ++ [key.kind, stagingName key.id unique]) value with ⟨answer, d'⟩
  cases answer <;> rfl

theorem confined_store (value : ByteArray) :
    Confined root key.kind (onRoot root fun s => s.store key value unique) := by
  obtain ⟨kind, -⟩ := isSegment_of_checkKey checked
  have staged : Confined root key.kind (onRoot root fun s => s.stage key value unique) :=
    confined_stage checked value
  refine ((Disk.confined_createDirectories (isStep_of_isSegment kind)).attempt
    (fun _ _ _ _ => staged) fun _ => .pure (.error refused)).congr fun d => ?_
  rw [onRoot, store, checked]
  simp only [ofKind]
  rcases d.createDirectories (root ++ [key.kind]) with ⟨answer, d'⟩
  cases answer <;> rfl

theorem confined_remove : Confined root key.kind (onRoot root fun s => s.remove key) := by
  obtain ⟨kind, id⟩ := isSegment_of_checkKey checked
  refine ((Disk.confined_removeFile (isStep_of_isSegment kind) (isStep_of_isSegment id)).attempt
    (fun _ _ _ _ => .pure (Except.ok ())) fun trouble => .pure (.error (explain key trouble))).congr
    fun d => ?_
  rw [onRoot, remove, checked]
  simp only [file_eq]
  cases removed : d.removeFile (root ++ [key.kind, key.id]) with
  | mk answer d' =>
    cases answer with
    | ok _ => rfl
    | error trouble =>
      obtain rfl := Disk.removeFile_eq_error removed
      rfl

end

/-! ## The root stays where it is -/

section Root

variable (s : Directory)

theorem root_settle (staging file : Path) : (s.settle staging file).2.root = s.root := by
  rw [settle]
  split <;> rfl

theorem root_stage (key : Key) (value : ByteArray) (unique : String) :
    (s.stage key value unique).2.root = s.root := by
  simp only [stage]
  split
  · exact root_settle _ _ _
  · rfl

theorem root_store (key : Key) (value : ByteArray) (unique : String) :
    (s.store key value unique).2.root = s.root := by
  rw [store]
  split
  · rfl
  · split
    · rfl
    · exact root_stage _ key value unique

theorem root_remove (key : Key) : (s.remove key).2.root = s.root := by
  rw [remove]
  split
  · rfl
  · split <;> rfl

theorem root_removeFiles (kind : String) (entries : List (String × Node)) (count : Nat) :
    (s.removeFiles kind count entries).2.root = s.root := by
  induction entries generalizing s count with
  | nil => rfl
  | cons entry entries ih =>
    rw [removeFiles]
    split
    · exact ih _ _
    · exact ih _ _
    · rfl

theorem root_removeKind (kind : String) : (s.removeKind kind).2.root = s.root := by
  rw [removeKind]
  split
  · rfl
  · exact root_removeFiles _ _ _ _

end Root

/-- The answer of a directory, and the directory afterwards. -/
def act (s : Directory) : Action → Response × Directory
  | .put key value unique =>
    (.of (fun _ => .done) (s.store key value unique).1, (s.store key value unique).2)
  | .get key => (.of .value (s.fetch key), s)
  | .delete key => (.of (fun _ => .done) (s.remove key).1, (s.remove key).2)
  | .list kind => (.of (fun values : List ByteArray => .values values) (s.list kind), s)
  | .deleteKind kind => (.of .count (s.removeKind kind).1, (s.removeKind kind).2)

theorem root_act (s : Directory) (action : Action) : (s.act action).2.root = s.root := by
  cases action with
  | put key value unique => exact s.root_store key value unique
  | get key => rfl
  | delete key => exact s.root_remove key
  | list kind => rfl
  | deleteKind kind => exact s.root_removeKind kind

end Directory

/-- The kind that an action is about. -/
def Action.kind : Action → String
  | .put key _ _ => key.kind
  | .get key => key.kind
  | .delete key => key.kind
  | .list kind => kind
  | .deleteKind kind => kind

/-- The texts that have to be segments for the action, in the order in which they are checked. -/
def Action.segments : Action → List String
  | .put key _ _ => [key.kind, key.id]
  | .get key => [key.kind, key.id]
  | .delete key => [key.kind, key.id]
  | .list kind => [kind]
  | .deleteKind kind => [kind]

theorem checkSegment_eq_error {segment : String} (wrong : checkSegment segment ≠ .ok ()) :
    isSegment segment = false ∧ checkSegment segment = .error (.invalidKey s!"'{segment}'") := by
  by_cases fine : isSegment segment = true
  · exact absurd (if_pos fine) wrong
  · exact ⟨by simpa using fine, if_neg fine⟩

theorem checkKey_eq_error {key : Key} (wrong : checkKey key ≠ .ok ()) :
    ∃ segment ∈ [key.kind, key.id], isSegment segment = false ∧
      checkKey key = .error (.invalidKey s!"'{segment}'") := by
  by_cases kind : checkSegment key.kind = .ok ()
  · have rest : checkKey key = checkSegment key.id := by
      rw [checkKey, kind]
      rfl
    obtain ⟨no, refused⟩ := checkSegment_eq_error (rest ▸ wrong)
    exact ⟨key.id, by simp, no, rest.trans refused⟩
  · obtain ⟨no, refused⟩ := checkSegment_eq_error kind
    refine ⟨key.kind, by simp, no, ?_⟩
    rw [checkKey, refused]
    rfl

/-- An action with a text that is no segment is refused, whatever is on the disk. -/
theorem refused_of_not_valid {action : Action} (invalid : ¬ action.Valid) :
    ∃ segment ∈ action.segments, isSegment segment = false ∧
      ∀ s : Directory, s.act action = (.failed (.invalidKey s!"'{segment}'"), s) := by
  cases action with
  | put key value unique =>
    obtain ⟨segment, own, no, refused⟩ := checkKey_eq_error invalid
    exact ⟨segment, own, no, fun s => by
      simp [Directory.act, Directory.store, refused, Response.of]⟩
  | get key =>
    obtain ⟨segment, own, no, refused⟩ := checkKey_eq_error invalid
    exact ⟨segment, own, no, fun s => by
      simp [Directory.act, Directory.fetch, refused, Response.of]⟩
  | delete key =>
    obtain ⟨segment, own, no, refused⟩ := checkKey_eq_error invalid
    exact ⟨segment, own, no, fun s => by
      simp [Directory.act, Directory.remove, refused, Response.of]⟩
  | list kind =>
    obtain ⟨no, refused⟩ := checkSegment_eq_error invalid
    exact ⟨kind, by simp [Action.segments], no, fun s => by
      simp [Directory.act, Directory.list, Directory.visible, refused, Response.of, Except.map]⟩
  | deleteKind kind =>
    obtain ⟨no, refused⟩ := checkSegment_eq_error invalid
    exact ⟨kind, by simp [Action.segments], no, fun s => by
      simp [Directory.act, Directory.removeKind, Directory.visible, refused, Response.of]⟩

/-- Any other action has to do with its kind only. -/
theorem confined_of_valid {action : Action} (valid : action.Valid) (root : Path) :
    Disk.Confined root action.kind (Directory.onRoot root (·.act action)) := by
  cases action with
  | put key value unique =>
    exact (Directory.confined_store valid value).map (Response.of fun _ => .done)
  | get key => exact (Directory.confined_fetch valid).map (Response.of .value)
  | delete key => exact (Directory.confined_remove valid).map (Response.of fun _ => .done)
  | list kind =>
    exact (Directory.confined_list (isSegment_of_checkSegment valid)).map
      (Response.of fun values : List ByteArray => .values values)
  | deleteKind kind =>
    exact (Directory.confined_removeKind (isSegment_of_checkSegment valid)).map (Response.of .count)

/-! ## Keys and paths as they are written -/

section Written

variable {path root : Path} {key other : Key} {kind name id unique : String}

/-- A path as it is written, with slashes between the names. -/
def written (path : Path) : String :=
  "/".intercalate path

/-- The names on a path that is written. -/
def namesOn (text : String) : List String :=
  (text.split '/').toList.map (·.copy)

theorem namesOn_written (plain : ∀ name ∈ path, '/' ∉ name.toList) (below : path ≠ []) :
    namesOn (written path) = path := by
  have read := String.toList_split_intercalate plain
  rw [if_neg below] at read
  exact read

/-- A text that is one name on a path, and leads down. -/
structure Component (text : String) : Prop where
  nonempty : text ≠ ""
  leaves : text ≠ "."
  descends : text ≠ ".."
  single : '/' ∉ text.toList ∧ '\\' ∉ text.toList

theorem component_of_isSegment (segment : isSegment name = true) : Component name := by
  have placed := isStep_of_isSegment segment
  simp only [Disk.isStep, Disk.isIdle, Bool.or_eq_false_iff, beq_eq_false_iff_ne] at placed
  refine ⟨placed.1.1, placed.1.2, placed.2, ?_⟩
  simp only [isSegment, Bool.and_eq_true, Bool.not_eq_true', List.any_eq_false, Bool.or_eq_true,
    decide_eq_true_eq, not_or] at segment
  exact ⟨fun slash => (segment.1.2 _ slash).1 rfl, fun slash => (segment.1.2 _ slash).2 rfl⟩

theorem toList_text (key : Key) : key.text.toList = key.kind.toList ++ '/' :: key.id.toList := by
  simp [Key.text, toString]

/-- The first slash of the text is where the kind ends. -/
theorem text_inj (plain : '/' ∉ key.kind.toList) (plain' : '/' ∉ other.kind.toList) :
    key.text = other.text ↔ key = other := by
  have front : ∀ {cs rest : List Char}, '/' ∉ cs →
      (cs ++ '/' :: rest).takeWhile (· != '/') = cs := by
    intro cs rest without
    rw [List.takeWhile_append_of_pos]
    · simp
    · intro c inside
      rw [bne_iff_ne]
      rintro rfl
      exact without inside
  constructor
  · intro same
    have chars := congrArg String.toList same
    rw [toList_text, toList_text] at chars
    have kinds := congrArg (List.takeWhile (· != '/')) chars
    rw [front plain, front plain'] at kinds
    rw [kinds, List.append_cancel_left_eq, List.cons.injEq] at chars
    cases key
    cases other
    rw [Key.mk.injEq]
    exact ⟨String.toList_inj.1 kinds, String.toList_inj.1 chars.2⟩
  · rintro rfl
    rfl

/-- After the path of the root, the path of a key is written like the key. -/
theorem written_inj_below :
    written (root ++ [key.kind, key.id]) = written (root ++ [other.kind, other.id]) ↔
      key.text = other.text := by
  have ends : ∀ key : Key, written [key.kind, key.id] = key.text := fun key => by
    simp [written, Key.text, toString]
  by_cases empty : root = []
  · simp [empty, ends]
  · have whole : ∀ key : Key, written (root ++ [key.kind, key.id]) =
        written root ++ "/" ++ key.text := fun key => by
      rw [← ends]
      exact String.intercalate_append_of_ne_nil empty (by simp)
    rw [whole, whole]
    exact String.append_right_inj _

theorem written_file_inj {s : Directory} (checked : checkKey key = .ok ())
    (plain : '/' ∉ other.kind.toList) :
    written (s.file key) = written (s.file other) ↔ key = other :=
  written_inj_below.trans
    (text_inj (component_of_isSegment (isSegment_of_checkKey checked).1).single.1 plain)

end Written

/-- No operation leaves the directory of the kind that it is about, and no two keys meet on the
disk, nor does a key meet a hidden file. -/
structure KeysConfined : Prop where
  /-- If a text is no segment, the answer is the same on every disk, and the disk stays as it is. -/
  refused : ∀ action : Action, ¬ action.Valid →
    ∃ segment ∈ action.segments, isSegment segment = false ∧
      ∀ s : Directory, s.act action = (.failed (.invalidKey s!"'{segment}'"), s)
  /-- Otherwise it is about the directory of the kind and the names directly inside it. -/
  confined : ∀ action : Action, action.Valid →
    (∀ root, Disk.Confined root action.kind (Directory.onRoot root (·.act action))) ∧
      ∀ s : Directory, (s.act action).2.root = s.root
  components : ∀ key, checkKey key = .ok () → Component key.kind ∧ Component key.id
  /-- As they are written, the paths of a key and of its hidden file go on below the root with just
  two names. -/
  paths : ∀ key, checkKey key = .ok () → ∀ s : Directory, (∀ name ∈ s.root, '/' ∉ name.toList) →
    namesOn (written (s.file key)) = s.root ++ [key.kind, key.id] ∧
      ∀ unique, '/' ∉ unique.toList →
        namesOn (written (s.ofKind key.kind ++ [Directory.stagingName key.id unique])) =
          s.root ++ [key.kind, Directory.stagingName key.id unique]
  apart : ∀ key other, checkKey key = .ok () → checkKey other = .ok () → key ≠ other →
    key.text ≠ other.text ∧ ∀ s : Directory, written (s.file key) ≠ written (s.file other)
  unstaged : ∀ key kind, checkKey key = .ok () → checkSegment kind = .ok () → ∀ id unique,
    ∀ s : Directory, written (s.file key) ≠
      written (s.ofKind kind ++ [Directory.stagingName id unique])

theorem keysConfined : KeysConfined where
  refused _ invalid := refused_of_not_valid invalid
  confined action valid := ⟨confined_of_valid valid, fun s => s.root_act action⟩
  components key checked :=
    (isSegment_of_checkKey checked).imp component_of_isSegment component_of_isSegment
  paths key checked s plain := by
    obtain ⟨kind, id⟩ := (isSegment_of_checkKey checked).imp component_of_isSegment
      component_of_isSegment
    have names : ∀ last : String, '/' ∉ last.toList →
        namesOn (written (s.root ++ [key.kind, last])) = s.root ++ [key.kind, last] := by
      refine fun last whole => namesOn_written (fun name inside => ?_) (by simp)
      simp only [List.mem_append, List.mem_cons, List.not_mem_nil, or_false] at inside
      obtain above | rfl | rfl := inside
      exacts [plain name above, kind.single.1, whole]
    refine ⟨names key.id id.single.1, fun unique whole => ?_⟩
    rw [Directory.ofKind_append]
    refine names _ ?_
    simpa [toList_stagingName] using ⟨id.single.1, whole⟩
  apart key other checked checked' different := by
    obtain ⟨kind, -⟩ := (isSegment_of_checkKey checked).imp_left component_of_isSegment
    obtain ⟨kind', -⟩ := (isSegment_of_checkKey checked').imp_left component_of_isSegment
    exact ⟨fun same => different ((text_inj kind.single.1 kind'.single.1).1 same),
      fun s same => different ((written_file_inj checked kind'.single.1).1 same)⟩
  unstaged key kind checked segment id unique s same := by
    have whole := (component_of_isSegment (isSegment_of_checkSegment segment)).single.1
    have staged : s.ofKind kind ++ [Directory.stagingName id unique] =
        s.file ⟨kind, Directory.stagingName id unique⟩ := s.ofKind_append kind _
    rw [staged, written_file_inj checked whole] at same
    have hidden := isHidden_of_isSegment (isSegment_of_checkKey checked).2
    rw [same, isHidden_stagingName] at hidden
    cases hidden

end Steward.Store
