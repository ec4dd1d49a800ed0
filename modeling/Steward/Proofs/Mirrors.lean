import Steward.Proofs.Disks
import Steward.Proofs.Holdings
import Steward.Store.Basic
import Mathlib.Data.Finmap

/-!
# Both stores are one map

A finite map from keys to values says what a store is to answer. The table in memory is such a map
in another form, and so are the files below a directory, whatever was stored and removed before:
hidden files come and go within one operation. Main statements: `InMemory.act`, `InFiles.act` and
`stores_agree`.
-/

namespace Steward.Store

/-! ## What a store is to answer -/

/-- Values by their keys. -/
abbrev Contents := Finmap fun _ : Key => ByteArray

namespace Contents

/-- The values of a kind. -/
def valuesOf (m : Contents) (kind : String) : Multiset ByteArray :=
  (m.entries.filter (·.1.kind = kind)).map (·.2)

/-- The map without the values of a kind. -/
def drop (m : Contents) (kind : String) : Contents where
  entries := m.entries.filter (·.1.kind ≠ kind)
  nodupKeys := by
    rw [← Multiset.nodup_keys]
    exact Multiset.nodup_of_le (Multiset.map_le_map (Multiset.filter_le _ _))
      (Multiset.nodup_keys.2 m.nodupKeys)

theorem lookup_drop (m : Contents) (kind : String) (key : Key) :
    (m.drop kind).lookup key = if key.kind = kind then none else m.lookup key := by
  refine Option.ext fun value => ?_
  rw [Finmap.lookup_eq_some_iff, drop, Multiset.mem_filter, ← Finmap.lookup_eq_some_iff]
  split
  · next gone => simp [gone]
  · next kept => simp [kept]

end Contents

/-- Something that a store is asked for. The text that tells a hidden file apart counts for files
only. -/
inductive Action where
  | put (key : Key) (value : ByteArray) (unique : String)
  | get (key : Key)
  | delete (key : Key)
  | list (kind : String)
  | deleteKind (kind : String)

/-- What it answers. The order of several values is of no account. -/
inductive Response where
  | done
  | value (content : ByteArray)
  | values (contents : Multiset ByteArray)
  | count (n : Nat)
  | failed (failure : Failure)

/-- The answer of a map, and the map afterwards. -/
def Contents.act (m : Contents) : Action → Response × Contents
  | .put key value _ => (.done, m.insert key value)
  | .get key =>
    match m.lookup key with
    | some content => (.value content, m)
    | none => (.failed (.notFound key.text), m)
  | .delete key => if key ∈ m then (.done, m.erase key) else (.failed (.notFound key.text), m)
  | .list kind => (.values (m.valuesOf kind), m)
  | .deleteKind kind => (.count (m.valuesOf kind).card, m.drop kind)

/-- An answer that may be a failure. -/
def Response.of {α : Type} (success : α → Response) : Except Failure α → Response
  | .ok a => success a
  | .error failure => .failed failure

/-- The answer of a store, and the store afterwards. -/
def act (s : Store) : Action → Response × Store
  | .put key value unique =>
    (.of (fun _ => .done) (s.put key value unique).1, (s.put key value unique).2)
  | .get key => (.of .value (s.get key).1, (s.get key).2)
  | .delete key => (.of (fun _ => .done) (s.delete key).1, (s.delete key).2)
  | .list kind =>
    (.of (fun values : List ByteArray => .values values) (s.list kind).1, (s.list kind).2)
  | .deleteKind kind => (.of .count (s.deleteKind kind).1, (s.deleteKind kind).2)

/-- The answers to one action after another, and what is left in the end. -/
def perform {σ : Type} (act : σ → Action → Response × σ) (s : σ) : List Action → List Response × σ
  | [] => ([], s)
  | action :: actions =>
    ((act s action).1 :: (perform act (act s action).2 actions).1,
      (perform act (act s action).2 actions).2)

/-- The kind and the id can be segments. -/
def Action.Valid : Action → Prop
  | .put key _ _ => checkKey key = .ok ()
  | .get key => checkKey key = .ok ()
  | .delete key => checkKey key = .ok ()
  | .list kind => checkSegment kind = .ok ()
  | .deleteKind kind => checkSegment kind = .ok ()

instance : (action : Action) → Decidable action.Valid
  | .put key _ _ => inferInstanceAs (Decidable (checkKey key = .ok ()))
  | .get key => inferInstanceAs (Decidable (checkKey key = .ok ()))
  | .delete key => inferInstanceAs (Decidable (checkKey key = .ok ()))
  | .list kind => inferInstanceAs (Decidable (checkSegment kind = .ok ()))
  | .deleteKind kind => inferInstanceAs (Decidable (checkSegment kind = .ok ()))

/-- What answers alike step by step answers alike all along. -/
theorem perform_congr {σ τ : Type} (act : σ → Action → Response × σ)
    (act' : τ → Action → Response × τ) {alike : σ → τ → Prop} {P : Action → Prop}
    (step : ∀ s t action, alike s t → P action →
      (act s action).1 = (act' t action).1 ∧ alike (act s action).2 (act' t action).2)
    {s : σ} {t : τ} (begun : alike s t) {actions : List Action} (all : ∀ a ∈ actions, P a) :
    (perform act s actions).1 = (perform act' t actions).1 ∧
      alike (perform act s actions).2 (perform act' t actions).2 := by
  induction actions generalizing s t with
  | nil => exact ⟨rfl, begun⟩
  | cons action actions ih =>
    obtain ⟨same, still⟩ := step s t action begun (all action List.mem_cons_self)
    obtain ⟨rest, ended⟩ := ih still fun a later => all a (List.mem_cons_of_mem _ later)
    exact ⟨by rw [perform, perform, same, rest], ended⟩

/-! ## Values in memory -/

namespace Table

variable {t : Table}

/-- The table as a map. -/
def contents (t : Table) : Contents where
  entries := (t.entries.map fun entry => (⟨entry.1, entry.2⟩ : Sigma fun _ : Key => ByteArray))
  nodupKeys := by
    rw [← Multiset.nodup_keys]
    simpa [Multiset.keys, Function.comp_def] using t.nodup

@[simp]
theorem lookup_contents (key : Key) : t.contents.lookup key = t.get? key := by
  refine Option.ext fun value => ?_
  rw [Finmap.lookup_eq_some_iff, get?_eq_some]
  simp [contents]

theorem contents_empty : empty.contents = ∅ :=
  rfl

theorem contents_put (key : Key) (value : ByteArray) :
    (t.put key value).contents = t.contents.insert key value := by
  refine Finmap.ext_lookup fun other => ?_
  rw [lookup_contents, get?_put]
  split
  · next same => rw [same, Finmap.lookup_insert]
  · next apart => rw [Finmap.lookup_insert_of_ne _ apart, lookup_contents]

theorem contents_erase (key : Key) : (t.erase key).contents = t.contents.erase key := by
  refine Finmap.ext_lookup fun other => ?_
  rw [lookup_contents, get?_erase]
  split
  · next same => rw [same, Finmap.lookup_erase]
  · next apart => rw [Finmap.lookup_erase_ne apart, lookup_contents]

theorem contents_filter (kind : String) :
    (t.filter (·.kind ≠ kind)).contents = t.contents.drop kind := by
  refine Finmap.ext_lookup fun key => ?_
  rw [lookup_contents, get?_filter, Contents.lookup_drop, lookup_contents]
  by_cases gone : key.kind = kind <;> simp [gone]

theorem valuesOf_contents (kind : String) :
    t.contents.valuesOf kind = (t.valuesOf kind : Multiset ByteArray) := by
  simp [contents, Contents.valuesOf, valuesOf, Multiset.filter_coe, List.filter_map,
    Function.comp_def]

end Table

/-- The store has the values of the map in memory, and nothing was told to its front. -/
def InMemory (s : Store) (m : Contents) : Prop :=
  s.faults = {} ∧ ∃ t : Table, s.backing = .memory t ∧ t.contents = m

/-- In memory the store answers like the map, and stays what the map becomes. -/
theorem InMemory.act {s : Store} {m : Contents} {action : Action} (inMemory : InMemory s m)
    (valid : action.Valid) :
    (s.act action).1 = (m.act action).1 ∧ InMemory (s.act action).2 (m.act action).2 := by
  obtain ⟨backing, faults, delay, puts⟩ := s
  obtain ⟨rfl, t, rfl, rfl⟩ := inMemory
  cases action with
  | put key value unique =>
    have stored : t.store key value = .ok (t.put key value) := by
      rw [Table.store, show checkKey key = .ok () from valid]
    simp only [Store.act, put, stored, Contents.act, Response.of]
    exact ⟨trivial, rfl, _, rfl, t.contents_put key value⟩
  | get key =>
    simp only [Store.act, get, Table.fetch, Contents.act, Table.lookup_contents]
    cases t.get? key <;> exact ⟨rfl, rfl, t, rfl, rfl⟩
  | delete key =>
    have present : key ∈ t.contents ↔ (t.get? key).isSome := by
      rw [← Finmap.lookup_isSome, Table.lookup_contents]
    simp only [Store.act, delete, Table.remove, Contents.act, present]
    cases t.get? key with
    | none => exact ⟨rfl, rfl, t, rfl, rfl⟩
    | some value => exact ⟨rfl, rfl, _, rfl, t.contents_erase key⟩
  | list kind =>
    simp only [Store.act, list, contents, Contents.act, Response.of, Table.valuesOf_contents]
    exact ⟨trivial, rfl, t, rfl, rfl⟩
  | deleteKind kind =>
    simp only [Store.act, deleteKind, Table.removeKind, Contents.act, Response.of,
      Table.valuesOf_contents, Multiset.coe_card]
    exact ⟨trivial, rfl, _, rfl, t.contents_filter kind⟩

/-! ## Names in files -/

section Names

variable {name id unique : String}

/-- A segment of a key is the name of an entry that is not hidden. -/
theorem isHidden_of_isSegment (segment : isSegment name = true) :
    Directory.isHidden name = false := by
  rw [Directory.isHidden, beq_eq_false_iff_ne]
  intro dotted
  simp [isSegment, dotted] at segment

theorem isStep_of_isSegment (segment : isSegment name = true) : Disk.isStep name = false := by
  rw [Disk.isStep, Disk.isIdle]
  refine Bool.or_eq_false_iff.2 ⟨Bool.or_eq_false_iff.2 ⟨?_, ?_⟩, ?_⟩ <;>
    refine beq_eq_false_iff_ne.2 fun same => ?_ <;>
    exact absurd (same ▸ segment) (by decide)

theorem toList_stagingName : (Directory.stagingName id unique).toList =
    '.' :: (id.toList ++ '.' :: (unique.toList ++ ".tmp".toList)) := by
  simp [Directory.stagingName, String.toList_append, toString]

theorem isHidden_stagingName : Directory.isHidden (Directory.stagingName id unique) = true := by
  rw [Directory.isHidden, toList_stagingName]
  rfl

theorem isStep_stagingName : Disk.isStep (Directory.stagingName id unique) = false := by
  have apart : ∀ step : String, 't' ∉ step.toList →
      (Directory.stagingName id unique == step) = false := by
    intro step without
    refine beq_eq_false_iff_ne.2 fun same => without ?_
    rw [← same, toList_stagingName]
    simp
  rw [Disk.isStep, Disk.isIdle, apart "" (by decide), apart "." (by decide),
    apart ".." (by decide)]
  rfl

end Names

/-! ## Values in files -/

namespace Directory

variable {s : Directory} {d : Disk} {m m' : Contents} {key : Key} {kind name : String}

theorem disk_onDisk : (s.onDisk d).disk = d :=
  rfl

theorem ofKind_onDisk : (s.onDisk d).ofKind kind = s.ofKind kind :=
  rfl

theorem file_inj {a b : Key} : s.file a = s.file b ↔ a = b := by
  cases a
  cases b
  simp [file]

theorem file_ne_ofKind : s.file key ≠ s.ofKind kind := by
  simp [file, ofKind]

/-- The files below the directory are the values of the map, and nothing else is there. -/
structure Mirrors (s : Directory) (m : Contents) : Prop where
  rooted : s.disk.Rooted s.root
  working : s.disk.outage = none
  unrepeated : s.disk.Unrepeated
  homes : ∀ kind, s.disk.node? (s.ofKind kind) = none ∨
    s.disk.node? (s.ofKind kind) = some .directory
  files : ∀ key, s.disk.node? (s.file key) = (m.lookup key).map .file
  housed : ∀ key ∈ m, s.disk.node? (s.ofKind key.kind) = some .directory
  visible : ∀ key ∈ m, isHidden key.id = false
  taken : ∀ key ∈ m, Disk.Takes s.root [key.kind, key.id]

namespace Mirrors

/-- What one file became is what became of its value. -/
theorem change (mirrors : Mirrors s m) (working : d.outage = none) (unrepeated : d.Unrepeated)
    (same : ∀ path, path ≠ s.file key → d.node? path = s.disk.node? path)
    (there : d.node? (s.file key) = (m'.lookup key).map .file)
    (others : ∀ other, other ≠ key → m'.lookup other = m.lookup other)
    (home : key ∈ m' → s.disk.node? (s.ofKind key.kind) = some .directory)
    (visible : key ∈ m' → isHidden key.id = false)
    (taken : key ∈ m' → Disk.Takes s.root [key.kind, key.id]) : Mirrors (s.onDisk d) m' := by
  have above : ∀ kind, d.node? (s.ofKind kind) = s.disk.node? (s.ofKind kind) := fun kind =>
    same _ file_ne_ofKind.symm
  have rooted : d.Rooted s.root := mirrors.rooted.congr fun p within =>
    same p (Disk.ne_append_of_isPrefix within (by simp))
  have all : ∀ {P : Key → Prop}, (key ∈ m' → P key) → (∀ other ∈ m, P other) →
      ∀ other ∈ m', P other := by
    intro P own kept other inside
    by_cases here : other = key
    · subst here
      exact own inside
    · refine kept other (Finmap.lookup_isSome.1 ?_)
      rw [← others other here]
      exact Finmap.lookup_isSome.2 inside
  refine ⟨rooted, working, unrepeated, fun kind => ?_, fun other => ?_, fun other inside => ?_,
    all visible mirrors.visible, all taken mirrors.taken⟩
  · exact (above kind).symm ▸ mirrors.homes kind
  · by_cases here : other = key
    · rw [here]
      exact there
    · rw [others other here, ← mirrors.files other]
      exact same _ fun equal => here (file_inj.1 equal)
  · exact (above other.kind).trans (all home mirrors.housed other inside)

/-- A directory for one more kind changes no value. -/
theorem house (mirrors : Mirrors s m) (kind : String) :
    Mirrors (s.onDisk (s.disk.setNode (s.ofKind kind) .directory)) m := by
  have below : s.ofKind kind ≠ [] := by simp [ofKind]
  have look := Disk.node?_setNode (d := s.disk) below .directory
  have kinds : ∀ other, (s.disk.setNode (s.ofKind kind) .directory).node? (s.ofKind other) =
      if other = kind then some .directory else s.disk.node? (s.ofKind other) := fun other => by
    rw [look]
    simp [ofKind]
  refine ⟨mirrors.rooted.congr fun p within => ?_, mirrors.working,
    mirrors.unrepeated.setNode _ _, fun other => ?_, fun key => ?_, fun key inside => ?_,
    mirrors.visible, mirrors.taken⟩
  · exact (look p).trans (if_neg (Disk.ne_append_of_isPrefix within (by simp)))
  · rw [disk_onDisk, ofKind_onDisk, kinds]
    split
    · exact .inr rfl
    · exact mirrors.homes other
  · exact ((look _).trans (if_neg file_ne_ofKind)).trans (mirrors.files key)
  · refine (kinds key.kind).trans ?_
    split
    · rfl
    · exact mirrors.housed key inside

/-- After the directory of a kind was created, it is there, and no value changed. -/
theorem createDirectories (mirrors : Mirrors s m) (takes : Disk.Takes s.root [kind]) :
    ∃ d, s.disk.createDirectories (s.ofKind kind) = (.ok (), d) ∧ Mirrors (s.onDisk d) m ∧
      d.node? (s.ofKind kind) = some .directory := by
  obtain ⟨kept, created⟩ := Disk.createDirectories_one mirrors.rooted takes mirrors.working
  rcases mirrors.homes kind with free | there
  · refine ⟨_, created free, mirrors.house kind, ?_⟩
    exact (Disk.node?_setNode (by simp) _ _).trans (if_pos rfl)
  · exact ⟨s.disk, kept there, mirrors, there⟩

/-- A value that is written under another name first is in its own file in the end, and under the
other name there is nothing. -/
theorem stage {unique : String} (mirrors : Mirrors s m) (value : ByteArray)
    (home : s.disk.node? (s.ofKind key.kind) = some .directory) (visible : isHidden key.id = false)
    (taken : Disk.Takes s.root [key.kind, key.id])
    (staged : Disk.Takes s.root [key.kind, stagingName key.id unique]) :
    ∃ d, s.stage key value unique = (.ok (), s.onDisk d) ∧
      Mirrors (s.onDisk d) (m.insert key value) := by
  have free : s.disk.node? (s.file ⟨key.kind, stagingName key.id unique⟩) = none := by
    rw [mirrors.files, Finmap.lookup_eq_none.2, Option.map_none]
    exact fun inside => by simpa [isHidden_stagingName] using mirrors.visible _ inside
  have apart : key.id ≠ stagingName key.id unique := fun same =>
    Bool.false_ne_true (visible.symm.trans ((congrArg isHidden same).trans isHidden_stagingName))
  have unoccupied : s.disk.node? (s.file key) ≠ some .directory := by
    rw [mirrors.files]
    cases m.lookup key <;> nofun
  obtain ⟨during, after, written, renamed, working, unrepeated, look⟩ :=
    Disk.replace_two mirrors.rooted taken home mirrors.working staged value apart free unoccupied
  refine ⟨after, ?_, mirrors.change working (unrepeated mirrors.unrepeated)
    (fun path other => (look path).trans (if_neg other)) ?_
    (fun other apart => Finmap.lookup_insert_of_ne m apart) (fun _ => home) (fun _ => visible)
    (fun _ => taken)⟩
  · rw [Directory.stage, ofKind, List.append_assoc, List.singleton_append, written]
    change (s.onDisk during).settle _ (s.file key) = _
    rw [settle, disk_onDisk, file, renamed]
    rfl
  · rw [Finmap.lookup_insert]
    exact (look _).trans (if_pos rfl)

/-- Where no directory of the kind is, there is no value of the kind. -/
theorem not_mem_of_free (mirrors : Mirrors s m)
    (free : s.disk.node? (s.ofKind key.kind) = none) : key ∉ m := fun inside => by
  simpa [free] using mirrors.housed key inside

theorem read (mirrors : Mirrors s m) (taken : Disk.Takes s.root [key.kind, key.id]) :
    s.disk.read (s.file key) =
      match m.lookup key with
      | some value => .ok value
      | none => .error .missing := by
  rcases mirrors.homes key.kind with free | home
  · rw [Disk.read, Disk.find, file, Disk.locate_two_of_missing mirrors.rooted taken free,
      Finmap.lookup_eq_none.2 (mirrors.not_mem_of_free free)]
  · rw [file, Disk.read_two mirrors.rooted taken home, ← file, mirrors.files]
    cases m.lookup key <;> rfl

theorem removeFile (mirrors : Mirrors s m) (taken : Disk.Takes s.root [key.kind, key.id]) :
    (key ∈ m → ∃ d, s.disk.removeFile (s.file key) = (.ok (), d) ∧
      Mirrors (s.onDisk d) (m.erase key)) ∧
    (key ∉ m → s.disk.removeFile (s.file key) = (.error .missing, s.disk)) := by
  constructor
  · intro inside
    obtain ⟨value, found⟩ := Finmap.mem_iff.1 inside
    have there : s.disk.node? (s.file key) = some (.file value) := by
      rw [mirrors.files, found, Option.map_some]
    have look := Disk.node?_removeNode (d := s.disk) (show s.file key ≠ [] by simp [file])
    refine ⟨s.disk.removeNode (s.file key), ?_, mirrors.change mirrors.working
      (mirrors.unrepeated.removeNode _) (fun path other => (look path).trans (if_neg other)) ?_
      (fun other apart => Finmap.lookup_erase_ne apart) ?_ ?_ ?_⟩
    · rw [file, Disk.removeFile_two mirrors.rooted taken (mirrors.housed key inside), ← file, there]
    · rw [look, if_pos rfl, Finmap.lookup_erase, Option.map_none]
    all_goals exact fun again => absurd again Finmap.notMem_erase_self
  · intro outside
    rcases mirrors.homes key.kind with free | home
    · rw [Disk.removeFile, file, Disk.locate_two_of_missing mirrors.rooted taken free]
    · rw [file, Disk.removeFile_two mirrors.rooted taken home, ← file, mirrors.files,
        Finmap.lookup_eq_none.2 outside, Option.map_none]

/-- The entries that are listed are the files of the values, each of them once. -/
theorem visible_eq (mirrors : Mirrors s m) (takes : Disk.Takes s.root [kind])
    (segment : checkSegment kind = .ok ()) :
    ∃ entries, s.visible kind = .ok entries ∧ (entries.map (·.1)).Nodup ∧
      ∀ name node, (name, node) ∈ entries ↔ (m.lookup ⟨kind, name⟩).map .file = some node := by
  rw [Directory.visible, segment]
  rcases mirrors.homes kind with free | home
  · refine ⟨[], ?_, List.nodup_nil, fun name node => ?_⟩
    · simp only [ofKind, Disk.readDirectory_one_of_missing mirrors.rooted takes free]
    · rw [Finmap.lookup_eq_none.2 (mirrors.not_mem_of_free free)]
      simp
  · obtain ⟨entries, listed, distinct, all⟩ :=
      Disk.readDirectory_one mirrors.rooted takes mirrors.unrepeated home
    refine ⟨entries.filter fun entry => !isHidden entry.1, ?_,
      (List.Sublist.map _ List.filter_sublist).nodup distinct, fun name node => ?_⟩
    · simp only [ofKind, listed]
    · rw [List.mem_filter, all, ← mirrors.files]
      refine and_iff_left_of_imp fun there => ?_
      have inside : (⟨kind, name⟩ : Key) ∈ m := by
        have found := (mirrors.files ⟨kind, name⟩).symm.trans there
        obtain ⟨value, found, -⟩ := Option.map_eq_some_iff.1 found
        exact Finmap.mem_of_lookup_eq_some found
      simpa using mirrors.visible _ inside

/-- Files with the names of a kind's values, each of them once, are the values of the kind. -/
theorem files_eq {entries : List (String × Node)} (distinct : (entries.map (·.1)).Nodup)
    (all : ∀ name node, (name, node) ∈ entries ↔
      (m.lookup ⟨kind, name⟩).map .file = some node) :
    (entries : Multiset (String × Node)) =
      (m.entries.filter (·.1.kind = kind)).map fun entry => (entry.1.id, .file entry.2) := by
  refine (Multiset.Nodup.ext (Multiset.coe_nodup.2 (List.Nodup.of_map _ distinct)) ?_).2 ?_
  · refine Multiset.Nodup.map_on ?_ (Multiset.Nodup.filter _ m.nodup_entries)
    rintro ⟨⟨a, i⟩, v⟩ first ⟨⟨b, j⟩, w⟩ second same
    obtain ⟨rfl, equal⟩ : i = j ∧ Node.file v = .file w := Prod.mk.inj same
    obtain rfl : a = b :=
      (Multiset.mem_filter.1 first).2.trans (Multiset.mem_filter.1 second).2.symm
    rw [Node.file.inj equal]
  · rintro ⟨name, node⟩
    rw [Multiset.mem_coe, all]
    simp only [Multiset.mem_map, Multiset.mem_filter, Prod.mk.injEq, Option.map_eq_some_iff]
    constructor
    · rintro ⟨value, found, rfl⟩
      exact ⟨⟨_, value⟩, ⟨Finmap.lookup_eq_some_iff.1 found, rfl⟩, rfl, rfl⟩
    · rintro ⟨⟨⟨a, i⟩, value⟩, ⟨inside, rfl⟩, rfl, rfl⟩
      exact ⟨value, Finmap.lookup_eq_some_iff.2 inside, rfl⟩

theorem list_eq (mirrors : Mirrors s m) (takes : Disk.Takes s.root [kind])
    (segment : checkSegment kind = .ok ()) :
    ∃ values : List ByteArray, s.list kind = .ok values ∧
      (values : Multiset ByteArray) = m.valuesOf kind := by
  obtain ⟨entries, listed, distinct, all⟩ := mirrors.visible_eq takes segment
  refine ⟨_, by rw [Directory.list, listed]; rfl, ?_⟩
  rw [← Multiset.filterMap_coe, files_eq distinct all, Multiset.filterMap_map, Contents.valuesOf,
    ← Multiset.filterMap_eq_map]
  rfl

/-- The values of the files that are listed are removed, and they are counted. -/
theorem removeFiles {entries : List (String × Node)} (mirrors : Mirrors s m)
    (distinct : (entries.map (·.1)).Nodup)
    (inside : ∀ name ∈ entries.map (·.1), (⟨kind, name⟩ : Key) ∈ m) (count : Nat) :
    ∃ d m', s.removeFiles kind count entries = (.ok (count + entries.length), s.onDisk d) ∧
      Mirrors (s.onDisk d) m' ∧ ∀ key, m'.lookup key =
        if key.kind = kind ∧ key.id ∈ entries.map (·.1) then none else m.lookup key := by
  induction entries generalizing s m count with
  | nil => exact ⟨s.disk, m, rfl, mirrors, by simp⟩
  | cons entry entries ih =>
    obtain ⟨name, node⟩ := entry
    rw [List.map_cons] at distinct
    obtain ⟨fresh, distinct⟩ := List.nodup_cons.1 distinct
    have first := inside name List.mem_cons_self
    have others : ∀ other ∈ entries.map (·.1), (⟨kind, other⟩ : Key) ∈ m.erase ⟨kind, name⟩ := by
      refine fun other later => Finmap.mem_erase.2 ⟨fun same => ?_, ?_⟩
      · exact fresh ((Key.mk.inj same).2 ▸ later)
      · exact inside other (List.mem_cons_of_mem _ later)
    obtain ⟨d, removed, next⟩ := (mirrors.removeFile (mirrors.taken _ first)).1 first
    obtain ⟨d', m', rest, after, gone⟩ := ih next distinct others (count + 1)
    refine ⟨d', m', ?_, after, fun key => ?_⟩
    · have place : s.ofKind kind ++ [name] = s.file ⟨kind, name⟩ := by simp [ofKind, file]
      rw [Directory.removeFiles, place, removed, List.length_cons, Nat.add_comm entries.length,
        ← Nat.add_assoc]
      exact rest
    · rw [gone]
      by_cases here : key = ⟨kind, name⟩
      · subst here
        simp
      · rw [Finmap.lookup_erase_ne here]
        have apart : key.kind = kind → key.id ≠ name := fun k i => here (by rw [← k, ← i])
        refine if_congr (and_congr_right fun same => ?_) rfl rfl
        rw [List.map_cons, List.mem_cons, or_iff_right (apart same)]

theorem removeKind (mirrors : Mirrors s m) (takes : Disk.Takes s.root [kind])
    (segment : checkSegment kind = .ok ()) :
    ∃ d, s.removeKind kind = (.ok (m.valuesOf kind).card, s.onDisk d) ∧
      Mirrors (s.onDisk d) (m.drop kind) := by
  obtain ⟨entries, listed, distinct, all⟩ := mirrors.visible_eq takes segment
  have named : ∀ name, name ∈ entries.map (·.1) ↔ (⟨kind, name⟩ : Key) ∈ m := fun name => by
    rw [Finmap.mem_iff, List.mem_map]
    constructor
    · rintro ⟨⟨_, node⟩, inside, rfl⟩
      obtain ⟨value, found, -⟩ := Option.map_eq_some_iff.1 ((all _ node).1 inside)
      exact ⟨value, found⟩
    · rintro ⟨value, found⟩
      exact ⟨(name, .file value), (all name _).2 (by rw [found, Option.map_some]), rfl⟩
  obtain ⟨d, m', removed, after, gone⟩ :=
    mirrors.removeFiles distinct (fun name inside => (named name).1 inside) 0
  have count : entries.length = (m.valuesOf kind).card := by
    rw [← Multiset.coe_card, files_eq distinct all, Contents.valuesOf, Multiset.card_map,
      Multiset.card_map]
  have dropped : m' = m.drop kind := by
    refine Finmap.ext_lookup fun key => ?_
    rw [gone, Contents.lookup_drop]
    by_cases same : key.kind = kind
    · subst same
      rw [if_pos rfl]
      by_cases inside : key ∈ m
      · exact if_pos ⟨rfl, (named key.id).2 inside⟩
      · rw [Finmap.lookup_eq_none.2 inside, ite_self]
    · rw [if_neg same, if_neg fun both => same both.1]
  refine ⟨d, ?_, dropped ▸ after⟩
  rw [Directory.removeKind, listed, ← count]
  simpa using removed

end Mirrors

/-- Nothing is below the directory where values would be. -/
structure Vacant (s : Directory) : Prop where
  rooted : s.disk.Rooted s.root
  working : s.disk.outage = none
  unrepeated : s.disk.Unrepeated
  homes : ∀ kind, s.disk.node? (s.ofKind kind) = none ∨
    s.disk.node? (s.ofKind kind) = some .directory
  free : ∀ key, s.disk.node? (s.file key) = none

theorem Vacant.mirrors (vacant : s.Vacant) : Mirrors s ∅ where
  rooted := vacant.rooted
  working := vacant.working
  unrepeated := vacant.unrepeated
  homes := vacant.homes
  files := vacant.free
  housed _ inside := absurd inside Finmap.notMem_empty
  visible _ inside := absurd inside Finmap.notMem_empty
  taken _ inside := absurd inside Finmap.notMem_empty

end Directory

/-- The disk has room for a path with these names below the root. -/
structure Room (root names : Path) : Prop where
  address : Disk.isAddress (root ++ names) = true
  held : ∀ name ∈ names, Disk.isName name = true

/-- The disk has room for all paths that the action takes. -/
def Action.Fits (root : Path) : Action → Prop
  | .put key _ unique =>
    Room root [key.kind] ∧ Room root [key.kind, key.id] ∧
      Room root [key.kind, Directory.stagingName key.id unique]
  | .get key => Room root [key.kind, key.id]
  | .delete key => Room root [key.kind, key.id]
  | .list kind => Room root [kind]
  | .deleteKind kind => Room root [kind]

instance (root names : Path) : Decidable (Room root names) :=
  decidable_of_iff (_ ∧ _) ⟨fun room => ⟨room.1, room.2⟩, fun room => ⟨room.1, room.2⟩⟩

instance (root : Path) : (action : Action) → Decidable (action.Fits root)
  | .put _ _ _ => inferInstanceAs (Decidable (_ ∧ _ ∧ _))
  | .get key => inferInstanceAs (Decidable (Room root [key.kind, key.id]))
  | .delete key => inferInstanceAs (Decidable (Room root [key.kind, key.id]))
  | .list kind => inferInstanceAs (Decidable (Room root [kind]))
  | .deleteKind kind => inferInstanceAs (Decidable (Room root [kind]))

theorem Room.takes {root names : Path} (room : Room root names)
    (placed : ∀ name ∈ names, Disk.isStep name = false) : Disk.Takes root names :=
  ⟨room.address, fun name inside => ⟨placed name inside, room.held name inside⟩⟩

section

variable {key : Key} {kind : String}

theorem isSegment_of_checkSegment (checked : checkSegment kind = .ok ()) :
    isSegment kind = true := by
  by_contra wrong
  simp [checkSegment, wrong] at checked

theorem isSegment_of_checkKey (checked : checkKey key = .ok ()) :
    isSegment key.kind = true ∧ isSegment key.id = true := by
  cases kinds : checkSegment key.kind with
  | error failure =>
    rw [checkKey, kinds] at checked
    cases checked
  | ok checkedKind =>
    rw [checkKey, kinds] at checked
    exact ⟨isSegment_of_checkSegment kinds, isSegment_of_checkSegment checked⟩

theorem Room.takes_kind {root : Path} (room : Room root [kind]) (segment : isSegment kind = true) :
    Disk.Takes root [kind] :=
  room.takes (by simpa using isStep_of_isSegment segment)

theorem Room.takes_key {root : Path} (room : Room root [key.kind, key.id])
    (checked : checkKey key = .ok ()) : Disk.Takes root [key.kind, key.id] := by
  obtain ⟨kind, id⟩ := isSegment_of_checkKey checked
  exact room.takes (by simp [isStep_of_isSegment kind, isStep_of_isSegment id])

end

/-- The store has the values of the map in files below the root, and nothing was told to its
front. -/
def InFiles (root : Path) (s : Store) (m : Contents) : Prop :=
  s.faults = {} ∧ ∃ directory : Directory, s.backing = .files directory ∧
    directory.root = root ∧ directory.Mirrors m

section

variable {root : Path} {s : Store} {m : Contents} {action : Action}

/-- In files the store answers like the map, and stays what the map becomes. -/
theorem InFiles.act (inFiles : InFiles root s m) (valid : action.Valid) (fits : action.Fits root) :
    (s.act action).1 = (m.act action).1 ∧ InFiles root (s.act action).2 (m.act action).2 := by
  obtain ⟨backing, faults, delay, puts⟩ := s
  obtain ⟨rfl, directory, rfl, rfl, mirrors⟩ := inFiles
  cases action with
  | put key value unique =>
    obtain ⟨kind, id⟩ := isSegment_of_checkKey valid
    have staged : Disk.Takes directory.root [key.kind, Directory.stagingName key.id unique] :=
      fits.2.2.takes (by simp [isStep_of_isSegment kind, isStep_stagingName])
    obtain ⟨d, created, ensured, home⟩ := mirrors.createDirectories (fits.1.takes_kind kind)
    obtain ⟨d', stored, after⟩ := ensured.stage value home (isHidden_of_isSegment id)
      (fits.2.1.takes_key valid) staged
    have whole : directory.store key value unique = (.ok (), directory.onDisk d') := by
      rw [Directory.store, show checkKey key = .ok () from valid, created]
      exact stored
    simp only [Store.act, put, whole, Contents.act, Response.of]
    exact ⟨trivial, rfl, _, rfl, rfl, after⟩
  | get key =>
    have read := mirrors.read (fits.takes_key valid)
    simp only [Store.act, get, Directory.fetch, show checkKey key = .ok () from valid, read,
      Contents.act]
    cases m.lookup key <;> exact ⟨rfl, rfl, _, rfl, rfl, mirrors⟩
  | delete key =>
    obtain ⟨removed, missing⟩ := mirrors.removeFile (fits.takes_key valid)
    simp only [Store.act, delete, Directory.remove, show checkKey key = .ok () from valid,
      Contents.act]
    by_cases inside : key ∈ m
    · obtain ⟨d, gone, after⟩ := removed inside
      simp only [gone, if_pos inside]
      exact ⟨rfl, rfl, _, rfl, rfl, after⟩
    · simp only [missing inside, if_neg inside]
      exact ⟨rfl, rfl, _, rfl, rfl, mirrors⟩
  | list kind =>
    obtain ⟨values, listed, same⟩ :=
      mirrors.list_eq (fits.takes_kind (isSegment_of_checkSegment valid)) valid
    simp only [Store.act, list, contents, listed, Contents.act, Response.of, same]
    exact ⟨trivial, rfl, _, rfl, rfl, mirrors⟩
  | deleteKind kind =>
    obtain ⟨d, removed, after⟩ :=
      mirrors.removeKind (fits.takes_kind (isSegment_of_checkSegment valid)) valid
    simp only [Store.act, deleteKind, removed, Contents.act, Response.of]
    exact ⟨trivial, rfl, _, rfl, rfl, after⟩

end

/-- Whatever is asked of them, values in memory and values in files are answered for like those of
a finite map. In the end the files are those of the values, and none is hidden. -/
theorem stores_agree {actions : List Action} (valid : ∀ action ∈ actions, action.Valid) :
    (perform act {} actions).1 = (perform Contents.act ∅ actions).1 ∧
    ∀ directory : Directory, directory.Vacant →
      (∀ action ∈ actions, action.Fits directory.root) →
      (perform act { backing := .files directory } actions).1 =
        (perform Contents.act ∅ actions).1 ∧
      ∃ left : Directory, (perform act { backing := .files directory } actions).2.backing =
          .files left ∧ left.root = directory.root ∧
        (∀ key, left.disk.node? (left.file key) =
          ((perform Contents.act ∅ actions).2.lookup key).map .file) ∧
        ∀ kind name, (left.disk.node? (left.root ++ [kind, name])).isSome →
          Directory.isHidden name = false := by
  constructor
  · have empty : InMemory {} ∅ := ⟨rfl, .empty, rfl, Table.contents_empty⟩
    exact (perform_congr act Contents.act
      (fun _ _ action alike (valid : action.Valid) => InMemory.act alike valid) empty valid).1
  · intro directory vacant fits
    have empty : InFiles directory.root { backing := .files directory } ∅ :=
      ⟨rfl, directory, rfl, rfl, vacant.mirrors⟩
    obtain ⟨same, -, left, there, root, mirrors⟩ := perform_congr act Contents.act
      (fun _ _ action alike (both : action.Valid ∧ action.Fits directory.root) =>
        InFiles.act alike both.1 both.2)
      empty fun action asked => ⟨valid action asked, fits action asked⟩
    refine ⟨same, left, there, root, mirrors.files, fun kind name found => ?_⟩
    rw [show left.root ++ [kind, name] = left.file ⟨kind, name⟩ from rfl, mirrors.files,
      Option.isSome_map] at found
    exact mirrors.visible _ (Finmap.lookup_isSome.1 found)

/-- A directory that was just opened on an empty disk. -/
def opened : Directory :=
  ⟨{ entries := [(["data"], .directory)] }, ["data"]⟩

theorem vacant_opened : opened.Vacant where
  rooted := by
    refine ⟨fun name inside => ?_, fun p within => ?_⟩
    · rw [List.mem_singleton.1 inside]
      exact ⟨by decide, by decide⟩
    · rcases (List.mem_inits p _).2 within |> List.mem_cons.1 with rfl | whole
      · rfl
      · rw [List.mem_singleton.1 whole]
        rfl
  working := rfl
  unrepeated := List.nodup_singleton _
  homes kind := .inl (by simp [opened, Directory.ofKind, Disk.node?])
  free key := by simp [opened, Directory.file, Disk.node?]

/-- Two values of a kind, one of them overwritten, then all of the kind are deleted. -/
def errand : List Action :=
  [.put ⟨"Agent", "a"⟩ "1".toUTF8 "x", .put ⟨"Agent", "a"⟩ "2".toUTF8 "x",
    .put ⟨"Agent", "b"⟩ "3".toUTF8 "y", .get ⟨"Agent", "a"⟩, .list "Agent", .deleteKind "Agent",
    .delete ⟨"Agent", "b"⟩]

theorem stores_agree_errand :
    Directory.open {} ["", "data"] = (.ok opened, opened.disk) ∧ opened.Vacant ∧
    (∀ action ∈ errand, action.Valid) ∧ (∀ action ∈ errand, action.Fits opened.root) ∧
    (perform act { backing := .files opened } errand).1 = (perform act {} errand).1 := by
  have valid : ∀ action ∈ errand, action.Valid := by decide
  have fits : ∀ action ∈ errand, action.Fits opened.root := by decide
  obtain ⟨inMemory, inFiles⟩ := stores_agree valid
  exact ⟨rfl, vacant_opened, valid, fits,
    (inFiles opened vacant_opened fits).1.trans inMemory.symm⟩

end Steward.Store
