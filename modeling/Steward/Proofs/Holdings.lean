import Mathlib.Data.List.Nodup
import Mathlib.Data.List.Pairwise
import Steward.Catalog.Lookup
import Steward.Proofs.Codec

/-!
# What a table holds

Under a key a table holds a resource if the value there decodes to it. A table is well kept for a
kind if each of its values of that kind is a sound resource stored under its own id and no two of
them share a natural key. Main statements: `KindKept.add`, `KindKept.renew` and `KindKept.drop`, the
three ways in which a table changes, and `mem_decodeAll`, what a listing finds.
-/

namespace Steward

/-! ## Looking values up -/

namespace Store.Table

variable {t : Table} {key : Key} {value : ByteArray}

theorem get?_eq_some : t.get? key = some value ↔ (key, value) ∈ t.entries := by
  obtain ⟨entries, nodup⟩ := t
  show (entries.find? (·.1 = key)).map (·.2) = some value ↔ _
  induction entries with
  | nil => simp
  | cons entry entries ih =>
    obtain ⟨other, kept⟩ := entry
    obtain ⟨absent, nodup⟩ := List.nodup_cons.1 nodup
    rw [List.find?_cons, List.mem_cons]
    by_cases same : other = key
    · subst same
      have elsewhere : (other, value) ∉ entries := fun inside =>
        absent (List.mem_map.2 ⟨_, inside, rfl⟩)
      simp [elsewhere, eq_comm]
    · simpa [same, Ne.symm same] using ih nodup

/-- The values of a kind are those that are found under its ids. -/
theorem mem_valuesOf {kind : String} :
    value ∈ t.valuesOf kind ↔ ∃ id, t.get? ⟨kind, id⟩ = some value := by
  simp only [valuesOf, List.mem_map, List.mem_filter, get?_eq_some]
  constructor
  · rintro ⟨⟨⟨kind', id⟩, value'⟩, ⟨inside, same⟩, rfl⟩
    obtain rfl : kind' = kind := by simpa using same
    exact ⟨id, inside⟩
  · rintro ⟨id, inside⟩
    exact ⟨(⟨kind, id⟩, value), ⟨inside, by simp⟩, rfl⟩

@[simp]
theorem get?_empty : empty.get? key = none := rfl

theorem get?_put_self : (t.put key value).get? key = some value := by
  rw [get?_put, if_pos rfl]

theorem get?_put_of_ne {k : Key} (other : k ≠ key) : (t.put key value).get? k = t.get? k := by
  rw [get?_put, if_neg other]

end Store.Table

open Store

/-- What is read from a list of values, where all of them can be read. -/
theorem mem_of_mapM_ok {ε α β : Type} {read : α → Except ε β} {values : List α} {out : List β}
    (done : values.mapM read = .ok out) {b : β} : b ∈ out ↔ ∃ a ∈ values, read a = .ok b := by
  induction values generalizing out with
  | nil =>
    cases done
    simp
  | cons a values ih =>
    rw [List.mapM_cons] at done
    cases first : read a with
    | error failure => rw [first] at done; cases done
    | ok b' =>
      cases rest : values.mapM read with
      | error failure => rw [first, rest] at done; cases done
      | ok out' =>
        rw [first, rest] at done
        cases done
        simp [ih rest, first, eq_comm]

/-- Where each value can be read, the list of them can. -/
theorem exists_mapM_ok {ε α β : Type} {read : α → Except ε β} {values : List α}
    (readable : ∀ a ∈ values, ∃ b, read a = .ok b) : ∃ out, values.mapM read = .ok out := by
  induction values with
  | nil => exact ⟨[], rfl⟩
  | cons a values ih =>
    obtain ⟨b, first⟩ := readable a List.mem_cons_self
    obtain ⟨out, rest⟩ := ih fun other inside => readable other (List.mem_cons_of_mem _ inside)
    exact ⟨b :: out, by rw [List.mapM_cons, first, rest]; rfl⟩

/-- What holds of any two of some values holds of what is read from them. -/
theorem pairwise_of_mapM_ok {ε α β : Type} {read : α → Except ε β} {R : α → α → Prop}
    {S : β → β → Prop} {values : List α} {out : List β} (done : values.mapM read = .ok out)
    (pairs : values.Pairwise R)
    (carry : ∀ a ∈ values, ∀ a' ∈ values, ∀ b b', R a a' → read a = .ok b → read a' = .ok b' →
      S b b') : out.Pairwise S := by
  induction values generalizing out with
  | nil =>
    cases done
    exact .nil
  | cons a values ih =>
    obtain ⟨apart, pairs⟩ := List.pairwise_cons.1 pairs
    rw [List.mapM_cons] at done
    cases first : read a with
    | error failure => rw [first] at done; cases done
    | ok b =>
      cases rest : values.mapM read with
      | error failure => rw [first, rest] at done; cases done
      | ok out' =>
        rw [first, rest] at done
        cases done
        refine List.pairwise_cons.2 ⟨fun b' inside => ?_, ih rest pairs fun a inside a' inside' =>
          carry a (List.mem_cons_of_mem _ inside) a' (List.mem_cons_of_mem _ inside')⟩
        obtain ⟨a', inside', read'⟩ := (mem_of_mapM_ok rest).1 inside
        exact carry a List.mem_cons_self a' (List.mem_cons_of_mem _ inside') b b' (apart a' inside')
          first read'

/-! ## Sound resources -/

section Resources

variable {Spec Status : Type}

/-- Two resources have the same natural key among those of their kind. -/
def SameKey (r r' : Resource Spec Status) : Prop :=
  r.metadata.scope = r'.metadata.scope ∧ r.metadata.slug = r'.metadata.slug

theorem SameKey.symm {r r' : Resource Spec Status} (same : SameKey r r') : SameKey r' r :=
  ⟨same.1.symm, same.2.symm⟩

theorem SameKey.trans {r r' r'' : Resource Spec Status} (first : SameKey r r')
    (second : SameKey r' r'') : SameKey r r'' :=
  ⟨first.1.trans second.1, first.2.trans second.2⟩

theorem hasKey_iff {scope : OwnerScope} {slug : String} {r : Resource Spec Status} :
    r.hasKey scope slug = true ↔ r.metadata.scope = scope ∧ r.metadata.slug = slug := by
  simp [Resource.hasKey, and_comm]

variable [Managed Spec Status]

/-- A resource as it may be stored under a kind: the rules are kept, the slug is there and short,
kind and version are stamped on it, and it was not changed before it was made. -/
structure Sound (kind : Kind) (r : Resource Spec Status) : Prop where
  valid : r.violation? = none
  slug : r.metadata.slug ≠ ""
  short : r.metadata.slug.length ≤ 63
  kindName : r.kindName = kind.name
  version : r.apiVersion = apiVersion
  moments : ∃ created updated, r.metadata.createdAt = some created ∧
    r.metadata.updatedAt = some updated ∧ created ≤ updated

theorem violation?_eq_none {r : Resource Spec Status} :
    r.violation? = none ↔
      r.metadata.violation? = none ∧ Managed.violation? Status r.spec = none := by
  unfold Resource.violation?
  cases r.metadata.violation? <;> simp

/-! ## Tables that are well kept -/

/-- The table holds the resource under the id, among those of a kind. -/
def Holds (kind : Kind) (t : Table) (id : String) (r : Resource Spec Status) : Prop :=
  ∃ bytes, t.get? ⟨kind.name, id⟩ = some bytes ∧ Resource.decode bytes = .ok r

variable {kind : Kind} {t : Table}

/-- Under an id there is one resource at most. -/
theorem Holds.unique {id : String} {r r' : Resource Spec Status} (held : Holds kind t id r)
    (held' : Holds kind t id r') : r = r' := by
  obtain ⟨bytes, found, read⟩ := held
  obtain ⟨bytes', found', read'⟩ := held'
  obtain rfl : bytes = bytes' := Option.some.inj (found.symm.trans found')
  exact Except.ok.inj (read.symm.trans read')

/-- What is found among the values of a kind is what is held under its ids. -/
theorem mem_decodeAll {resources : List (Resource Spec Status)}
    (decoded : Catalog.decodeAll (t.valuesOf kind.name) = .ok resources)
    {r : Resource Spec Status} : r ∈ resources ↔ ∃ id, Holds kind t id r := by
  rw [mem_of_mapM_ok decoded]
  constructor
  · rintro ⟨bytes, inside, read⟩
    obtain ⟨id, found⟩ := Table.mem_valuesOf.1 inside
    exact ⟨id, bytes, found, read⟩
  · rintro ⟨id, bytes, found, read⟩
    exact ⟨bytes, Table.mem_valuesOf.2 ⟨id, found⟩, read⟩

/-- What is held after a removal was held before, under another key. -/
theorem holds_erase {key : Key} {id : String} {r : Resource Spec Status} :
    Holds kind (t.erase key) id r ↔ ⟨kind.name, id⟩ ≠ key ∧ Holds kind t id r := by
  unfold Holds
  rw [Table.get?_erase]
  by_cases same : (⟨kind.name, id⟩ : Key) = key
  · simp [same]
  · simp [same]

/-- No resource of the kind has the natural key of `r`. -/
def KeyFree (kind : Kind) (t : Table) (r : Resource Spec Status) : Prop :=
  ∀ id other, Holds kind t id other → ¬ SameKey other r

/-- The values of a kind are sound resources, each under its own id and with a natural key of its
own. -/
structure KindKept (Spec Status : Type) [Managed Spec Status] (kind : Kind) (t : Table) : Prop where
  readable : ∀ id bytes, t.get? ⟨kind.name, id⟩ = some bytes →
    ∃ r : Resource Spec Status, Resource.decode bytes = .ok r ∧ r.id = id ∧ Sound kind r
  unique : ∀ id id' (r r' : Resource Spec Status), Holds kind t id r → Holds kind t id' r' →
    SameKey r r' → id = id'

namespace KindKept

theorem empty : KindKept Spec Status kind .empty where
  readable id bytes found := by cases found
  unique id id' r r' held := by
    obtain ⟨bytes, found, -⟩ := held
    cases found

theorem of_holds (kept : KindKept Spec Status kind t) {id : String} {r : Resource Spec Status}
    (held : Holds kind t id r) : r.id = id ∧ Sound kind r := by
  obtain ⟨bytes, found, read⟩ := held
  obtain ⟨r', read', named, sound⟩ := kept.readable id bytes found
  obtain rfl : r = r' := Except.ok.inj (read.symm.trans read')
  exact ⟨named, sound⟩

/-- The values of the kind can all be read. -/
theorem decodeAll (kept : KindKept Spec Status kind t) :
    ∃ resources : List (Resource Spec Status),
      Catalog.decodeAll (t.valuesOf kind.name) = .ok resources := by
  refine exists_mapM_ok fun bytes inside => ?_
  obtain ⟨id, found⟩ := Table.mem_valuesOf.1 inside
  obtain ⟨r, read, -⟩ := kept.readable id bytes found
  exact ⟨r, read⟩

/-- The values of the kind are all different. -/
theorem nodup_valuesOf (kept : KindKept Spec Status kind t) : (t.valuesOf kind.name).Nodup := by
  have entries : t.entries.Nodup := List.Nodup.of_map _ t.nodup
  refine List.Nodup.map_on ?_ (entries.filter _)
  rintro ⟨⟨name, id⟩, bytes⟩ inside ⟨⟨name', id'⟩, bytes'⟩ inside' (rfl : bytes = bytes')
  obtain ⟨there, same⟩ := List.mem_filter.1 inside
  obtain ⟨there', same'⟩ := List.mem_filter.1 inside'
  obtain rfl : name = kind.name := by simpa using same
  obtain rfl : name' = kind.name := by simpa using same'
  obtain ⟨r, read, named, -⟩ := kept.readable id bytes (Table.get?_eq_some.2 there)
  obtain ⟨r', read', named', -⟩ := kept.readable id' bytes (Table.get?_eq_some.2 there')
  obtain rfl : r = r' := Except.ok.inj (read.symm.trans read')
  rw [← named, ← named']

/-- No two of the resources that are read from the values have the same id. -/
theorem pairwise_decodeAll (kept : KindKept Spec Status kind t)
    {resources : List (Resource Spec Status)}
    (decoded : Catalog.decodeAll (t.valuesOf kind.name) = .ok resources) :
    resources.Pairwise fun r r' => r.id ≠ r'.id := by
  refine pairwise_of_mapM_ok decoded kept.nodup_valuesOf ?_
  intro bytes inside bytes' inside' r r' apart read read' same
  obtain ⟨id, found⟩ := Table.mem_valuesOf.1 inside
  obtain ⟨id', found'⟩ := Table.mem_valuesOf.1 inside'
  have named := (kept.of_holds ⟨bytes, found, read⟩).1
  have named' := (kept.of_holds ⟨bytes', found', read'⟩).1
  rw [← named, same, named', found'] at found
  exact apart (Option.some.inj found).symm

/-- Only the values of the kind matter. -/
theorem congr {t' : Table} (kept : KindKept Spec Status kind t)
    (same : ∀ id, t'.get? ⟨kind.name, id⟩ = t.get? ⟨kind.name, id⟩) :
    KindKept Spec Status kind t' where
  readable id bytes found := kept.readable id bytes (same id ▸ found)
  unique id id' r r' held held' := by
    unfold Holds at held held'
    rw [same] at held held'
    exact kept.unique id id' r r' held held'

/-- What remains after a removal is well kept. -/
theorem drop (kept : KindKept Spec Status kind t) (key : Key) :
    KindKept Spec Status kind (t.erase key) := by
  have before : ∀ {id bytes}, (t.erase key).get? ⟨kind.name, id⟩ = some bytes →
      t.get? ⟨kind.name, id⟩ = some bytes := by
    intro id bytes found
    rw [Table.get?_erase] at found
    split at found
    · cases found
    · exact found
  constructor
  · intro id bytes found
    exact kept.readable id bytes (before found)
  · rintro id id' r r' ⟨bytes, found, read⟩ ⟨bytes', found', read'⟩ same
    exact kept.unique id id' r r' ⟨bytes, before found, read⟩ ⟨bytes', before found', read'⟩ same

end KindKept

variable [LawfulManaged Spec Status]

theorem Sound.decode_encode {r : Resource Spec Status} (sound : Sound kind r) :
    Resource.decode r.encode = .ok r :=
  Resource.decode_encode r
    (LawfulManaged.fits_of_valid r.spec (violation?_eq_none.1 sound.valid).2)

/-- After a sound resource is stored, it is held under its id, and under other ids there is what was
there before. -/
theorem holds_put {r r' : Resource Spec Status} {id : String} (sound : Sound kind r) :
    Holds kind (t.put ⟨kind.name, r.id⟩ r.encode) id r' ↔
      (id = r.id ∧ r' = r) ∨ (id ≠ r.id ∧ Holds kind t id r') := by
  unfold Holds
  rw [Table.get?_put]
  by_cases same : id = r.id
  · subst same
    simp only [if_true, Option.some.injEq, exists_eq_left', sound.decode_encode, Except.ok.injEq,
      true_and, ne_eq, not_true_eq_false, false_and, or_false]
    exact eq_comm
  · have other : (⟨kind.name, id⟩ : Key) ≠ ⟨kind.name, r.id⟩ := by simpa using same
    simp [same, other]

namespace KindKept

/-- A sound resource may be stored if no resource under another id has its natural key. -/
theorem put {r : Resource Spec Status} (kept : KindKept Spec Status kind t) (sound : Sound kind r)
    (own : ∀ id other, Holds kind t id other → SameKey other r → id = r.id) :
    KindKept Spec Status kind (t.put ⟨kind.name, r.id⟩ r.encode) := by
  constructor
  · intro id bytes found
    rw [Table.get?_put] at found
    split at found
    · next same =>
      cases found
      cases same
      exact ⟨r, sound.decode_encode, rfl, sound⟩
    · exact kept.readable id bytes found
  · intro id id' first second held held' same
    rcases (holds_put sound).1 held with ⟨rfl, rfl⟩ | ⟨-, before⟩ <;>
      rcases (holds_put sound).1 held' with ⟨rfl, rfl⟩ | ⟨-, before'⟩
    · rfl
    · exact (own _ _ before' same.symm).symm
    · exact own _ _ before same
    · exact kept.unique id id' first second before before' same

/-- A sound resource with a free natural key may be stored under any id. -/
theorem add {r : Resource Spec Status} (kept : KindKept Spec Status kind t) (sound : Sound kind r)
    (free : KeyFree kind t r) : KindKept Spec Status kind (t.put ⟨kind.name, r.id⟩ r.encode) :=
  kept.put sound fun id other held same => absurd same (free id other held)

/-- A sound resource may take the place of one with the same natural key. -/
theorem renew {old r : Resource Spec Status} (kept : KindKept Spec Status kind t)
    (held : Holds kind t r.id old) (same : SameKey old r) (sound : Sound kind r) :
    KindKept Spec Status kind (t.put ⟨kind.name, r.id⟩ r.encode) :=
  kept.put sound fun id other there shared =>
    kept.unique id r.id other old there held (shared.trans same.symm)

end KindKept

end Resources

end Steward
