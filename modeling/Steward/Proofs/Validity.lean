import Mathlib.Data.List.TakeWhile
import Steward.Controller.Executions
import Steward.Proofs.Holdings
import Steward.Proofs.Models
import Steward.Proofs.Timestamp

/-!
# What is built is sound

The rules are checked on what a caller gives. What is stored is made of that and of what was stored
before, and keeps the rules as well: a new resource by `sound_new`, the next version of a stored one
by `Sound.update`, and one with another status by `Sound.restatus`.
-/

namespace Steward

/-! ## Slugs -/

theorem Slug.length_cut (cs : List Char) : (cut cs).length ≤ maxLength := by
  unfold cut
  split
  · next short => exact short
  · rw [List.length_reverse]
    calc
      ((cs.take maxLength).reverse.dropWhile (· == '-')).length
          ≤ (cs.take maxLength).reverse.length := (List.dropWhile_sublist _).length_le
      _ ≤ maxLength := by simp

/-- A slug made of a name is short. -/
theorem Slug.length_ofName (name : String) : (ofName name).length ≤ 63 := by
  rw [ofName, String.length_ofList]
  exact length_cut _

/-- What is left of a text with a word character in it begins with one. -/
theorem Slug.words_eq_cons {cs : List Char} (pending : Bool)
    (some_word : ∃ c ∈ cs, isWordChar c = true) :
    ∃ c rest, words false pending cs = c :: rest ∧ isWordChar c = true := by
  induction cs generalizing pending with
  | nil =>
    obtain ⟨c, inside, -⟩ := some_word
    cases inside
  | cons first cs ih =>
    rw [words]
    by_cases word : isWordChar first = true
    · rw [if_pos word]
      exact ⟨first, _, rfl, word⟩
    · rw [if_neg word]
      obtain ⟨c, inside, isWord⟩ := some_word
      rcases List.mem_cons.1 inside with rfl | inside
      · exact absurd isWord word
      · exact ih true ⟨c, inside, isWord⟩

/-- The cut keeps the first character, unless that is a hyphen. -/
theorem Slug.cut_ne_nil {c : Char} (cs : List Char) (word : isWordChar c = true) :
    cut (c :: cs) ≠ [] := by
  unfold cut
  split
  · exact List.cons_ne_nil c cs
  · have solid : c ≠ '-' := by
      rintro rfl
      exact absurd word (by decide)
    have kept : ((c :: cs).take maxLength).reverse = (cs.take 62).reverse ++ [c] := by
      simp [maxLength]
    intro none
    rw [List.reverse_eq_nil_iff, kept, List.dropWhile_eq_nil_iff] at none
    exact solid (eq_of_beq (none c (by simp)))

/-- A name with a word character in it gives a slug. -/
theorem Slug.ofName_ne_empty {name : String} {c : Char} (inside : c ∈ name.toList)
    (word : isWordChar c = true) (lower : Text.lowercase c = [c]) : ofName name ≠ "" := by
  have some_word : ∃ c ∈ name.toList.flatMap Text.lowercase, isWordChar c = true :=
    ⟨c, List.mem_flatMap.2 ⟨c, inside, by rw [lower]; exact List.mem_singleton.2 rfl⟩, word⟩
  obtain ⟨first, rest, same, word'⟩ := words_eq_cons false some_word
  intro none
  have empty : cut (first :: rest) = [] := by
    rw [← same]
    simpa [ofName] using congrArg String.toList none
  exact cut_ne_nil rest word' empty

namespace Metadata

/-- The rules for metadata in terms of its fields. -/
structure Valid (m : Metadata) : Prop where
  named : Text.isAllBlank m.name = false
  name : m.name.length ≤ 253
  slug : m.slug.length ≤ 63
  scope : scopeIsNamed m.scope = true
  labels : m.labels.names.all (!·.isEmpty) = true

theorem valid_iff {m : Metadata} : m.violation? = none ↔ m.Valid := by
  unfold violation?
  rw [Rule.first_eq_none]
  constructor
  · intro all
    simp only [List.mem_cons, List.not_mem_nil, or_false, forall_eq_or_imp, forall_eq,
      Rule.required, Rule.maxLength, Rule.check, ite_eq_left_iff, reduceCtorEq, imp_false,
      Bool.not_eq_true, Bool.not_eq_false, Bool.not_eq_eq_eq_not, Bool.not_true,
      decide_eq_true_eq, not_not] at all
    exact ⟨all.1, all.2.1, all.2.2.1, all.2.2.2.1, all.2.2.2.2⟩
  · rintro ⟨named, name, slug, scope, labels⟩
    simp [Rule.required, Rule.maxLength, Rule.check, named, name, slug, scope, labels]

theorem Valid.withSlug {m : Metadata} (valid : m.Valid) {slug : String}
    (short : slug.length ≤ 63) : Valid { m with slug := slug } :=
  { valid with slug := short }

/-- An update takes name and labels from valid metadata or leaves them as they are. -/
theorem Valid.update {stored requested : Metadata} (valid : stored.Valid)
    (validRequest : requested.Valid) (moment : Timestamp) :
    (Catalog.updatedMetadata stored requested moment).Valid := by
  refine ⟨?_, ?_, valid.slug, valid.scope, ?_⟩
  · simp [Catalog.updatedMetadata, validRequest.named]
  · simp [Catalog.updatedMetadata, validRequest.named, validRequest.name]
  · unfold Catalog.updatedMetadata
    dsimp only
    split
    · exact valid.labels
    · exact validRequest.labels

end Metadata

/-- A slug is resolved to one that is there, and to a short one if that of the metadata is. -/
theorem resolvedSlug_eq_ok {m : Metadata} {slug : String}
    (resolved : Catalog.resolvedSlug m = .ok slug) :
    slug ≠ "" ∧ (m.slug.length ≤ 63 → slug.length ≤ 63) := by
  unfold Catalog.resolvedSlug at resolved
  split at resolved
  · next there =>
    cases resolved
    exact ⟨there, id⟩
  · split at resolved
    · cases resolved
    · split at resolved
      · cases resolved
      · next usable =>
        cases resolved
        exact ⟨usable, fun _ => Slug.length_ofName m.name⟩

/-! ## Resources -/

section Resources

variable {Spec Status : Type} [Managed Spec Status]

/-- What is built from an input of which the slug is resolved. -/
def stamped (kind : Kind) (id : String) (now : Timestamp) (r : Resource Spec Status) :
    Resource Spec Status :=
  Resource.withFreshStatus { r with
    kindName := kind.name
    apiVersion := apiVersion
    metadata := { r.metadata with id := id, createdAt := some now, updatedAt := some now } }

/-- A new resource made of a valid input is sound. -/
theorem sound_new {input : Resource Spec Status} {slug : String} (valid : input.violation? = none)
    (resolved : Catalog.resolvedSlug input.metadata = .ok slug) (kind : Kind) (id : String)
    (now : Timestamp) :
    Sound kind (stamped kind id now (input.withMetadata fun m => { m with slug := slug })) := by
  obtain ⟨metadata, spec⟩ := violation?_eq_none.1 valid
  obtain ⟨there, short⟩ := resolvedSlug_eq_ok resolved
  have rules := Metadata.valid_iff.1 metadata
  have made := rules.withSlug (short rules.slug)
  refine ⟨?_, there, short rules.slug, rfl, rfl, now, now, rfl, rfl, Timestamp.le_refl now⟩
  refine violation?_eq_none.2 ⟨Metadata.valid_iff.2 ?_, spec⟩
  exact ⟨made.named, made.name, made.slug, made.scope, made.labels⟩

variable {kind : Kind} {stored : Resource Spec Status}

/-- A later moment of change keeps the order of the moments. -/
theorem Sound.moments_next (sound : Sound kind stored) {now moment : Timestamp}
    (next : Timestamp.next? stored.metadata.updatedAt now = some moment) :
    ∃ created updated, stored.metadata.createdAt = some created ∧ some moment = some updated ∧
      created ≤ updated := by
  obtain ⟨created, updated, made, changed, ordered⟩ := sound.moments
  rw [changed] at next
  exact ⟨created, moment, made, rfl,
    Timestamp.le_of_lt (Timestamp.lt_of_le_of_lt ordered (Timestamp.lt_of_next? next))⟩

/-- The next version of a stored resource. -/
def updated (stored requested : Resource Spec Status) (moment : Timestamp) : Resource Spec Status :=
  (stored.merge requested).withMetadata
    fun m => Catalog.updatedMetadata m requested.metadata moment

omit [Managed Spec Status] in
/-- A status is under no rules. -/
theorem Sound.restatus [Managed Spec Status] (sound : Sound kind stored) (status : Status) :
    Sound kind { stored with status := status } :=
  ⟨sound.valid, sound.slug, sound.short, sound.kindName, sound.version, sound.moments⟩

/-- A resource with another moment of change is as sound as before. -/
theorem Sound.touch (sound : Sound kind stored) {now moment : Timestamp}
    (next : Timestamp.next? stored.metadata.updatedAt now = some moment) :
    Sound kind { stored with metadata := { stored.metadata with updatedAt := some moment } } := by
  obtain ⟨metadata, spec⟩ := violation?_eq_none.1 sound.valid
  have rules := Metadata.valid_iff.1 metadata
  refine ⟨violation?_eq_none.2 ⟨Metadata.valid_iff.2 ?_, spec⟩, sound.slug, sound.short,
    sound.kindName, sound.version, sound.moments_next next⟩
  exact ⟨rules.named, rules.name, rules.slug, rules.scope, rules.labels⟩

variable [LawfulManaged Spec Status]

/-- The next version of a sound resource, changed by a valid input, is sound. -/
theorem Sound.update (sound : Sound kind stored) {requested : Resource Spec Status}
    (valid : requested.violation? = none) {now moment : Timestamp}
    (next : Timestamp.next? stored.metadata.updatedAt now = some moment) :
    Sound kind (updated stored requested moment) := by
  obtain ⟨metadata, spec⟩ := violation?_eq_none.1 sound.valid
  obtain ⟨metadata', spec'⟩ := violation?_eq_none.1 valid
  have rules := (Metadata.valid_iff.1 metadata).update (Metadata.valid_iff.1 metadata') moment
  refine ⟨violation?_eq_none.2 ⟨Metadata.valid_iff.2 rules, ?_⟩, sound.slug, sound.short,
    sound.kindName, sound.version, sound.moments_next next⟩
  exact LawfulManaged.valid_merge stored.spec requested.spec spec spec'

omit [LawfulManaged Spec Status] in
/-- The next version of a resource has the natural key of the stored one. -/
theorem sameKey_updated (requested : Resource Spec Status) (moment : Timestamp) :
    SameKey stored (updated stored requested moment) :=
  ⟨rfl, rfl⟩

end Resources

end Steward
