/-!
# Assignments

Values by name, each name once, in the order in which the names first came up. Main statements: what
`lookup` finds after `assign`, and after a name is taken out.
-/

namespace Steward

/-- Replaces the value of a name, or appends it. -/
def assign {α : Type} (name : String) (value : α) : List (String × α) → List (String × α)
  | [] => [(name, value)]
  | (other, kept) :: entries =>
    if other = name then (name, value) :: entries else (other, kept) :: assign name value entries

theorem lookup_assign {α : Type} (name key : String) (value : α) (entries : List (String × α)) :
    (assign name value entries).lookup key =
      if key = name then some value else entries.lookup key := by
  induction entries with
  | nil =>
    by_cases same : key = name
    · simp [assign, same]
    · simp [assign, List.lookup_cons, same, beq_eq_false_iff_ne.2 same]
  | cons entry entries ih =>
    obtain ⟨other, kept⟩ := entry
    by_cases here : other = name
    · subst here
      by_cases same : key = other
      · simp [assign, same]
      · simp [assign, List.lookup_cons, same, beq_eq_false_iff_ne.2 same]
    · by_cases same : key = other
      · subst same
        simp [assign, here]
      · simp [assign, here, List.lookup_cons, beq_eq_false_iff_ne.2 same, ih]

/-- Names that are taken out have no value any more, and others keep theirs. -/
theorem lookup_filter {κ α : Type} [BEq κ] [LawfulBEq κ] (keep : κ → Bool) (key : κ)
    (entries : List (κ × α)) :
    (entries.filter fun entry => keep entry.1).lookup key =
      if keep key then entries.lookup key else none := by
  induction entries with
  | nil => simp
  | cons entry entries ih =>
    obtain ⟨other, value⟩ := entry
    by_cases kept : keep other = true
    · rw [List.filter_cons_of_pos (by exact kept), List.lookup_cons, ih, List.lookup_cons]
      by_cases here : key = other
      · simp [here, kept]
      · simp [beq_eq_false_iff_ne.2 here]
    · rw [List.filter_cons_of_neg (by exact kept), ih, List.lookup_cons]
      by_cases here : key = other
      · simp [here, kept]
      · simp [beq_eq_false_iff_ne.2 here]

theorem lookup_filter_ne {κ α : Type} [BEq κ] [LawfulBEq κ] [DecidableEq κ] (gone key : κ)
    (entries : List (κ × α)) :
    (entries.filter (·.1 ≠ gone)).lookup key = if key = gone then none else entries.lookup key := by
  rw [lookup_filter fun other => other ≠ gone]
  by_cases out : key = gone <;> simp [out]

end Steward
