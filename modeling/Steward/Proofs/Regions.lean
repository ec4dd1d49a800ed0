import Steward.Proofs.Disks

/-!
# Regions of a disk

Two disks are the same on a region if they have the same entries there, in the same order. Then they
look alike there, and a change that is made to both of them keeps it so. Main statements:
`SameOn.node?`, `SameOn.listing`, and what an operation that changes one entry does to a region.
-/

namespace Steward.Store.Disk

variable {d d' d'' : Disk} {region part : Path → Bool} {path here : Path} {node : Node}

/-- The two disks have the same entries within a region, in the same order. -/
def SameOn (region : Path → Bool) (d d' : Disk) : Prop :=
  (d'.entries.filter fun entry => region entry.1) = d.entries.filter fun entry => region entry.1

/-- The nodes in a directory, by their names. -/
def listing (d : Disk) (here : Path) : List (String × Node) :=
  d.entries.filterMap fun (entry, node) => (nameIn here entry).map (·, node)

theorem mem_listing_iff {name : String} :
    (name, node) ∈ d.listing here ↔ (here ++ [name], node) ∈ d.entries := by
  rw [listing, List.mem_filterMap]
  constructor
  · rintro ⟨⟨entry, other⟩, inside, same⟩
    obtain ⟨called, named, same⟩ := Option.map_eq_some_iff.1 same
    obtain ⟨rfl, rfl⟩ := Prod.mk.inj same
    exact nameIn_eq_some.1 named ▸ inside
  · exact fun inside => ⟨_, inside, by simp [nameIn_eq_some.2]⟩

theorem isSome_node?_of_mem (inside : (path, node) ∈ d.entries) : (d.node? path).isSome := by
  rw [node?]
  split
  · rfl
  · rw [List.lookup_isSome_iff]
    exact ⟨_, inside, by simp⟩

/-- A directory without nodes lists nothing. -/
theorem listing_eq_nil (bare : ∀ name, d.node? (here ++ [name]) = none) : d.listing here = [] := by
  refine List.eq_nil_iff_forall_not_mem.2 fun (name, node) inside => ?_
  simpa [bare] using isSome_node?_of_mem (mem_listing_iff.1 inside)

namespace SameOn

theorem trans (first : SameOn region d d') (second : SameOn region d' d'') :
    SameOn region d d'' :=
  Eq.trans second first

/-- Only the entries count, not what the device will do. -/
theorem of_entries (same : d'.entries = d.entries) : SameOn region d d' := by
  rw [SameOn, same]

theorem mono (same : SameOn region d d') (within : ∀ path, part path = true → region path = true) :
    SameOn part d d' := by
  have narrow : ∀ entries : List (Path × Node), entries.filter (fun entry => part entry.1) =
      (entries.filter fun entry => region entry.1).filter fun entry => part entry.1 := by
    intro entries
    rw [List.filter_filter]
    refine List.filter_congr fun entry _ => ?_
    by_cases inside : part entry.1 = true
    · simp [inside, within]
    · simp [inside]
  rw [SameOn, narrow, narrow d.entries, same]

/-- The same is found within the region. -/
theorem node? (same : SameOn region d d') (inside : region path = true) :
    d'.node? path = d.node? path := by
  unfold Disk.node?
  split
  · rfl
  · have found : ∀ entries : List (Path × Node),
        (entries.filter fun entry => region entry.1).lookup path = entries.lookup path :=
      fun entries => (lookup_filter region path entries).trans (if_pos inside)
    rw [← found d'.entries, ← found d.entries, same]

/-- The same is listed of a directory, as far as it is within the region. -/
theorem listing (same : SameOn region d d') (keep : String → Bool)
    (inside : ∀ name, keep name = true → region (here ++ [name]) = true) :
    ((d'.listing here).filter fun entry => keep entry.1) =
      (d.listing here).filter fun entry => keep entry.1 := by
  have narrow : ∀ d : Disk, ((d.listing here).filter fun entry => keep entry.1) =
      (((d.entries.filter fun entry => region entry.1).filterMap fun (entry, node) =>
        (nameIn here entry).map (·, node)).filter fun entry => keep entry.1) := by
    intro d
    rw [Disk.listing, List.filter_filterMap, List.filter_filterMap, List.filterMap_filter]
    refine List.filterMap_congr fun (entry, node) _ => ?_
    cases named : nameIn here entry with
    | none => simp [named]
    | some name =>
      have within := inside name
      rw [← nameIn_eq_some.1 named] at within
      by_cases kept : keep name = true
      · simp [named, kept, within]
      · simp [named, kept]
  rw [narrow, narrow d, same]

theorem setNode (same : SameOn region d d') (path : Path) (node : Node) :
    SameOn region (d.setNode path node) (d'.setNode path node) := by
  simp only [SameOn, Disk.setNode, List.filter_cons]
  rw [List.filter_comm, same, List.filter_comm]

theorem removeNode (same : SameOn region d d') (path : Path) :
    SameOn region (d.removeNode path) (d'.removeNode path) := by
  simp only [SameOn, Disk.removeNode]
  rw [List.filter_comm, same, List.filter_comm]

end SameOn

/-- A region does not see an entry outside of it being removed. -/
theorem sameOn_removeNode (outside : region path = false) :
    SameOn region d (d.removeNode path) := by
  simp only [SameOn, removeNode, List.filter_filter]
  refine List.filter_congr fun entry _ => ?_
  by_cases here : entry.1 = path
  · simp [here, outside]
  · simp [here]

/-- A region does not see an entry outside of it being set. -/
theorem sameOn_setNode (outside : region path = false) (node : Node) :
    SameOn region d (d.setNode path node) := by
  rw [SameOn, setNode, List.filter_cons_of_neg (by simp [outside])]
  exact sameOn_removeNode outside

end Steward.Store.Disk
