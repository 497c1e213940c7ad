import PackageDoc.Disk.Basic

/-! # Entries of a disk

What a disk holds after an entry is put, and the names in a directory.  Locations are compared
lexicographically and the entries ascend strictly, so a location has at most one entry. -/
set_option autoImplicit false

namespace PackageDoc.Disk
open PackageDoc.Text

theorem location_trichotomy (left right : Location) :
    left < right ∨ left = right ∨ right < left := by
  by_cases before : left < right
  · exact Or.inl before
  · by_cases after : right < left
    · exact Or.inr (Or.inr after)
    · exact Or.inr (Or.inl (Std.Trichotomous.trichotomous left right before after))

/-- A location has one entry only. -/
theorem entry_unique (disk : Disk) {location : Location} {first second : Node}
    (left : (location, first) ∈ disk.entries) (right : (location, second) ∈ disk.entries) :
    first = second := by
  have apart : disk.entries.Pairwise fun one other => one.1 = other.1 → one = other :=
    disk.ordered.imp fun less same => absurd (same ▸ less) (List.lt_irrefl _)
  have same : (location, first) = (location, second) :=
    apart.forall_of_forall_of_flip (fun _ _ _ => rfl)
      (apart.imp fun equal swapped => (equal swapped.symm).symm) left right rfl
  exact congrArg Prod.snd same

theorem node?_root (disk : Disk) : disk.node? [] = some .directory := rfl

theorem node?_eq_some_iff (disk : Disk) {location : Location} (below : location ≠ [])
    (node : Node) : disk.node? location = some node ↔ (location, node) ∈ disk.entries := by
  simp only [node?, List.isEmpty_iff, below, if_false, Option.map_eq_some_iff]
  constructor
  · rintro ⟨entry, found, rfl⟩
    have same : entry.1 = location := by simpa using List.find?_some found
    have member := List.mem_of_find?_eq_some found
    rw [← same]
    exact member
  · intro member
    cases found : disk.entries.find? (·.1 = location) with
    | none =>
      have absent := List.find?_eq_none.1 found _ member
      simp at absent
    | some entry =>
      have same : entry.1 = location := by simpa using List.find?_some found
      have other : (location, entry.2) ∈ disk.entries := by
        rw [← same]
        exact List.mem_of_find?_eq_some found
      exact ⟨entry, rfl, disk.entry_unique other member⟩

theorem mem_setEntry {location : Location} {node : Node} {entries : List (Location × Node)}
    (entry : Location × Node) :
    entry ∈ setEntry location node entries ↔
      entry = (location, node) ∨ entry ∈ entries ∧ entry.1 ≠ location := by
  simp only [setEntry, List.mem_append, List.mem_cons, List.mem_filter, decide_eq_true_eq]
  constructor
  · rintro (⟨member, before⟩ | same | ⟨member, after⟩)
    · exact Or.inr ⟨member, fun same => List.lt_irrefl _ (same ▸ before)⟩
    · exact Or.inl same
    · exact Or.inr ⟨member, fun same => List.lt_irrefl _ (same ▸ after)⟩
  · rintro (same | ⟨member, different⟩)
    · exact Or.inr (Or.inl same)
    · rcases location_trichotomy entry.1 location with before | same | after
      · exact Or.inl ⟨member, before⟩
      · exact absurd same different
      · exact Or.inr (Or.inr ⟨member, after⟩)

theorem node?_put (disk : Disk) {location : Location} (below : location ≠ []) (node : Node)
    (other : Location) :
    (disk.put location node).node? other =
      if other = location then some node else disk.node? other := by
  by_cases root : other = []
  · subst root
    rw [if_neg (Ne.symm below)]
    rfl
  · have members : ∀ held, (disk.put location node).node? other = some held ↔
        (if other = location then some node else disk.node? other) = some held := by
      intro held
      rw [node?_eq_some_iff _ root]
      simp only [put, mem_setEntry, Prod.mk.injEq]
      split
      next same => simp [same, eq_comm]
      next different => simp [different, node?_eq_some_iff _ root]
    exact Option.ext members

theorem node?_put_self (disk : Disk) {location : Location} (below : location ≠ []) (node : Node) :
    (disk.put location node).node? location = some node := by
  rw [node?_put disk below, if_pos rfl]

theorem node?_put_of_ne (disk : Disk) {location : Location} (below : location ≠ []) (node : Node)
    {other : Location} (different : other ≠ location) :
    (disk.put location node).node? other = disk.node? other := by
  rw [node?_put disk below, if_neg different]

/-! ## Names -/

theorem mem_names (disk : Disk) (location : Location) (name : Name) :
    name ∈ disk.names location ↔ (disk.node? (location ++ [name])).isSome := by
  have below : location ++ [name] ≠ [] := by simp
  simp only [names, List.mem_filterMap, Option.isSome_iff_exists, node?_eq_some_iff disk below]
  constructor
  · rintro ⟨⟨held, node⟩, member, chosen⟩
    split at chosen
    next parent =>
      have whole : held = location ++ [name] := by
        obtain ⟨front, rfl⟩ := List.getLast?_eq_some_iff.1 chosen
        simpa using parent
      exact ⟨node, whole ▸ member⟩
    next => cases chosen
  · rintro ⟨node, member⟩
    exact ⟨(location ++ [name], node), member, by simp⟩

/-- Locations in one directory are ordered as their last names are. -/
theorem lt_of_append_lt (location : Location) {first second : Name}
    (less : location ++ [first] < location ++ [second]) : first < second := by
  induction location with
  | nil =>
    rcases List.cons_lt_cons_iff.1 less with smaller | ⟨_, none⟩
    · exact smaller
    · exact absurd none (List.lt_irrefl _)
  | cons head rest ih =>
    rcases List.cons_lt_cons_iff.1 less with smaller | ⟨_, later⟩
    · exact absurd smaller (List.lt_irrefl _)
    · exact ih later

/-- The names in a directory ascend strictly. -/
theorem names_ascending (disk : Disk) (location : Location) :
    (disk.names location).Pairwise (· < ·) := by
  refine List.Pairwise.filterMap _ ?_ disk.ordered
  rintro ⟨one, oneNode⟩ ⟨other, otherNode⟩ less first firstChosen second secondChosen
  dsimp only at firstChosen secondChosen less
  split at firstChosen
  next oneParent =>
    split at secondChosen
    next otherParent =>
      obtain ⟨oneFront, rfl⟩ := List.getLast?_eq_some_iff.1 firstChosen
      obtain ⟨otherFront, rfl⟩ := List.getLast?_eq_some_iff.1 secondChosen
      simp only [List.dropLast_concat] at oneParent otherParent
      subst oneParent
      subst otherParent
      exact lt_of_append_lt _ less
    next => cases secondChosen
  next => cases firstChosen

end PackageDoc.Disk
