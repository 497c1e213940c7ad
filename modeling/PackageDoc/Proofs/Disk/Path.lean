import Mathlib.Data.List.Basic
import Mathlib.Data.List.Induction
import PackageDoc.Disk.Resolve
import PackageDoc.Proofs.Text.Pieces

/-! # Names in paths

The names that are looked up for a path, the parts that they say, and paths below a path.  A name that
stands for one entry is looked up last in the path below it. -/
set_option autoImplicit false

namespace PackageDoc.Path
open PackageDoc.Text

/-- A name that stands for one entry of a directory. -/
def IsName (name : Name) : Prop :=
  name ≠ [] ∧ slash ∉ name ∧ name ≠ here ∧ name ≠ up

instance (name : Name) : Decidable (IsName name) :=
  inferInstanceAs (Decidable (name ≠ [] ∧ slash ∉ name ∧ name ≠ here ∧ name ≠ up))

theorem isName_concat {names : List Name} {name : Name} (proper : ∀ name ∈ names, IsName name)
    (named : IsName name) : ∀ other ∈ names ++ [name], IsName other :=
  List.forall_mem_append.2 ⟨proper, List.forall_mem_singleton.2 named⟩

/-! ## The names of a path -/

/-- The names of a path as they are looked up, without a final dot for a final slash. -/
def names (path : Path) : List Name := path.segments.filter (!·.isEmpty)

theorem lookups_eq (path : Path) :
    path.lookups = path.names ++ (if path.bytes.getLast? = some slash then [here] else []) := rfl

theorem mem_names {path : Path} {name : Name} (member : name ∈ path.names) :
    name ≠ [] ∧ slash ∉ name := by
  obtain ⟨segment, nonempty⟩ := List.mem_filter.1 member
  exact ⟨by simpa using nonempty, notMem_of_mem_pieces _ segment⟩

theorem mem_lookups {path : Path} {name : Name} (member : name ∈ path.lookups) :
    name ≠ [] ∧ slash ∉ name := by
  rw [lookups_eq] at member
  rcases List.mem_append.1 member with found | found
  · exact mem_names found
  · split at found
    · rw [List.mem_singleton.1 found]
      decide
    · simp at found

/-- A name that is looked up, and neither stays nor goes up, stands for an entry. -/
theorem isName_of_lookup {name : Name} (proper : name ≠ [] ∧ slash ∉ name)
    (moves : name ≠ here ∧ name ≠ up) : IsName name :=
  ⟨proper.1, proper.2, moves⟩

/-! ## Parts -/

theorem partOf_eq_name_iff {segment name : Name} :
    partOf segment = some (.name name) ↔ segment = name ∧ name ≠ [] ∧ name ≠ here ∧ name ≠ up := by
  unfold partOf
  split
  next idle =>
    rw [List.isEmpty_iff] at idle
    constructor
    · intro none
      cases none
    · rintro ⟨rfl, nonempty, moves, _⟩
      exact absurd idle (not_or.2 ⟨nonempty, moves⟩)
  next kept =>
    rw [List.isEmpty_iff, not_or] at kept
    split
    next climbs =>
      constructor
      · intro other
        cases other
      · rintro ⟨rfl, _, _, other⟩
        exact absurd climbs other
    next climbs =>
      rw [Option.some.injEq, Part.name.injEq]
      constructor
      · rintro rfl
        exact ⟨rfl, kept.1, kept.2, climbs⟩
      · exact fun same => same.1

theorem partOf_of_isName {name : Name} (proper : IsName name) : partOf name = some (.name name) :=
  partOf_eq_name_iff.2 ⟨rfl, proper.1, proper.2.2⟩

theorem partOf_ne_root (segment : Name) : partOf segment ≠ some .root := by
  unfold partOf
  split
  · simp
  · split <;> simp

theorem eq_here_of_partOf {name : Name} (nonempty : name ≠ []) (idle : partOf name = none) :
    name = here := by
  unfold partOf at idle
  split at idle
  next empty => exact empty.resolve_left (by simpa using nonempty)
  next => split at idle <;> cases idle

/-- Only an absolute path begins at the root. -/
theorem isAbsolute_of_parts {path : Path} {rest : List Part} (begins : path.parts = .root :: rest) :
    path.isAbsolute = true := by
  have member : Part.root ∈ path.parts := by rw [begins]; exact List.mem_cons_self
  by_contra relative
  unfold parts at member
  split at member
  · cases member
  next first others _ =>
    rw [if_neg relative] at member
    rcases List.mem_append.1 member with front | later
    · rw [Option.mem_toList] at front
      split at front
      · cases front
      · exact partOf_ne_root first front
    · obtain ⟨segment, _, root⟩ := List.mem_filterMap.1 later
      exact partOf_ne_root segment root

theorem segments_of_isAbsolute {path : Path} (absolute : path.isAbsolute = true) :
    ∃ rest, path.segments = [] :: rest := by
  unfold segments
  cases shape : path.bytes with
  | nil => simp [isAbsolute, shape] at absolute
  | cons first rest =>
    have same : first = slash := by simpa [isAbsolute, shape] using absolute
    exact ⟨pieces slash rest, by simp [pieces, same]⟩

/-- The segments that are left out among the names say nothing. -/
theorem filterMap_names (path : Path) :
    path.names.filterMap partOf = path.segments.filterMap partOf := by
  unfold names
  rw [List.filterMap_filter]
  refine List.filterMap_congr fun segment _ => ?_
  cases segment with
  | nil => rfl
  | cons byte rest => rfl

theorem parts_of_isAbsolute {path : Path} (absolute : path.isAbsolute = true) :
    path.parts = .root :: path.names.filterMap partOf := by
  obtain ⟨rest, cut⟩ := segments_of_isAbsolute absolute
  rw [filterMap_names]
  unfold parts
  rw [cut]
  simp [absolute, partOf]

/-! ## Paths below a path -/

/-- The path to what lies below a path under the given names. -/
def descend (path : Path) (names : List Name) : Path := names.foldl child path

@[simp] theorem descend_nil (path : Path) : path.descend [] = path := rfl

theorem descend_concat (path : Path) (names : List Name) (name : Name) :
    path.descend (names ++ [name]) = (path.descend names).child name := by
  simp [descend]

theorem bytes_child {name : Name} (base : Path) (proper : IsName name) :
    (base.child name).bytes =
      if base.bytes.isEmpty ∨ base.bytes.getLast? = some slash then base.bytes ++ name
      else base.bytes ++ slash :: name := by
  have relative : ¬ (⟨name⟩ : Path).isAbsolute = true := by
    intro absolute
    have first : name.head? = some slash := by simpa [isAbsolute] using absolute
    exact proper.2.1 (List.mem_of_head? first)
  unfold child join
  rw [if_neg relative]
  split <;> rfl

theorem names_child {name : Name} (base : Path) (proper : IsName name) :
    (base.child name).names = base.names ++ [name] := by
  have piece : pieces slash name = [name] := pieces_of_notMem slash proper.2.1
  have kept : [name].filter (!·.isEmpty) = [name] := by simp [proper.1]
  unfold names segments
  rw [bytes_child base proper]
  split
  next closed =>
    rcases closed with empty | slashed
    · have none : base.bytes = [] := by simpa using empty
      simp [none, piece, kept, pieces]
    · obtain ⟨front, whole⟩ := List.getLast?_eq_some_iff.1 slashed
      rw [whole, List.append_assoc, List.singleton_append, pieces_append, piece,
        pieces_append slash front []]
      simp [proper.1, pieces]
  next => rw [pieces_append, piece, List.filter_append, kept]

theorem names_descend (base : Path) : ∀ {names : List Name}, (∀ name ∈ names, IsName name) →
    (base.descend names).names = base.names ++ names := by
  intro names
  induction names using List.reverseRecOn with
  | nil => intro _; rw [descend_nil, List.append_nil]
  | append_singleton front last ih =>
    intro proper
    rw [descend_concat, names_child _ (proper last (by simp)),
      ih fun name member => proper name (List.mem_append_left _ member), List.append_assoc]

theorem getLast?_child {name : Name} (base : Path) (proper : IsName name) :
    (base.child name).bytes.getLast? ≠ some slash := by
  have tail : ∀ front : Bytes, (front ++ name).getLast? ≠ some slash := by
    intro front same
    rw [List.getLast?_append] at same
    cases last : name.getLast? with
    | none => exact proper.1 (List.getLast?_eq_none_iff.1 last)
    | some byte =>
      rw [last] at same
      cases same
      exact proper.2.1 (List.mem_of_getLast? last)
  rw [bytes_child base proper]
  split
  · exact tail _
  · simpa using tail (base.bytes ++ [slash])

theorem lookups_child {name : Name} (base : Path) (proper : IsName name) :
    (base.child name).lookups = base.names ++ [name] := by
  rw [lookups_eq, if_neg (getLast?_child base proper), List.append_nil, names_child base proper]

theorem isAbsolute_child {name : Name} (base : Path) (proper : IsName name) :
    (base.child name).isAbsolute = base.isAbsolute := by
  unfold isAbsolute
  rw [bytes_child base proper]
  cases shape : base.bytes with
  | nil =>
    have first : name.head? ≠ some slash := fun same => proper.2.1 (List.mem_of_head? same)
    simp [first]
  | cons byte rest => split <;> simp

end PackageDoc.Path
