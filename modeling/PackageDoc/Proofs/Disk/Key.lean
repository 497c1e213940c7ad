import PackageDoc.Proofs.Disk.Plain

/-! # Keys of paths

The key of a path tells the location it leads to.  A path that leads nowhere is its own key, and so it
can have the key of a location it does not lead to: it is absolute then and spells out the way there.
On a tree such a path asks for a directory where a file is, or cannot be followed for its length. -/
set_option autoImplicit false

namespace PackageDoc
open PackageDoc.Text

/-- The key of the paths that lead to a location. -/
def keyOf (location : Location) : List Path.Part := .root :: location.map .name

@[simp] theorem length_keyOf (location : Location) :
    (keyOf location).length = location.length + 1 := by
  simp [keyOf]

theorem keyOf_injective {first second : Location} (same : keyOf first = keyOf second) :
    first = second :=
  List.map_injective_iff.2 (fun _ _ equal => Path.Part.name.inj equal) (List.cons_inj_right _ |>.1 same)

/-! ## Paths to a file -/

namespace Path

/-- A path with nothing behind its last slash, or only a dot, asks for a directory. -/
def asksDirectory (path : Path) : Bool :=
  path.segments.getLast?.any fun segment => (partOf segment).isNone

/-- A path that can be followed, as far as its length and its names go, and leaves open what it leads
to. -/
structure NamesFile (path : Path) : Prop where
  admitted : Disk.admits path = .ok ()
  short : ∀ name ∈ path.names, name.length ≤ Disk.nameLimit
  last : path.asksDirectory = false

instance (path : Path) : Decidable path.NamesFile :=
  decidable_of_iff (Disk.admits path = .ok () ∧
      (∀ name ∈ path.names, name.length ≤ Disk.nameLimit) ∧ path.asksDirectory = false)
    ⟨fun checks => ⟨checks.1, checks.2.1, checks.2.2⟩,
      fun names => ⟨names.admitted, names.short, names.last⟩⟩

/-- The names of a path that does not ask for a directory are those that are looked up, and the last
one of them says something. -/
theorem lookups_of_asksDirectory {path : Path} (named : path.asksDirectory = false) :
    path.lookups = path.names ∧
      ∃ front last, path.names = front ++ [last] ∧ partOf last ≠ none := by
  obtain ⟨front, last, cut⟩ := List.eq_nil_or_concat' path.segments |>.resolve_left
    (pieces_ne_nil slash path.bytes)
  have tells : partOf last ≠ none := by
    unfold asksDirectory at named
    rw [cut, List.getLast?_concat] at named
    simpa [Option.isSome_iff_ne_none] using named
  have nonempty : last ≠ [] := by
    rintro rfl
    exact tells rfl
  constructor
  · rw [lookups_eq, if_neg, List.append_nil]
    intro slashed
    obtain ⟨before, whole⟩ := List.getLast?_eq_some_iff.1 slashed
    have ends : path.segments = pieces slash before ++ [[]] := by
      unfold segments
      rw [whole, pieces_append]
      rfl
    rw [ends] at cut
    exact nonempty (List.append_inj_right' cut rfl |> List.singleton_inj.1).symm
  · refine ⟨front.filter (!·.isEmpty), last, ?_, tells⟩
    unfold names
    rw [cut, List.filter_append]
    simp [nonempty]

end Path

namespace Disk
variable {disk : Disk} {path : Path} {location : Location}

/-! ## What a key tells -/

theorem key_of_locate (located : disk.locate path = .ok location) : disk.key path = keyOf location := by
  unfold key
  rw [located]
  rfl

theorem locate_eq_of_key_eq {first second : Path} {one other : Location}
    (located : disk.locate first = .ok one) (otherLocated : disk.locate second = .ok other)
    (same : disk.key first = disk.key second) : one = other := by
  rw [key_of_locate located, key_of_locate otherLocated] at same
  exact keyOf_injective same

/-- A path that leads nowhere, though it spells out the way to a location. -/
structure OnlySpells (disk : Disk) (path : Path) (location : Location) : Prop where
  astray : ∃ cause, disk.locate path = .error cause
  spelled : path.parts = keyOf location

theorem key_eq_keyOf_iff :
    disk.key path = keyOf location ↔
      disk.locate path = .ok location ∨ disk.OnlySpells path location := by
  cases located : disk.locate path with
  | ok place =>
    rw [key_of_locate located]
    constructor
    · intro same
      rw [keyOf_injective same]
      exact Or.inl rfl
    · rintro (same | ⟨⟨cause, failed⟩, _⟩)
      · rw [Except.ok.inj same]
      · rw [located] at failed
        cases failed
  | error cause =>
    have own : disk.key path = path.parts := by
      unfold key
      rw [located]
    rw [own]
    constructor
    · exact fun spelled => Or.inr ⟨⟨cause, located⟩, spelled⟩
    · rintro (same | spells)
      · cases same
      · exact spells.spelled

/-! ## Following what is spelled out -/

/-- Names that spell out the way to a directory lead there; dots between them change nothing. -/
theorem walk_spelled (tree : disk.IsTree) : ∀ (names : List Name) (location rest : Location),
    (∀ name ∈ names, name ≠ [] ∧ name.length ≤ nameLimit) →
    names.filterMap Path.partOf = rest.map .name →
    disk.node? (location ++ rest) = some .directory →
    disk.walk location names = .reach (.present (location ++ rest)) := by
  intro names
  induction names with
  | nil =>
    intro location rest _ spelled _
    obtain rfl : rest = [] := by simpa using spelled.symm
    rw [List.append_nil]
    rfl
  | cons name more ih =>
    intro location rest proper spelled held
    have directory : ∀ {front back : Location}, front ++ back = location ++ rest →
        disk.node? front = some .directory := by
      intro front back whole
      by_cases ends : back = []
      · rw [ends, List.append_nil] at whole
        rw [whole, held]
      · exact tree.directory_of_below ends (by rw [whole, held]; rfl)
    have later : ∀ name ∈ more, name ≠ [] ∧ name.length ≤ nameLimit :=
      fun name member => proper name (List.mem_cons_of_mem _ member)
    obtain ⟨nonempty, short⟩ := proper name List.mem_cons_self
    simp only [walk]
    rw [if_neg (by simp [directory rfl])]
    cases part : Path.partOf name with
    | none =>
      rw [List.filterMap_cons_none part] at spelled
      rw [if_pos (Path.eq_here_of_partOf nonempty part)]
      exact ih location rest later spelled held
    | some part =>
      rw [List.filterMap_cons_some part] at spelled
      cases rest with
      | nil => cases spelled
      | cons first rest =>
        rw [List.map_cons] at spelled
        obtain ⟨rfl, onward⟩ := List.cons.inj spelled
        obtain ⟨rfl, _, moves, climbs⟩ := Path.partOf_eq_name_iff.1 part
        have whole : location ++ name :: rest = location ++ [name] ++ rest := by simp
        rw [if_neg moves, if_neg climbs, if_neg (Nat.not_lt.2 short), directory whole.symm]
        rw [whole] at held ⊢
        exact ih (location ++ [name]) rest later onward held

/-- On a tree, a path that spells out the way to a directory or a file leads there, if it names a
file as far as its own form goes. -/
theorem locate_of_spelled (tree : disk.IsTree) (sound : disk.Sound (.present location))
    (names : path.NamesFile) (spelled : path.parts = keyOf location) :
    disk.locate path = .ok location := by
  have absolute := Path.isAbsolute_of_parts spelled
  obtain ⟨lookups, front, last, shape, tells⟩ := Path.lookups_of_asksDirectory names.last
  obtain ⟨part, found⟩ := Option.ne_none_iff_exists'.1 tells
  rw [Path.parts_of_isAbsolute absolute, keyOf, List.cons_inj_right, shape, List.filterMap_append,
    List.filterMap_cons_some found, List.filterMap_nil] at spelled
  obtain ⟨directory, final, rfl, way, own⟩ := List.append_eq_map_iff.1 spelled
  obtain ⟨name, rfl, rfl⟩ := List.map_eq_singleton_iff.1 own
  obtain ⟨rfl, _⟩ := Path.partOf_eq_name_iff.1 found
  have proper : ∀ name ∈ front ++ [last], name ≠ [] ∧ name.length ≤ nameLimit := by
    rw [← shape]
    exact fun name member => ⟨(Path.mem_names member).1, names.short name member⟩
  have there : (disk.node? (directory ++ [last])).isSome := by
    rcases sound with held | ⟨content, held⟩
    · rw [held]; rfl
    · rw [held]; rfl
  have held := tree.parent there
  have found : disk.walk [] (front ++ [last]) = .reach (.present (directory ++ [last])) := by
    rw [walk_append, walk_spelled tree front [] directory
      (fun name member => proper name (List.mem_append_left _ member)) way.symm held.1]
    dsimp only
    rw [List.nil_append, walk_single held.1 held.2, if_neg (Nat.not_lt.2 (proper last (by simp)).2)]
    rcases sound with held | ⟨content, held⟩
    · rw [held]
    · rw [held]
  rw [locate_eq_ok_iff]
  unfold Disk.reach
  rw [names.admitted, start, if_pos absolute, lookups, shape]
  exact follow_of_walk found linkLimit

/-- What only spells out the way to where another path leads does not name a file. -/
theorem OnlySpells.not_namesFile (tree : disk.IsTree) {other : Path}
    (located : disk.locate other = .ok location) (spells : disk.OnlySpells path location) :
    ¬ path.NamesFile := by
  intro names
  obtain ⟨cause, failed⟩ := spells.astray
  have sound := reach_sound tree (locate_eq_ok_iff.1 located)
  rw [locate_of_spelled tree sound names spells.spelled] at failed
  cases failed

end Disk
end PackageDoc
