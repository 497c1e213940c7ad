import PackageDoc.Proofs.Disk.Opening

/-! # Writing below a directory

On a tree without links, what is written at a path below a directory comes to lie below that
directory: a file at exactly one location, and directories on the way to it. -/
set_option autoImplicit false

namespace PackageDoc
open PackageDoc.Text

namespace Path

theorem segments_child_of_open {base : Path} {name : Name} (proper : IsName name)
    (nonempty : base.bytes ≠ []) (open_ : base.bytes.getLast? ≠ some slash) :
    (base.child name).segments = base.segments ++ [name] := by
  unfold segments
  rw [bytes_child base proper, if_neg (by simp [nonempty, open_]), pieces_append,
    pieces_of_notMem slash proper.2.1]

theorem segments_child (base : Path) {name : Name} (proper : IsName name) :
    ∃ front, (base.child name).segments = front ++ [name] := by
  have piece := pieces_of_notMem slash proper.2.1
  by_cases empty : base.bytes = []
  · refine ⟨[], ?_⟩
    unfold segments
    rw [bytes_child base proper, if_pos (by simp [empty]), empty]
    exact piece
  · by_cases closed : base.bytes.getLast? = some slash
    · obtain ⟨front, whole⟩ := List.getLast?_eq_some_iff.1 closed
      refine ⟨pieces slash front, ?_⟩
      unfold segments
      rw [bytes_child base proper, if_pos (Or.inr closed), whole, List.append_assoc,
        List.singleton_append, pieces_append, piece]
    · exact ⟨base.segments, segments_child_of_open proper empty closed⟩

theorem bytes_child_ne_nil (base : Path) {name : Name} (proper : IsName name) :
    (base.child name).bytes ≠ [] := by
  rw [bytes_child base proper]
  split <;> simp [proper.1]

/-- A relative path of two names is the path to the second in the first. -/
theorem join_child (base : Path) {first second : Name} (firstProper : IsName first)
    (secondProper : IsName second) :
    base.join ⟨first ++ slash :: second⟩ = (base.child first).child second := by
  have relative : ¬ (⟨first ++ slash :: second⟩ : Path).isAbsolute = true := by
    obtain ⟨byte, rest, rfl⟩ := List.exists_cons_of_ne_nil firstProper.1
    have apart : slash ≠ byte := fun same => firstProper.2.1 (by simp [same])
    simpa [isAbsolute] using apart.symm
  have whole : (base.join ⟨first ++ slash :: second⟩).bytes =
      ((base.child first).child second).bytes := by
    rw [bytes_child _ secondProper, if_neg (by
      simp [bytes_child_ne_nil base firstProper, getLast?_child base firstProper]),
      bytes_child base firstProper]
    unfold join
    rw [if_neg relative]
    split <;> simp
  exact congrArg Path.mk whole

theorem dropWhile_idle {name : Name} (proper : IsName name) (rest : List Name) :
    (name :: rest).dropWhile (fun segment => (partOf segment).isNone) = name :: rest := by
  simp [List.dropWhile, partOf_of_isName proper]

/-- The parent of a path below a proper name is the path up to that name. -/
theorem parent?_child_child (base : Path) {first second : Name} (firstProper : IsName first)
    (secondProper : IsName second) :
    ((base.child first).child second).parent? = some (base.child first) := by
  obtain ⟨front, segments⟩ := segments_child base firstProper
  have whole := segments_child_of_open secondProper (bytes_child_ne_nil base firstProper)
    (getLast?_child base firstProper)
  unfold parent?
  rw [whole, segments, List.reverse_append, List.reverse_singleton, List.singleton_append]
  dsimp only
  rw [dropWhile_idle secondProper]
  dsimp only
  rw [List.reverse_append, List.reverse_singleton, List.singleton_append,
    dropWhile_idle firstProper]
  dsimp only
  rw [List.reverse_cons, List.reverse_reverse, ← segments]
  unfold ofSegments Path.segments
  rw [join_pieces]

end Path

namespace Disk

section Plain
variable {disk : Disk} (plain : disk.Plain)
include plain

theorem target_child {base : Path} {name : Name} (proper : Path.IsName name)
    {location : Location} (success : disk.target (base.child name) = .ok location) :
    admits (base.child name) = .ok () ∧ name.length ≤ nameLimit ∧
      ∃ directory, disk.Leads base directory ∧ location = directory ++ [name] := by
  unfold target at success
  rw [if_neg (Path.getLast?_child base proper)] at success
  cases reached : disk.reach (base.child name) with
  | error cause => rw [reached] at success; cases success
  | ok reach =>
    obtain ⟨admitted, found⟩ := plain.reach_eq_ok_iff.1 reached
    obtain ⟨directory, leads, _, short, shape⟩ := walk_of_child proper found
    refine ⟨admitted, short, directory, leads, ?_⟩
    rw [reached] at success
    rcases shape with rfl | rfl
    · simp only [bind, Except.bind] at success
      split at success
      · cases success
      · exact (Except.ok.inj success).symm
    · exact (Except.ok.inj success).symm

theorem free_child {base : Path} {name : Name} (proper : Path.IsName name)
    {location : Location} (success : disk.free (base.child name) = .ok location) :
    ∃ directory, disk.Leads base directory ∧ disk.node? directory = some .directory ∧
      location = directory ++ [name] := by
  obtain ⟨directory, last, found, rfl, _⟩ := free_eq_ok success
  obtain ⟨_, same, followed⟩ := lastName_eq_ok found
  rw [Path.names_child base proper, List.dropLast_concat, start_child base proper] at followed
  rw [Path.names_child base proper, List.getLast?_append] at same
  cases same
  obtain ⟨stop, held⟩ := walk_here (plain.walk_of_follow followed)
  exact ⟨directory, Leads.of_names stop held, held, rfl⟩

end Plain

/-- Below a directory that a path opens, making a directory does not fail for want of a parent. -/
theorem makeDirectory_child_ne_notFound {disk : Disk} {base : Path} {root : Location}
    (opens : disk.Opens base root) {name : Name} (proper : Path.IsName name) (after : Disk) :
    disk.makeDirectory (base.child name) ≠ (after, some .notFound) := by
  intro run
  have missing : disk.free (base.child name) = .error .notFound := by
    unfold makeDirectory at run
    split at run
    · simp at run
    next cause failed => rw [failed, Option.some.inj (Prod.mk.inj run).2]
  have front : (base.child name).segments.filter (!·.isEmpty) = base.names ++ [name] :=
    Path.names_child base proper
  have last : ∀ cause, disk.lastName (base.child name) = .error cause → cause ≠ .notFound := by
    intro cause failed same
    unfold lastName at failed
    unfold Opens at opens
    simp only [front, List.dropLast_concat, start_child base proper, opens] at failed
    unfold admits at failed
    have nonempty : (base.child name).bytes.isEmpty = false := by
      simp [Path.bytes_child_ne_nil base proper]
    simp only [nonempty, Bool.false_eq_true, if_false] at failed
    split at failed
    · cases failed
      cases same
    · split at failed
      · cases failed
        cases same
      · cases failed
  unfold free at missing
  cases found : disk.lastName (base.child name) with
  | error cause =>
    rw [found] at missing
    exact last cause found (Except.error.inj missing)
  | ok place =>
    obtain ⟨held, chosen⟩ := place
    rw [found] at missing
    cases chosen with
    | none => cases missing
    | some other =>
      simp only [bind, Except.bind] at missing
      split at missing
      · cases missing
      · split at missing
        · cases missing
        · split at missing <;> cases missing

/-! ## Directories below a directory -/

/-- Two disks agree on everything that is not below a location. -/
def SameOutside (root : Location) (before after : Disk) : Prop :=
  ∀ location, ¬ root <+: location → after.node? location = before.node? location

theorem SameOutside.refl (root : Location) (disk : Disk) : SameOutside root disk disk :=
  fun _ _ => rfl

theorem SameOutside.trans {root : Location} {before middle after : Disk}
    (first : SameOutside root before middle) (second : SameOutside root middle after) :
    SameOutside root before after :=
  fun location outside => (second location outside).trans (first location outside)

theorem SameOutside.put {root location : Location} (disk : Disk) (nonempty : location ≠ [])
    (inside : root <+: location) (node : Node) :
    SameOutside root disk (disk.put location node) := by
  intro other outside
  exact node?_put_of_ne disk nonempty node fun same => outside (same ▸ inside)

section Descend
variable {disk after : Disk} (tree : disk.IsTree) (plain : disk.Plain) {path : Path}
  {root : Location} (leads : disk.Leads path root)
  (directory : disk.node? root = some .directory)
include tree plain leads directory

/-- A file written below a directory comes to lie under the names of its path. -/
theorem write_descend {names : List Name} {name : Name} {content : Bytes}
    (namesProper : ∀ name ∈ names, Path.IsName name) (proper : Path.IsName name)
    (success : disk.write ((path.descend names).child name) content = (after, none)) :
    after = disk.put (root ++ names ++ [name]) (.file content) ∧
      disk.Writable (root ++ names ++ [name]) ∧ Fits path (names ++ [name]) := by
  obtain ⟨location, targeted, rfl⟩ := write_eq_ok_iff.1 success
  obtain ⟨admitted, short, parent, parentLeads, rfl⟩ := target_child plain proper targeted
  obtain ⟨rfl, shorts, _⟩ := (leads_descend_iff tree plain leads directory namesProper).1 parentLeads
  refine ⟨rfl, target_writable tree targeted, by rwa [Path.descend_concat], ?_⟩
  intro other member
  rcases List.mem_append.1 member with inside | last
  · exact shorts other inside
  · rw [List.mem_singleton.1 last]
    exact short

theorem makeDirectory_descend {names : List Name} {failure : Option DiskError}
    (nonempty : names ≠ []) (proper : ∀ name ∈ names, Path.IsName name)
    (run : disk.makeDirectory (path.descend names) = (after, failure)) :
    SameOutside root disk after := by
  cases failure with
  | some cause =>
    unfold makeDirectory at run
    split at run
    · cases run
    · cases run
      exact SameOutside.refl root disk
  | none =>
    obtain ⟨location, open_, rfl⟩ := makeDirectory_eq_ok_iff.1 run
    obtain ⟨front, last, rfl⟩ := (List.eq_nil_or_concat' names).resolve_left nonempty
    rw [Path.descend_concat] at open_
    obtain ⟨parent, parentLeads, _, rfl⟩ := free_child plain (proper last (by simp)) open_
    have frontProper : ∀ name ∈ front, Path.IsName name :=
      fun name member => proper name (List.mem_append_left _ member)
    obtain ⟨rfl, _⟩ := (leads_descend_iff tree plain leads directory frontProper).1 parentLeads
    exact SameOutside.put disk (by simp) ⟨front ++ [last], by simp⟩ _

end Descend

theorem settle_descend {disk after : Disk} (tree : disk.IsTree) (plain : disk.Plain) {path : Path}
    {root : Location} (leads : disk.Leads path root)
    (directory : disk.node? root = some .directory) {names : List Name}
    {failure : Option DiskError} (nonempty : names ≠ [])
    (proper : ∀ name ∈ names, Path.IsName name)
    (run : disk.settle (path.descend names) = (after, failure)) : SameOutside root disk after := by
  unfold settle at run
  split at run
  next made_run =>
    cases run
    exact makeDirectory_descend tree plain leads directory nonempty proper made_run
  next => split at run <;> cases run <;> exact SameOutside.refl root disk

/-- Making the directories of a path below a directory changes nothing elsewhere. -/
theorem createWithin_descend {disk : Disk} (tree : disk.IsTree) (plain : disk.Plain) {path : Path}
    {root : Location} (leads : disk.Leads path root)
    (directory : disk.node? root = some .directory) : ∀ (fuel : Nat) {names : List Name}
    {after : Disk} {failure : Option DiskError}, names ≠ [] →
      (∀ name ∈ names, Path.IsName name) →
      createWithin fuel disk (path.descend names) = (after, failure) →
        SameOutside root disk after := by
  intro fuel
  induction fuel with
  | zero =>
    intro names after failure _ _ run
    cases run
    exact SameOutside.refl root disk
  | succ fuel ih =>
    intro names after failure nonempty proper run
    rw [createWithin] at run
    split at run
    next => cases run; exact SameOutside.refl root disk
    next =>
      split at run
      next made_run =>
        cases run
        exact makeDirectory_descend tree plain leads directory nonempty proper made_run
      next absent_run =>
        split at run
        · cases run
          exact SameOutside.refl root disk
        next parent parent_is =>
          -- The directory itself is there, so only a path two names below it can miss its parent.
          have deep : ∃ front, front ≠ [] ∧ (∀ name ∈ front, Path.IsName name) ∧
              parent = path.descend front := by
            obtain ⟨front, last, rfl⟩ := (List.eq_nil_or_concat' names).resolve_left nonempty
            have frontProper : ∀ name ∈ front, Path.IsName name :=
              fun name member => proper name (List.mem_append_left _ member)
            rw [Path.descend_concat] at parent_is absent_run
            rcases List.eq_nil_or_concat' front with rfl | ⟨before, first, rfl⟩
            · exact absurd absent_run (makeDirectory_child_ne_notFound
                (Opens.of_leads leads directory) (proper last (by simp)) _)
            · rw [Path.descend_concat, Path.parent?_child_child _ (frontProper first (by simp))
                (proper last (by simp))] at parent_is
              refine ⟨before ++ [first], by simp, frontProper, ?_⟩
              rw [Path.descend_concat]
              exact (Option.some.inj parent_is).symm
          obtain ⟨front, frontNonempty, frontProper, rfl⟩ := deep
          split at run
          next parent_run =>
            cases run
            exact ih frontNonempty frontProper parent_run
          next middle parent_run =>
            have extended := (createWithin_extended fuel tree parent_run).1
            have keeps := extended.paved.keeps
            exact (ih frontNonempty frontProper parent_run).trans
              (settle_descend extended.tree (extended.paved.plain plain) (leads.of_keeps keeps)
                (keeps.directory directory) nonempty proper run)
      next => split at run <;> cases run <;> exact SameOutside.refl root disk

end Disk
end PackageDoc
