import PackageDoc.Proofs.Disk.Key
import PackageDoc.Proofs.Disk.Plain
import PackageDoc.Proofs.Walk.Found

/-! # Walks of trees without links

Below a directory of a tree without links, whether a directory is visible and which source files it
has is told by what lies at its location.  A scan always succeeds there, and later directories in
which no file has been made add no site. -/
set_option autoImplicit false

namespace PackageDoc
open PackageDoc.Text

namespace Disk

/-- A tree without links on which a path leads to a directory. -/
structure Rooted (disk : Disk) (path : Path) (root : Location) : Prop where
  tree : disk.IsTree
  plain : disk.Plain
  leads : disk.Leads path root
  directory : disk.node? root = some .directory

namespace Rooted
variable {disk : Disk} {path : Path} {root : Location} (rooted : disk.Rooted path root)
  {names : List Name} (proper : ∀ name ∈ names, Path.IsName name)
include rooted

theorem later {after : Disk} (tree : after.IsTree) (plain : after.Plain)
    (keeps : Keeps disk after) : after.Rooted path root :=
  ⟨tree, plain, rooted.leads.of_keeps keeps, keeps.directory rooted.directory⟩

include proper

theorem find?_of_fits (fits : Fits path names) :
    disk.find? (path.descend names) = disk.node? (root ++ names) := by
  have found := fun node =>
    @find?_descend_iff disk rooted.tree rooted.plain path root rooted.leads rooted.directory names
      proper node
  refine Option.ext fun node => ?_
  rw [found, and_iff_right fits]

theorem find?_child_of_fits {name : Name} (named : Path.IsName name)
    (fits : Fits path (names ++ [name])) :
    disk.find? ((path.descend names).child name) = disk.node? (root ++ names ++ [name]) := by
  rw [← Path.descend_concat, rooted.find?_of_fits (Path.isName_concat proper named) fits,
    List.append_assoc]

theorem find?_of_not_fits (unfit : ¬ Fits path names) : disk.find? (path.descend names) = none := by
  rw [Option.eq_none_iff_forall_ne_some]
  intro node found
  exact unfit ((find?_descend_iff rooted.tree rooted.plain rooted.leads rooted.directory proper).1
    found).1

theorem list_descend_iff {entries : List Name} :
    disk.list (path.descend names) = .ok entries ↔ Fits path names ∧
      disk.node? (root ++ names) = some .directory ∧ entries = disk.names (root ++ names) := by
  rw [list_eq_ok_iff]
  constructor
  · rintro ⟨location, located, held, rfl⟩
    obtain ⟨rfl, fits, _⟩ := (locate_descend_iff rooted.tree rooted.plain rooted.leads
      rooted.directory proper).1 located
    exact ⟨fits, held, rfl⟩
  · rintro ⟨fits, held, rfl⟩
    exact ⟨root ++ names, (locate_descend_iff rooted.tree rooted.plain rooted.leads
      rooted.directory proper).2 ⟨rfl, fits, Option.isSome_of_eq_some held⟩, held, rfl⟩

theorem isDirectory_descend_iff : disk.isDirectory (path.descend names) = true ↔
    Fits path names ∧ disk.node? (root ++ names) = some .directory := by
  rw [isDirectory_iff,
    find?_descend_iff rooted.tree rooted.plain rooted.leads rooted.directory proper]

theorem isFile_descend_iff : disk.isFile (path.descend names) = true ↔
    Fits path names ∧ ∃ content, disk.node? (root ++ names) = some (.file content) := by
  simp only [isFile_iff,
    find?_descend_iff rooted.tree rooted.plain rooted.leads rooted.directory proper,
    exists_and_left]

end Rooted

/-- A later disk on which no file has been made below a location. -/
structure NoNewFiles (root : Location) (before after : Disk) : Prop where
  keeps : Keeps before after
  files : ∀ location content, root <+: location → after.node? location = some (.file content) →
    ∃ old, before.node? location = some (.file old)

end Disk

/-! ## Visible directories by location -/

namespace Visible
variable {disk : Disk} {source : Path} {root : Location} {names : List Name}

theorem of_keeps {after : Disk} (visible : Visible disk source names)
    (keeps : Disk.Keeps disk after) : Visible after source names := by
  induction visible with
  | root => exact .root
  | @child names entries name above listed inside directory shown decodes ih =>
    obtain ⟨location, located, held, rfl⟩ := Disk.list_eq_ok_iff.1 listed
    refine .child ih (Disk.list_eq_ok_iff.2
      ⟨location, Disk.locate_of_keeps keeps located, keeps.directory held, rfl⟩) ?_
      (Disk.isDirectory_of_keeps keeps directory) shown decodes
    obtain ⟨node, found⟩ := Option.isSome_iff_exists.1 ((disk.mem_names _ _).1 inside)
    rw [after.mem_names]
    have later := keeps.node _ node found
    cases there : after.node? (location ++ [name]) with
    | none => rw [there] at later; cases later
    | some other => rfl

theorem of_later {before : Disk} (visible : Visible disk source names)
    (rooted : before.Rooted source root) (later : disk.Rooted source root)
    (directory : before.node? (root ++ names) = some .directory) :
    Visible before source names := by
  induction visible with
  | root => exact .root
  | @child names entries name above listed inside isDirectory shown decodes ih =>
    have proper := (above.child listed inside isDirectory shown decodes).isName later.tree
    have front : ∀ name ∈ names, Path.IsName name :=
      fun name member => proper name (List.mem_append_left _ member)
    rw [← List.append_assoc] at directory
    have held := (rooted.tree.parent (Option.isSome_of_eq_some directory)).1
    have fits := ((later.list_descend_iff front).1 listed).1
    have deeper := ((later.isDirectory_descend_iff proper).1 isDirectory).1
    refine .child (ih held) ((rooted.list_descend_iff front).2 ⟨fits, held, rfl⟩)
      ((before.mem_names _ _).2 (Option.isSome_of_eq_some directory)) ?_ shown decodes
    rw [rooted.isDirectory_descend_iff proper, ← List.append_assoc]
    exact ⟨deeper, directory⟩

end Visible

namespace Plan
variable {plan : Plan} {disk before after : Disk} {root : Location} {names : List Name}

theorem mem_files_rooted (rooted : disk.Rooted plan.options.source root)
    (proper : ∀ name ∈ names, Path.IsName name) {listing : Listing}
    (listed : plan.list disk (plan.directoryAt names) = .ok listing) (name : Name) :
    name ∈ listing.files ↔ Disk.Fits plan.options.source (names ++ [name]) ∧
      (∃ content, disk.node? (root ++ names ++ [name]) = some (.file content)) ∧
      plan.options.isSourceName name = true := by
  obtain ⟨entries, read, rfl⟩ := (plan.list_eq_ok_iff _ _ _).1 listed
  obtain ⟨_, held, rfl⟩ := (rooted.list_descend_iff proper).1 read
  have isFile : Path.IsName name →
      (disk.isFile ((plan.directoryAt names).child name) = true ↔
        Disk.Fits plan.options.source (names ++ [name]) ∧
          ∃ content, disk.node? (root ++ names ++ [name]) = some (.file content)) := by
    intro named
    unfold directoryAt
    rw [← Path.descend_concat, rooted.isFile_descend_iff (Path.isName_concat proper named),
      List.append_assoc]
  rw [List.mem_filter, disk.mem_names, Bool.and_eq_true]
  constructor
  · rintro ⟨held, file, extension⟩
    obtain ⟨fits, content⟩ := (isFile (rooted.tree.parent held).2).1 file
    exact ⟨fits, content, extension⟩
  · rintro ⟨fits, ⟨content, file⟩, extension⟩
    have some := Option.isSome_of_eq_some file
    exact ⟨some, (isFile (rooted.tree.parent some).2).2 ⟨fits, content, file⟩, extension⟩

theorem files_ascending {directory : Path} {listing : Listing}
    (listed : plan.list disk directory = .ok listing) : listing.files.Pairwise (· < ·) := by
  obtain ⟨entries, read, rfl⟩ := (plan.list_eq_ok_iff _ _ _).1 listed
  obtain ⟨location, _, _, rfl⟩ := Disk.list_eq_ok_iff.1 read
  exact (disk.names_ascending location).filter _

section Later
variable (early : before.Rooted plan.options.source root)
  (late : after.Rooted plan.options.source root) (quiet : Disk.NoNewFiles root before after)
include early late quiet

theorem files_eq (proper : ∀ name ∈ names, Path.IsName name) {one other : Listing}
    (listed : plan.list before (plan.directoryAt names) = .ok one)
    (relisted : plan.list after (plan.directoryAt names) = .ok other) : one.files = other.files := by
  refine eq_of_ascending (fun _ _ => List.lt_asymm) (files_ascending listed)
    (files_ascending relisted) fun name => ?_
  rw [mem_files_rooted early proper listed, mem_files_rooted late proper relisted]
  refine and_congr_right fun _ => and_congr_left fun _ => ?_
  constructor
  · rintro ⟨content, held⟩
    exact quiet.keeps.file held
  · rintro ⟨content, held⟩
    refine quiet.files _ content ?_ held
    rw [List.append_assoc]
    exact List.prefix_append _ _

/-- As long as no file is made below the source directory, the sites stay the same. -/
theorem isSite_iff_later (site : Site) : plan.IsSite before site ↔ plan.IsSite after site := by
  constructor
  · rintro ⟨visible, ⟨listing, listed, files⟩, some⟩
    have proper := visible.isName early.tree
    obtain ⟨entries, read, _⟩ := (plan.list_eq_ok_iff _ _ _).1 listed
    obtain ⟨fits, held, _⟩ := (early.list_descend_iff proper).1 read
    have reread := (late.list_descend_iff proper).2 ⟨fits, quiet.keeps.directory held, rfl⟩
    have relisted := (plan.list_eq_ok_iff after (plan.directoryAt site.names) _).2 ⟨_, reread, rfl⟩
    refine ⟨visible.of_keeps quiet.keeps, ⟨_, relisted, ?_⟩, some⟩
    rw [← files_eq early late quiet proper listed relisted, files]
  · rintro ⟨visible, ⟨listing, listed, files⟩, some⟩
    have proper := visible.isName late.tree
    obtain ⟨name, member⟩ := List.exists_mem_of_ne_nil _ some
    rw [← files] at member
    obtain ⟨_, ⟨content, held⟩, _⟩ := (mem_files_rooted late proper listed name).1 member
    obtain ⟨old, file⟩ := quiet.files _ content (by
      rw [List.append_assoc]
      exact List.prefix_append _ _) held
    have directory := (early.tree.parent (Option.isSome_of_eq_some file)).1
    obtain ⟨entries, read, _⟩ := (plan.list_eq_ok_iff _ _ _).1 listed
    obtain ⟨fits, _, _⟩ := (late.list_descend_iff proper).1 read
    have reread := (early.list_descend_iff proper).2 ⟨fits, directory, rfl⟩
    have relisted := (plan.list_eq_ok_iff before (plan.directoryAt site.names) _).2 ⟨_, reread, rfl⟩
    refine ⟨visible.of_later early late directory, ⟨_, relisted, ?_⟩, some⟩
    rw [files_eq early late quiet proper relisted listed, files]

end Later

/-! ## Scans succeed -/

theorem key_directoryAt (rooted : disk.Rooted plan.options.source root)
    (proper : ∀ name ∈ names, Path.IsName name)
    (directory : disk.isDirectory (plan.directoryAt names) = true) :
    disk.key (plan.directoryAt names) = keyOf (root ++ names) := by
  obtain ⟨location, located, _⟩ := Disk.find?_eq_some_iff.1 (Disk.isDirectory_iff.1 directory)
  obtain ⟨rfl, _⟩ := (Disk.locate_descend_iff rooted.tree rooted.plain rooted.leads
    rooted.directory proper).1 located
  exact Disk.key_of_locate located

/-- Without links no directory is among its ancestors, so nothing stops a scan. -/
theorem scans_of_rooted (rooted : disk.Rooted plan.options.source root) :
    ∀ (fuel : Nat) (ancestors : List (List Path.Part)) (names : List Name),
      (∀ name ∈ names, Path.IsName name) →
      disk.isDirectory (plan.directoryAt names) = true →
      (∀ ancestor ∈ ancestors, ancestor.length ≤ root.length + names.length) →
      ∃ sites, plan.Scans disk fuel ancestors names sites := by
  intro fuel
  induction fuel with
  | zero => intro ancestors names _ _ _; exact ⟨[], rfl⟩
  | succ fuel ih =>
    intro ancestors names proper directory above
    have key := key_directoryAt rooted proper directory
    have fresh : ancestors.contains (disk.key (plan.directoryAt names)) = false := by
      cases contained : ancestors.contains (disk.key (plan.directoryAt names)) with
      | false => rfl
      | true =>
        have short := above _ (List.contains_iff_mem.1 contained)
        rw [key, length_keyOf, List.length_append] at short
        omega
    obtain ⟨fits, held⟩ := (rooted.isDirectory_descend_iff proper).1 directory
    have read := (rooted.list_descend_iff proper).2 ⟨fits, held, rfl⟩
    have listed := (plan.list_eq_ok_iff disk (plan.directoryAt names) _).2 ⟨_, read, rfl⟩
    have each : ∀ name ∈ (disk.names (root ++ names)).filter fun name =>
        disk.isDirectory ((plan.directoryAt names).child name) && !Path.isHidden name,
        ∃ found, plan.Branches disk fuel (disk.key (plan.directoryAt names) :: ancestors) names name
          found := by
      intro name member
      obtain ⟨inside, good⟩ := List.mem_filter.1 member
      unfold Branches
      cases string? name with
      | none => exact ⟨[], rfl⟩
      | some text =>
        refine ih _ (names ++ [name]) ?_ ?_ ?_
        · exact Path.isName_concat proper (rooted.tree.parent ((disk.mem_names _ _).1 inside)).2
        · unfold directoryAt
          rw [Path.descend_concat]
          exact (Bool.and_eq_true_iff.1 good).1
        · intro ancestor found
          rw [List.length_append, List.length_singleton]
          rcases List.mem_cons.1 found with rfl | earlier
          · rw [key, length_keyOf, List.length_append]
            omega
          · have short := above ancestor earlier
            omega
    obtain ⟨below, branches⟩ := exists_forall₂ each
    exact ⟨_, fresh, _, below, listed, branches, rfl⟩

theorem scans_source (rooted : disk.Rooted plan.options.source root)
    (directory : disk.isDirectory plan.options.source = true) :
    ∃ sites, plan.Scans disk Disk.pathLimit [] [] sites :=
  scans_of_rooted rooted Disk.pathLimit [] [] (fun _ member => absurd member List.not_mem_nil)
    directory (fun _ member => absurd member List.not_mem_nil)

end Plan
end PackageDoc
