import PackageDoc.Proofs.Disk.Lookup
import PackageDoc.Proofs.Walk.Basic

/-! # Visible directories

A directory below the source directory is visible if it is reached through directories whose names
are texts and do not begin with a dot.  A path that can be followed is short, so a visible directory
lies less deep than a walk can go. -/
set_option autoImplicit false

namespace PackageDoc
open PackageDoc.Text

/-- A name that can be a component of a package. -/
def IsComponent (name : Name) : Prop := Path.IsName name ∧ (string? name).isSome = true

/-- Names that lead from a source directory through visible directories only. -/
inductive Visible (disk : Disk) (source : Path) : List Name → Prop
  | root : Visible disk source []
  | child {names entries : List Name} {name : Name} (above : Visible disk source names)
      (listed : disk.list (source.descend names) = .ok entries) (inside : name ∈ entries)
      (directory : disk.isDirectory (source.descend (names ++ [name])) = true)
      (shown : Path.isHidden name = false) (decodes : (string? name).isSome = true) :
      Visible disk source (names ++ [name])

namespace Visible
variable {disk : Disk} {source : Path}

theorem of_concat {names : List Name} {name : Name} (visible : Visible disk source (names ++ [name])) :
    Visible disk source names ∧ ∃ entries, disk.list (source.descend names) = .ok entries ∧
      name ∈ entries ∧ disk.isDirectory (source.descend (names ++ [name])) = true ∧
      Path.isHidden name = false ∧ (string? name).isSome = true := by
  generalize whole : names ++ [name] = all at visible
  cases visible with
  | root => simp at whole
  | child above listed inside directory shown decodes =>
    obtain ⟨rfl, same⟩ := List.append_inj' whole rfl
    obtain rfl := List.singleton_inj.1 same
    exact ⟨above, _, listed, inside, directory, shown, decodes⟩

theorem of_append {names : List Name} : ∀ {rest : List Name},
    Visible disk source (names ++ rest) → Visible disk source names := by
  intro rest
  induction rest using List.reverseRecOn with
  | nil => intro visible; simpa using visible
  | append_singleton front last ih =>
    intro visible
    rw [← List.append_assoc] at visible
    exact ih visible.of_concat.1

theorem isName (tree : disk.IsTree) {names : List Name} (visible : Visible disk source names) :
    ∀ name ∈ names, Path.IsName name := by
  induction visible with
  | root => intro name member; exact absurd member List.not_mem_nil
  | child above listed inside directory shown decodes ih =>
    exact Path.isName_concat ih (Disk.isName_of_list tree listed inside)

theorem decodes {names : List Name} (visible : Visible disk source names) :
    ∀ name ∈ names, (string? name).isSome = true := by
  induction visible with
  | root => intro name member; exact absurd member List.not_mem_nil
  | child above listed inside directory shown decodes ih =>
    exact List.forall_mem_append.2 ⟨ih, List.forall_mem_singleton.2 decodes⟩

theorem components (tree : disk.IsTree) {names : List Name}
    (visible : Visible disk source names) : ∀ name ∈ names, IsComponent name :=
  fun name member => ⟨visible.isName tree name member, visible.decodes name member⟩

theorem length_child (base : Path) {name : Name} (proper : Path.IsName name) :
    base.bytes.length < (base.child name).bytes.length := by
  have some : 0 < name.length := List.length_pos_iff.2 proper.1
  rw [Path.bytes_child base proper]
  split
  · rw [List.length_append]
    omega
  · rw [List.length_append, List.length_cons]
    omega

theorem length_descend (path : Path) {names : List Name}
    (proper : ∀ name ∈ names, Path.IsName name) :
    names.length ≤ (path.descend names).bytes.length := by
  induction names using List.reverseRecOn with
  | nil => exact Nat.zero_le _
  | append_singleton front last ih =>
    have shorter := ih fun name member => proper name (List.mem_append_left _ member)
    have longer := length_child (path.descend front) (proper last (by simp))
    rw [Path.descend_concat, List.length_append, List.length_singleton]
    omega

/-- A path that is long enough to exhaust the walk leads nowhere. -/
theorem length_lt (tree : disk.IsTree) {names : List Name} (visible : Visible disk source names) :
    names.length < Disk.pathLimit := by
  rcases List.eq_nil_or_concat' names with rfl | ⟨front, last, rfl⟩
  · decide
  · obtain ⟨_, _, _, _, directory, _, _⟩ := visible.of_concat
    obtain ⟨location, located, _⟩ :=
      Disk.find?_eq_some_iff.1 (Disk.isDirectory_iff.1 directory)
    have admitted := (Disk.reach_eq_ok (Disk.locate_eq_ok_iff.1 located)).1
    have enough := length_descend source (visible.isName tree)
    unfold Disk.admits at admitted
    split at admitted
    · cases admitted
    · split at admitted
      · cases admitted
      · split at admitted
        · cases admitted
        · omega

end Visible

namespace Plan
variable (plan : Plan) {disk : Disk}

def directoryAt (plan : Plan) (names : List Name) : Path := plan.options.source.descend names

def outputAt (plan : Plan) (names : List Name) : Path := plan.options.output.descend names

theorem list_eq_ok_iff (disk : Disk) (directory : Path) (listing : Listing) :
    plan.list disk directory = .ok listing ↔ ∃ entries, disk.list directory = .ok entries ∧
      listing = ⟨entries.filter fun name =>
          disk.isFile (directory.child name) && plan.options.isSourceName name,
        entries.filter fun name =>
          disk.isDirectory (directory.child name) && !Path.isHidden name⟩ := by
  unfold list
  cases disk.list directory with
  | error cause => simp
  | ok entries =>
    simp only [Except.ok.injEq, exists_eq_left']
    exact eq_comm

variable {plan}

theorem directories_ascending {directory : Path} {listing : Listing}
    (listed : plan.list disk directory = .ok listing) : listing.directories.Pairwise (· < ·) := by
  obtain ⟨entries, read, rfl⟩ := (plan.list_eq_ok_iff _ _ _).1 listed
  obtain ⟨location, _, _, rfl⟩ := Disk.list_eq_ok_iff.1 read
  exact (disk.names_ascending location).filter _

theorem isName_of_directories (tree : disk.IsTree) {directory : Path} {listing : Listing}
    (listed : plan.list disk directory = .ok listing) {name : Name}
    (member : name ∈ listing.directories) : Path.IsName name := by
  obtain ⟨entries, read, rfl⟩ := (plan.list_eq_ok_iff _ _ _).1 listed
  exact Disk.isName_of_list tree read (List.mem_filter.1 member).1

theorem visible_child {names : List Name} (visible : Visible disk plan.options.source names)
    {listing : Listing} (listed : plan.list disk (plan.directoryAt names) = .ok listing)
    {name : Name} (member : name ∈ listing.directories)
    (decodes : (string? name).isSome = true) :
    Visible disk plan.options.source (names ++ [name]) := by
  obtain ⟨entries, read, rfl⟩ := (plan.list_eq_ok_iff _ _ _).1 listed
  obtain ⟨inside, good⟩ := List.mem_filter.1 member
  rw [Bool.and_eq_true, Bool.not_eq_true'] at good
  refine .child visible read inside ?_ good.2 decodes
  rw [Path.descend_concat]
  exact good.1

theorem mem_directories_of_concat {names : List Name} {name : Name}
    (visible : Visible disk plan.options.source (names ++ [name])) {listing : Listing}
    (listed : plan.list disk (plan.directoryAt names) = .ok listing) :
    name ∈ listing.directories := by
  obtain ⟨_, entries, read, inside, directory, shown, _⟩ := visible.of_concat
  obtain ⟨others, otherRead, rfl⟩ := (plan.list_eq_ok_iff _ _ _).1 listed
  unfold directoryAt at otherRead ⊢
  rw [read] at otherRead
  cases otherRead
  rw [Path.descend_concat] at directory
  exact List.mem_filter.2 ⟨inside, by rw [directory, shown]; rfl⟩

end Plan
end PackageDoc
