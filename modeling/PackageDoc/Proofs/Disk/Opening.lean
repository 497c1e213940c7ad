import PackageDoc.Proofs.Disk.Plain
import PackageDoc.Proofs.Disk.Writing

/-! # Paths that open a directory

A path below another one leads somewhere, through links or not, only if the other one opens a
directory.  From there on the names below it are followed as from the directory itself. -/
set_option autoImplicit false

namespace PackageDoc.Disk
variable {disk : Disk}

/-! ## The way to a place -/

theorem walk_front {rest : List Name} (more : rest ≠ []) (location : Location)
    (names : List Name) :
    (∃ cause, disk.walk location (names ++ rest) = .failed cause) ∨
      (∃ directory, disk.walk location (names ++ [Path.here]) = .reach (.present directory)) ∨
      ∃ place target left, disk.walk location names = .link place target left := by
  obtain ⟨name, others, rfl⟩ := List.exists_cons_of_ne_nil more
  rw [walk_append, walk_append]
  cases disk.walk location names with
  | link place target left => exact Or.inr (Or.inr ⟨place, target, left, rfl⟩)
  | failed cause => exact Or.inl ⟨cause, rfl⟩
  | reach reach =>
    cases reach with
    | vacant directory last => exact Or.inl ⟨.notFound, rfl⟩
    | present middle =>
      by_cases held : disk.node? middle = some .directory
      · exact Or.inr (Or.inl ⟨middle, by simp [walk, held]⟩)
      · exact Or.inl ⟨.notADirectory, by simp [walk, held]⟩

/-- Names that are followed further lead to a directory first. -/
theorem follow_front {rest : List Name} (more : rest ≠ []) : ∀ (links : Nat) (names : List Name)
    (location : Location) (reach : Reach), disk.follow links location (names ++ rest) = .ok reach →
      ∃ directory, disk.follow links location (names ++ [Path.here]) =
        .ok (.present directory) := by
  intro links
  induction links with
  | zero =>
    intro names location reach found
    rw [follow] at found ⊢
    rcases disk.walk_front more location names with ⟨cause, failed⟩ | ⟨directory, opened⟩ |
      ⟨place, target, left, stop⟩
    · rw [failed] at found
      cases found
    · rw [opened]
      exact ⟨directory, rfl⟩
    · rw [walk_append, stop] at found
      cases found
  | succ links ih =>
    intro names location reach found
    rw [follow] at found ⊢
    rcases disk.walk_front more location names with ⟨cause, failed⟩ | ⟨directory, opened⟩ |
      ⟨place, target, left, stop⟩
    · rw [failed] at found
      cases found
    · rw [opened]
      exact ⟨directory, rfl⟩
    · rw [walk_append, stop] at found ⊢
      dsimp only at found ⊢
      rw [← List.append_assoc] at found ⊢
      exact ih _ _ _ found

/-! ## Directories -/

/-- The names of a path lead to a directory.  The limits on paths are left out. -/
def Opens (disk : Disk) (path : Path) (directory : Location) : Prop :=
  disk.follow linkLimit (start path disk.current) (path.names ++ [Path.here]) =
    .ok (.present directory)

variable {base : Path} {name : Name} {root : Location}

theorem Opens.directory (opens : disk.Opens base root) : disk.node? root = some .directory :=
  follow_here_directory _ _ _ _ opens

theorem Opens.of_keeps {later : Disk} (keeps : Keeps disk later) (opens : disk.Opens base root) :
    later.Opens base root := by
  unfold Opens
  rw [keeps.current]
  exact follow_present_of_keeps keeps _ _ _ _ opens

theorem Opens.of_leads (leads : disk.Leads base root)
    (directory : disk.node? root = some .directory) : disk.Opens base root := by
  apply follow_of_walk
  rw [walk_append, leads.names]
  simp [walk, directory]

theorem Opens.parent (proper : Path.IsName name) {directory : Location}
    (opens : disk.Opens (base.child name) directory) : ∃ root, disk.Opens base root := by
  unfold Opens at opens
  rw [start_child base proper, Path.names_child base proper, List.append_assoc] at opens
  exact follow_front (by simp) _ _ _ _ opens

theorem opens_of_reach (proper : Path.IsName name) {reach : Reach}
    (found : disk.reach (base.child name) = .ok reach) : ∃ root, disk.Opens base root := by
  obtain ⟨_, followed⟩ := reach_eq_ok found
  rw [start_child base proper, Path.lookups_child base proper] at followed
  exact follow_front (by simp) _ _ _ _ followed

theorem opens_of_target (proper : Path.IsName name) {location : Location}
    (target : disk.target (base.child name) = .ok location) : ∃ root, disk.Opens base root := by
  unfold Disk.target at target
  rw [if_neg (Path.getLast?_child base proper)] at target
  cases reached : disk.reach (base.child name) with
  | error cause => rw [reached] at target; cases target
  | ok reach => exact opens_of_reach proper reached

/-- Below a directory that is open, a path leads where its last names do. -/
theorem Opens.reach_child_child (opens : disk.Opens base root) {first second : Name}
    (firstProper : Path.IsName first) (secondProper : Path.IsName second)
    (admitted : admits ((base.child first).child second) = .ok ()) {reach : Reach}
    (onward : disk.walk root [first, second] = .reach reach) :
    disk.reach ((base.child first).child second) = .ok reach := by
  unfold Disk.reach
  rw [admitted, start_child _ secondProper, start_child _ firstProper,
    Path.lookups_child _ secondProper, Path.names_child _ firstProper, List.append_assoc]
  exact follow_on onward linkLimit base.names _ opens

end PackageDoc.Disk
