import PackageDoc.Proofs.Disk.Lookup

/-! # What writing changes

Writing a file puts it at one location, where nothing or another file was.  Making directories adds
directories and nothing else, and the path leads to a directory afterwards.  An operation on a tree
leaves a tree on which everything that was there is kept, also when it fails. -/
set_option autoImplicit false

namespace PackageDoc.Disk
open PackageDoc.Text

/-! ## Writing a file -/

/-- A location in a directory of a disk at which nothing or a file is. -/
structure Writable (disk : Disk) (location : Location) : Prop where
  parent : ∃ directory name, location = directory ++ [name] ∧
    disk.node? directory = some .directory ∧ Path.IsName name
  open_ : disk.node? location = none ∨ ∃ content, disk.node? location = some (.file content)

namespace Writable

variable {disk : Disk} {location : Location}

theorem below (writable : disk.Writable location) : location ≠ [] := by
  obtain ⟨directory, name, rfl, _⟩ := writable.parent
  simp

theorem tree (writable : disk.Writable location) (tree : disk.IsTree) (content : Bytes) :
    (disk.put location (.file content)).IsTree := by
  obtain ⟨directory, name, rfl, held, proper⟩ := writable.parent
  refine tree.put held proper ?_ _
  rcases writable.open_ with free | ⟨content, file⟩
  · simp [free]
  · simp [file]

theorem keeps (writable : disk.Writable location) (content : Bytes) :
    Keeps disk (disk.put location (.file content)) := by
  refine Keeps.put writable.below ?_
  intro held found
  rcases writable.open_ with free | ⟨other, file⟩
  · rw [free] at found
    cases found
  · rw [file] at found
    cases found
    rfl

end Writable

theorem target_writable {disk : Disk} (tree : disk.IsTree) {path : Path} {location : Location}
    (success : disk.target path = .ok location) : disk.Writable location := by
  unfold target at success
  split at success
  · cases last : disk.lastName path <;> rw [last] at success <;> cases success
  · cases reached : disk.reach path with
    | error cause => rw [reached] at success; cases success
    | ok reach =>
      have sound := reach_sound tree reached
      rw [reached] at success
      cases reach with
      | vacant directory name =>
        have same : directory ++ [name] = location := Except.ok.inj success
        subst same
        exact ⟨⟨directory, name, rfl, sound.1, sound.2.2⟩, Or.inl sound.2.1⟩
      | present found =>
        simp only [bind, Except.bind] at success
        split at success
        · cases success
        next other =>
          have same : found = location := Except.ok.inj success
          subst same
          have file := sound.resolve_left other
          refine ⟨?_, Or.inr file⟩
          obtain ⟨content, held⟩ := file
          rcases List.eq_nil_or_concat' found with root | ⟨directory, name, whole⟩
          · rw [root, node?_root] at held
            cases held
          · rw [whole] at held
            obtain ⟨parent, proper⟩ := tree.parent (Option.isSome_of_eq_some held)
            exact ⟨directory, name, whole, parent, proper⟩

/-- A write that succeeds puts the file at the target of its path. -/
theorem write_eq_ok_iff {disk after : Disk} {path : Path} {content : Bytes} :
    disk.write path content = (after, none) ↔
      ∃ location, disk.target path = .ok location ∧ after = disk.put location (.file content) := by
  unfold write
  cases disk.target path with
  | error cause => simp
  | ok location => simp [eq_comm]

theorem write_eq_error {disk after : Disk} {path : Path} {content : Bytes} {cause : DiskError}
    (failed : disk.write path content = (after, some cause)) : after = disk := by
  unfold write at failed
  split at failed
  · cases failed
  · exact (Prod.mk.inj failed).1.symm

/-- A path would put a file where nothing is, or where it leads. -/
theorem free_or_locate_of_target {disk : Disk} (tree : disk.IsTree) {path : Path}
    {location : Location} (target : disk.target path = .ok location) :
    disk.node? location = none ∨ disk.locate path = .ok location := by
  rw [locate_eq_ok_iff]
  unfold Disk.target at target
  split at target
  · cases last : disk.lastName path <;> rw [last] at target <;> cases target
  · cases reached : disk.reach path with
    | error cause => rw [reached] at target; cases target
    | ok reach =>
      have sound := reach_sound tree reached
      rw [reached] at target
      cases reach with
      | vacant directory name =>
        cases target
        exact Or.inl sound.2.1
      | present place =>
        simp only [bind, Except.bind] at target
        split at target
        · cases target
        · cases target
          exact Or.inr rfl

/-! ## Making a directory -/

theorem walk_here {disk : Disk} {names : List Name} {location reached : Location}
    (found : disk.walk location (names ++ [Path.here]) = .reach (.present reached)) :
    disk.walk location names = .reach (.present reached) ∧
      disk.node? reached = some .directory := by
  rw [walk_append] at found
  split at found
  next middle stop =>
    simp only [walk] at found
    split at found
    · cases found
    next held =>
      rw [ne_eq, Decidable.not_not] at held
      simp only [if_true, Stop.reach.injEq, Reach.present.injEq] at found
      subst found
      exact ⟨stop, held⟩
  next => simp at found
  next => cases found
  next => cases found

/-- What is followed to a directory is followed on from there. -/
theorem follow_on {disk : Disk} {more : List Name} {reach : Reach} {directory : Location}
    (onward : disk.walk directory more = .reach reach) : ∀ (links : Nat) (names : List Name)
    (location : Location),
    disk.follow links location (names ++ [Path.here]) = .ok (.present directory) →
      disk.follow links location (names ++ more) = .ok reach := by
  intro links
  induction links with
  | zero =>
    intro names location found
    rw [follow] at found ⊢
    split at found
    next stopped =>
      cases found
      rw [walk_append, (walk_here stopped).1]
      simp only [onward]
    next => cases found
    next => cases found
  | succ links ih =>
    intro names location found
    rw [follow] at found ⊢
    split at found
    next stopped =>
      cases found
      rw [walk_append, (walk_here stopped).1]
      simp only [onward]
    next => cases found
    next place target rest stopped =>
      rw [walk_append] at stopped
      split at stopped
      next middle stop =>
        simp only [walk] at stopped
        split at stopped <;> cases stopped
      next => simp at stopped
      next other next left stop =>
        cases stopped
        rw [walk_append, stop]
        simp only
        rw [← List.append_assoc] at found ⊢
        exact ih _ _ found
      next => cases stopped

theorem follow_here_directory {disk : Disk} : ∀ (links : Nat) (names : List Name)
    (location directory : Location),
    disk.follow links location (names ++ [Path.here]) = .ok (.present directory) →
      disk.node? directory = some .directory := by
  intro links
  induction links with
  | zero =>
    intro names location directory found
    rw [follow] at found
    split at found
    next stopped => cases found; exact (walk_here stopped).2
    next => cases found
    next => cases found
  | succ links ih =>
    intro names location directory found
    rw [follow] at found
    split at found
    next stopped => cases found; exact (walk_here stopped).2
    next => cases found
    next place target rest stopped =>
      rw [walk_append] at stopped
      split at stopped
      next middle stop =>
        simp only [walk] at stopped
        split at stopped <;> cases stopped
      next => simp at stopped
      next => cases stopped; rw [← List.append_assoc] at found; exact ih _ _ _ found
      next => cases stopped

theorem lastName_eq_ok {disk : Disk} {path : Path} {directory : Location} {last : Option Name}
    (success : disk.lastName path = .ok (directory, last)) :
    admits path = .ok () ∧ last = path.names.getLast? ∧
      disk.follow linkLimit (start path disk.current) (path.names.dropLast ++ [Path.here]) =
        .ok (.present directory) := by
  unfold lastName at success
  cases admitted : admits path with
  | error cause => rw [admitted] at success; cases success
  | ok _ =>
    rw [admitted] at success
    simp only [bind, Except.bind] at success
    cases followed : disk.follow linkLimit (start path disk.current)
        (path.names.dropLast ++ [Path.here]) with
    | error cause =>
      unfold Path.names at followed
      rw [followed] at success
      cases success
    | ok reach =>
      unfold Path.names at followed
      rw [followed] at success
      cases reach with
      | vacant place name => cases success
      | present place =>
        cases success
        exact ⟨rfl, rfl, rfl⟩

theorem free_eq_ok {disk : Disk} {path : Path} {location : Location}
    (success : disk.free path = .ok location) :
    ∃ directory name, disk.lastName path = .ok (directory, some name) ∧
      location = directory ++ [name] ∧ name ≠ Path.here ∧ name ≠ Path.up ∧
      name.length ≤ nameLimit ∧ disk.node? location = none := by
  unfold free at success
  cases found : disk.lastName path with
  | error cause => rw [found] at success; cases success
  | ok place =>
    obtain ⟨directory, last⟩ := place
    rw [found] at success
    cases last with
    | none => cases success
    | some name =>
      simp only [bind, Except.bind] at success
      split at success
      · cases success
      next moves =>
        split at success
        · cases success
        next short =>
          split at success
          · cases success
          next open_ =>
            cases success
            rw [not_or] at moves
            exact ⟨directory, name, rfl, rfl, moves.1, moves.2, Nat.le_of_not_lt short,
              by simpa using open_⟩

/-- A location in a directory of a disk at which nothing is. -/
structure Vacant (disk : Disk) (location : Location) : Prop where
  parent : ∃ directory name, location = directory ++ [name] ∧
    disk.node? directory = some .directory ∧ Path.IsName name
  nothing : disk.node? location = none

theorem Vacant.below {disk : Disk} {location : Location} (vacant : disk.Vacant location) :
    location ≠ [] := by
  obtain ⟨directory, name, rfl, _⟩ := vacant.parent
  simp

theorem Vacant.tree {disk : Disk} {location : Location} (vacant : disk.Vacant location)
    (tree : disk.IsTree) : (disk.put location .directory).IsTree := by
  obtain ⟨⟨directory, name, rfl, held, proper⟩, nothing⟩ := vacant
  exact tree.put held proper (by simp [nothing]) _

theorem free_vacant {disk : Disk} {path : Path} {location : Location}
    (success : disk.free path = .ok location) : disk.Vacant location := by
  obtain ⟨directory, name, last, rfl, stays, climbs, _, nothing⟩ := free_eq_ok success
  obtain ⟨_, same, followed⟩ := lastName_eq_ok last
  have member : name ∈ path.names := List.mem_of_getLast? same.symm
  have proper := Path.isName_of_lookup (Path.mem_names member) ⟨stays, climbs⟩
  exact ⟨⟨directory, name, rfl, follow_here_directory _ _ _ _ followed, proper⟩, nothing⟩

theorem makeDirectory_eq_ok_iff {disk after : Disk} {path : Path} :
    disk.makeDirectory path = (after, none) ↔
      ∃ location, disk.free path = .ok location ∧ after = disk.put location .directory := by
  unfold makeDirectory
  cases disk.free path with
  | error cause => simp
  | ok location => simp [eq_comm]

/-- Once a directory is made, its path leads to it. -/
theorem isDirectory_of_makeDirectory {disk after : Disk} {path : Path}
    (success : disk.makeDirectory path = (after, none)) : after.isDirectory path = true := by
  obtain ⟨location, open_, rfl⟩ := makeDirectory_eq_ok_iff.1 success
  have vacant := free_vacant open_
  obtain ⟨directory, name, last, rfl, stays, climbs, short, _⟩ := free_eq_ok open_
  obtain ⟨admitted, same, followed⟩ := lastName_eq_ok last
  have keeps := (Paved.put vacant.below vacant.nothing).keeps
  have held := keeps.directory (follow_here_directory _ _ _ _ followed)
  have made := node?_put_self disk vacant.below .directory
  have front : path.names = path.names.dropLast ++ [name] := by
    obtain ⟨front, whole⟩ := List.getLast?_eq_some_iff.1 same.symm
    rw [whole, List.dropLast_concat]
  have step : (disk.put (directory ++ [name]) .directory).walk directory
      ([name] ++ if path.bytes.getLast? = some Path.slash then [Path.here] else []) =
        .reach (.present (directory ++ [name])) := by
    have single : (disk.put (directory ++ [name]) .directory).walk directory [name] =
        .reach (.present (directory ++ [name])) := by
      simp only [walk]
      rw [if_neg (by simp [held]), if_neg stays, if_neg climbs,
        if_neg (Nat.not_lt.2 short), made]
    rw [walk_append, single]
    dsimp only
    split
    · simp [walk, made]
    · rfl
  have reached := follow_on step linkLimit path.names.dropLast _
    (follow_present_of_keeps keeps _ _ _ _ followed)
  rw [isDirectory_iff, find?_eq_some_iff]
  refine ⟨directory ++ [name], ?_, made⟩
  rw [locate_eq_ok_iff]
  unfold Disk.reach
  rw [admitted]
  have form : path.lookups = path.names.dropLast ++
      ([name] ++ if path.bytes.getLast? = some Path.slash then [Path.here] else []) := by
    rw [← List.append_assoc, ← front]
    rfl
  rw [form]
  exact reached

/-! ## Making directories -/

/-- What an operation that makes directories leaves of a tree. -/
structure Extended (before after : Disk) : Prop where
  tree : after.IsTree
  paved : Paved before after

theorem Extended.refl {disk : Disk} (tree : disk.IsTree) : Extended disk disk :=
  ⟨tree, Paved.refl disk⟩

theorem Extended.trans {before middle after : Disk} (first : Extended before middle)
    (second : Extended middle after) : Extended before after :=
  ⟨second.tree, first.paved.trans second.paved⟩

theorem makeDirectory_extended {disk after : Disk} (tree : disk.IsTree) {path : Path}
    {failure : Option DiskError} (run : disk.makeDirectory path = (after, failure)) :
    Extended disk after := by
  cases failure with
  | none =>
    obtain ⟨location, open_, rfl⟩ := makeDirectory_eq_ok_iff.1 run
    have vacant := free_vacant open_
    exact ⟨vacant.tree tree, Paved.put vacant.below vacant.nothing⟩
  | some cause =>
    unfold makeDirectory at run
    split at run
    · cases run
    · cases run
      exact Extended.refl tree

theorem settle_extended {disk after : Disk} (tree : disk.IsTree) {path : Path}
    {failure : Option DiskError} (run : disk.settle path = (after, failure)) :
    Extended disk after ∧ (failure = none → after.isDirectory path = true) := by
  unfold settle at run
  split at run
  next made made_run =>
    cases run
    exact ⟨makeDirectory_extended tree made_run, fun _ => isDirectory_of_makeDirectory made_run⟩
  next =>
    split at run
    next there => cases run; exact ⟨Extended.refl tree, fun _ => there⟩
    next => cases run; exact ⟨Extended.refl tree, fun none => by cases none⟩

theorem createWithin_extended : ∀ (fuel : Nat) {disk after : Disk} (_ : disk.IsTree) {path : Path}
    {failure : Option DiskError}, createWithin fuel disk path = (after, failure) →
      Extended disk after ∧
        (failure = none → path.bytes = [] ∨ after.isDirectory path = true) := by
  intro fuel
  induction fuel with
  | zero =>
    intro disk after tree path failure run
    cases run
    exact ⟨Extended.refl tree, fun none => by cases none⟩
  | succ fuel ih =>
    intro disk after tree path failure run
    rw [createWithin] at run
    split at run
    next empty =>
      cases run
      exact ⟨Extended.refl tree, fun _ => Or.inl (by simpa using empty)⟩
    next =>
      split at run
      next made made_run =>
        cases run
        exact ⟨makeDirectory_extended tree made_run,
          fun _ => Or.inr (isDirectory_of_makeDirectory made_run)⟩
      next =>
        split at run
        · cases run
          exact ⟨Extended.refl tree, fun none => by cases none⟩
        next parent _ =>
          split at run
          next parent_run =>
            cases run
            exact ⟨(ih tree parent_run).1, fun none => by cases none⟩
          next middle parent_run =>
            have first := (ih tree parent_run).1
            have second := settle_extended first.tree run
            exact ⟨first.trans second.1, fun none => Or.inr (second.2 none)⟩
      next =>
        split at run
        next there => cases run; exact ⟨Extended.refl tree, fun _ => Or.inr there⟩
        next => cases run; exact ⟨Extended.refl tree, fun none => by cases none⟩

/-- Making the directories of a path adds directories only; if it succeeds, the path leads to a
directory or is empty. -/
theorem createDirectories_extended {disk after : Disk} (tree : disk.IsTree) {path : Path}
    {failure : Option DiskError} (run : disk.createDirectories path = (after, failure)) :
    Extended disk after ∧
      (failure = none → path.bytes = [] ∨ after.isDirectory path = true) :=
  createWithin_extended _ tree run

theorem createDirectories_of_empty (disk : Disk) {path : Path} (empty : path.bytes = []) :
    disk.createDirectories path = (disk, none) := by
  unfold createDirectories createWithin
  rw [if_pos (by rw [empty]; rfl)]

end PackageDoc.Disk
