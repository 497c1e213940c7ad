import PackageDoc.Disk.Operation
import PackageDoc.Proofs.Disk.Tree
import PackageDoc.Proofs.Text.Utf8

/-! # Looking up names

Following names in two steps, where a tree lets them lead, and what a later disk still finds: a path
that leads somewhere leads to the same place as long as everything is kept. -/
set_option autoImplicit false

namespace PackageDoc
open PackageDoc.Text

namespace Disk

/-! ## In two steps -/

theorem walk_append (disk : Disk) (rest : List Name) : ∀ (names : List Name)
    (location : Location), disk.walk location (names ++ rest) =
      match disk.walk location names with
      | .reach (.present reached) => disk.walk reached rest
      | .reach (.vacant directory name) =>
        if rest.isEmpty then .reach (.vacant directory name) else .failed .notFound
      | .link directory target left => .link directory target (left ++ rest)
      | .failed cause => .failed cause := by
  intro names
  induction names with
  | nil => intro location; rfl
  | cons name names ih =>
    intro location
    simp only [List.cons_append, walk]
    split
    · rfl
    · split
      · exact ih location
      · split
        · exact ih _
        · split
          · rfl
          · split
            · rfl
            · exact ih _
            · cases names <;> simp [List.isEmpty_iff]

theorem follow_of_walk {disk : Disk} {names : List Name} {location : Location} {reach : Reach}
    (found : disk.walk location names = .reach reach) (links : Nat) :
    disk.follow links location names = .ok reach := by
  cases links <;> simp [follow, found]

/-- What is free in the end is free from the last directory on. -/
theorem walk_vacant {disk : Disk} {directory : Location} {free : Name} : ∀ (names : List Name)
    (location : Location), disk.walk location names = .reach (.vacant directory free) →
      disk.walk directory [free] = .reach (.vacant directory free) := by
  intro names
  induction names with
  | nil => intro location found; cases found
  | cons name rest ih =>
    intro location found
    have whole := found
    simp only [walk] at found
    split at found
    · cases found
    · split at found
      · exact ih _ found
      · split at found
        · exact ih _ found
        · split at found
          · cases found
          · split at found
            · cases found
            · exact ih _ found
            · split at found
              next last =>
                cases found
                rw [List.isEmpty_iff.1 last] at whole
                exact whole
              next => cases found

theorem follow_vacant {disk : Disk} {directory : Location} {free : Name} : ∀ (links : Nat)
    (names : List Name) (location : Location),
    disk.follow links location names = .ok (.vacant directory free) →
      disk.walk directory [free] = .reach (.vacant directory free) := by
  intro links
  induction links with
  | zero =>
    intro names location found
    rw [follow] at found
    split at found
    next stop => cases found; exact walk_vacant names location stop
    next => cases found
    next => cases found
  | succ links ih =>
    intro names location found
    rw [follow] at found
    split at found
    next stop => cases found; exact walk_vacant names location stop
    next => cases found
    next => exact ih _ _ found

/-! ## On a tree -/

/-- Where names can lead on a tree: to a directory or a file, or to a free name in a directory. -/
def Sound (disk : Disk) : Reach → Prop
  | .present location => disk.node? location = some .directory ∨
      ∃ content, disk.node? location = some (.file content)
  | .vacant directory name => disk.node? directory = some .directory ∧
      disk.node? (directory ++ [name]) = none ∧ Path.IsName name

def SoundStop (disk : Disk) : Stop → Prop
  | .reach reach => disk.Sound reach
  | .link directory _ rest => disk.node? directory = some .directory ∧
      ∀ name ∈ rest, name ≠ [] ∧ Path.slash ∉ name
  | .failed _ => True

theorem walk_sound {disk : Disk} (tree : disk.IsTree) : ∀ (names : List Name)
    (location : Location), disk.Sound (.present location) →
      (∀ name ∈ names, name ≠ [] ∧ Path.slash ∉ name) →
      disk.SoundStop (disk.walk location names) := by
  intro names
  induction names with
  | nil => intro location sound _; exact sound
  | cons name rest ih =>
    intro location sound proper
    have later : ∀ name ∈ rest, name ≠ [] ∧ Path.slash ∉ name :=
      fun name member => proper name (List.mem_cons_of_mem _ member)
    simp only [walk]
    split
    · trivial
    next directory =>
      rw [ne_eq, Decidable.not_not] at directory
      split
      · exact ih location sound later
      next stays =>
        split
        · exact ih _ (Or.inl (tree.dropLast directory)) later
        next climbs =>
          split
          · trivial
          · split
            next target held => exact ⟨directory, later⟩
            next node noLink held =>
              refine ih _ ?_ later
              cases node with
              | directory => exact Or.inl held
              | file content => exact Or.inr ⟨content, held⟩
              | link target => exact absurd rfl (noLink target)
            next free =>
              split
              · exact ⟨directory, free,
                  Path.isName_of_lookup (proper name List.mem_cons_self) ⟨stays, climbs⟩⟩
              · trivial

theorem start_directory {disk : Disk} (path : Path) {location : Location}
    (directory : disk.node? location = some .directory) :
    disk.node? (start path location) = some .directory := by
  unfold start
  split
  · exact disk.node?_root
  · exact directory

theorem follow_sound {disk : Disk} (tree : disk.IsTree) : ∀ (links : Nat) (names : List Name)
    (location : Location) (reach : Reach), disk.node? location = some .directory →
      (∀ name ∈ names, name ≠ [] ∧ Path.slash ∉ name) →
      disk.follow links location names = .ok reach → disk.Sound reach := by
  intro links
  induction links with
  | zero =>
    intro names location reach directory proper success
    have sound := walk_sound tree names location (Or.inl directory) proper
    rw [follow] at success
    split at success
    next found => rw [found] at sound; cases success; exact sound
    next => cases success
    next => cases success
  | succ links ih =>
    intro names location reach directory proper success
    have sound := walk_sound tree names location (Or.inl directory) proper
    rw [follow] at success
    split at success
    next found => rw [found] at sound; cases success; exact sound
    next => cases success
    next place target rest found =>
      rw [found] at sound
      refine ih _ _ reach (start_directory target sound.1) ?_ success
      intro name member
      rcases List.mem_append.1 member with inTarget | inRest
      · exact Path.mem_lookups inTarget
      · exact sound.2 name inRest

theorem reach_eq_ok {disk : Disk} {path : Path} {reach : Reach}
    (success : disk.reach path = .ok reach) :
    admits path = .ok () ∧
      disk.follow linkLimit (start path disk.current) path.lookups = .ok reach := by
  unfold Disk.reach at success
  cases admitted : admits path with
  | error cause => rw [admitted] at success; cases success
  | ok _ => rw [admitted] at success; exact ⟨rfl, success⟩

theorem reach_sound {disk : Disk} (tree : disk.IsTree) {path : Path} {reach : Reach}
    (success : disk.reach path = .ok reach) : disk.Sound reach := by
  refine follow_sound tree linkLimit path.lookups _ reach
    (start_directory path tree.current) ?_ (reach_eq_ok success).2
  exact fun name member => Path.mem_lookups member

theorem locate_eq_ok_iff {disk : Disk} {path : Path} {location : Location} :
    disk.locate path = .ok location ↔ disk.reach path = .ok (.present location) := by
  unfold locate
  cases disk.reach path with
  | error cause => simp [bind, Except.bind]
  | ok reach => cases reach <;> simp [bind, Except.bind]

theorem find?_eq_some_iff {disk : Disk} {path : Path} {node : Node} :
    disk.find? path = some node ↔
      ∃ location, disk.locate path = .ok location ∧ disk.node? location = some node := by
  unfold find?
  cases disk.locate path with
  | error cause => simp
  | ok location => simp

/-- A file is read back as the text it holds. -/
theorem readText_of_find? {disk : Disk} {path : Path} {text : String}
    (found : disk.find? path = some (.file (bytes text))) : disk.readText path = .ok text := by
  obtain ⟨location, located, held⟩ := find?_eq_some_iff.1 found
  unfold readText read
  rw [located]
  simp only [bind, Except.bind, held, string?_bytes]

/-- Only a file that holds a text is read as a text. -/
theorem readText_eq_ok_iff {disk : Disk} {path : Path} {text : String} :
    disk.readText path = .ok text ↔ disk.find? path = some (.file (bytes text)) := by
  refine ⟨fun success => ?_, readText_of_find?⟩
  unfold readText read at success
  cases located : disk.locate path with
  | error cause => rw [located] at success; cases success
  | ok location =>
    rw [located] at success
    simp only [bind, Except.bind] at success
    split at success
    · cases success
    next content found =>
      split at found
      next held =>
        cases found
        split at success
        next decoded =>
          cases success
          rw [bytes_of_string? decoded]
          exact find?_eq_some_iff.2 ⟨location, located, held⟩
        next => cases success
      next => cases found
      next => cases found

theorem isDirectory_iff {disk : Disk} {path : Path} :
    disk.isDirectory path = true ↔ disk.find? path = some .directory := by
  simp [isDirectory]

theorem isFile_iff {disk : Disk} {path : Path} :
    disk.isFile path = true ↔ ∃ content, disk.find? path = some (.file content) := by
  unfold isFile
  split <;> simp_all

theorem locate_of_isFile {disk : Disk} {path : Path} (file : disk.isFile path = true) :
    ∃ location content, disk.locate path = .ok location ∧
      disk.node? location = some (.file content) := by
  obtain ⟨content, held⟩ := isFile_iff.1 file
  obtain ⟨location, located, node⟩ := find?_eq_some_iff.1 held
  exact ⟨location, content, located, node⟩

theorem holds_iff {disk : Disk} {path : Path} :
    disk.holds path = true ↔
      ∃ location node, disk.locate path = .ok location ∧ disk.node? location = some node := by
  unfold holds
  rw [Option.isSome_iff_exists]
  simp only [find?_eq_some_iff]
  exact exists_comm

/-- What a path leads to on a tree is there. -/
theorem holds_of_locate {disk : Disk} (tree : disk.IsTree) {path : Path} {location : Location}
    (located : disk.locate path = .ok location) : disk.holds path = true := by
  rcases reach_sound tree (locate_eq_ok_iff.1 located) with directory | ⟨content, file⟩
  · exact holds_iff.2 ⟨location, _, located, directory⟩
  · exact holds_iff.2 ⟨location, _, located, file⟩

theorem holds_of_isDirectory {disk : Disk} {path : Path}
    (directory : disk.isDirectory path = true) : disk.holds path = true := by
  unfold holds
  rw [isDirectory_iff.1 directory]
  rfl

theorem holds_of_isFile {disk : Disk} {path : Path} (file : disk.isFile path = true) :
    disk.holds path = true := by
  obtain ⟨content, held⟩ := isFile_iff.1 file
  unfold holds
  rw [held]
  rfl

theorem holds_of_empty (disk : Disk) {path : Path} (empty : path.bytes = []) :
    disk.holds path = false := by
  unfold holds find? locate reach admits
  rw [empty]
  rfl

theorem list_eq_ok_iff {disk : Disk} {path : Path} {entries : List Name} :
    disk.list path = .ok entries ↔ ∃ location, disk.locate path = .ok location ∧
      disk.node? location = some .directory ∧ entries = disk.names location := by
  unfold Disk.list
  cases disk.locate path with
  | error cause => simp [bind, Except.bind]
  | ok location =>
    simp only [bind, Except.bind, Except.ok.injEq, exists_eq_left']
    split
    next held => simp [held, eq_comm]
    next other => exact iff_of_false (by simp) fun held => other held.1

theorem isName_of_list {disk : Disk} (tree : disk.IsTree) {path : Path} {entries : List Name}
    (listed : disk.list path = .ok entries) {name : Name} (inside : name ∈ entries) :
    Path.IsName name := by
  obtain ⟨location, _, _, rfl⟩ := list_eq_ok_iff.1 listed
  exact (tree.parent ((disk.mem_names location name).1 inside)).2

/-! ## On a later disk -/

/-- Where a stop leads on a later disk. -/
def Stop.onward (after : Disk) : Stop → Stop
  | .reach (.vacant directory name) => after.walk directory [name]
  | stop => stop

section Keeps
variable {before after : Disk} (keeps : Keeps before after)
include keeps

/-- Names stop on a later disk where they stopped; from a free name on, they lead where that name
does then. -/
theorem walk_of_keeps : ∀ (names : List Name) (location : Location),
    (∀ cause, before.walk location names ≠ .failed cause) →
      after.walk location names = (before.walk location names).onward after := by
  intro names
  induction names with
  | nil => intro location _; rfl
  | cons name rest ih =>
    intro location goes
    by_cases held : before.node? location = some .directory
    case neg => exact absurd (by simp [walk, held]) (goes .notADirectory)
    have later := keeps.directory held
    simp only [walk, held, later, ne_eq, not_true, if_false] at goes ⊢
    by_cases stays : name = Path.here
    · simp only [if_pos stays] at goes ⊢
      exact ih location goes
    simp only [if_neg stays] at goes ⊢
    by_cases climbs : name = Path.up
    · simp only [if_pos climbs] at goes ⊢
      exact ih location.dropLast goes
    simp only [if_neg climbs] at goes ⊢
    by_cases long : nameLimit < name.length
    · exact absurd (if_pos long) (goes .nameTooLong)
    simp only [if_neg long] at goes ⊢
    cases found : before.node? (location ++ [name]) with
    | none =>
      rw [found] at goes
      cases rest with
      | nil => simp [Stop.onward, walk, later, stays, climbs, long]
      | cons => exact absurd rfl (goes .notFound)
    | some node =>
      rw [found] at goes
      cases node with
      | directory =>
        rw [keeps.directory found]
        exact ih _ goes
      | file content =>
        obtain ⟨other, file⟩ := keeps.file found
        rw [file]
        exact ih _ goes
      | link target =>
        rw [keeps.link found]
        rfl

theorem follow_of_keeps {later : Reach} : ∀ (links : Nat) (names : List Name)
    (location : Location) {reach : Reach}, before.follow links location names = .ok reach →
      (Stop.reach reach).onward after = .reach later →
      after.follow links location names = .ok later := by
  intro links
  induction links with
  | zero =>
    intro names location reach found onward
    cases stop : before.walk location names with
    | failed cause => simp [follow, stop] at found
    | link directory target rest => simp [follow, stop] at found
    | reach other =>
      rw [follow_of_walk stop] at found
      cases found
      exact follow_of_walk
        (by rw [walk_of_keeps keeps names location (by simp [stop]), stop, onward]) 0
  | succ links ih =>
    intro names location reach found onward
    cases stop : before.walk location names with
    | failed cause => simp [follow, stop] at found
    | link directory target rest =>
      have same := walk_of_keeps keeps names location (by simp [stop])
      rw [stop] at same
      rw [follow, stop] at found
      rw [follow, same]
      exact ih _ _ found onward
    | reach other =>
      rw [follow_of_walk stop] at found
      cases found
      exact follow_of_walk
        (by rw [walk_of_keeps keeps names location (by simp [stop]), stop, onward]) _

theorem walk_present_of_keeps (names : List Name) (location reached : Location)
    (found : before.walk location names = .reach (.present reached)) :
    after.walk location names = .reach (.present reached) := by
  rw [walk_of_keeps keeps names location (by simp [found]), found]
  rfl

theorem follow_present_of_keeps (links : Nat) (names : List Name) (location reached : Location)
    (found : before.follow links location names = .ok (.present reached)) :
    after.follow links location names = .ok (.present reached) :=
  follow_of_keeps keeps links names location found rfl

/-- A path that leads somewhere still leads there. -/
theorem locate_of_keeps {path : Path} {location : Location}
    (found : before.locate path = .ok location) : after.locate path = .ok location := by
  rw [locate_eq_ok_iff] at found ⊢
  obtain ⟨admitted, followed⟩ := reach_eq_ok found
  unfold Disk.reach
  rw [admitted, keeps.current]
  exact follow_present_of_keeps keeps _ _ _ _ followed

theorem readText_of_keeps {path : Path} {location : Location}
    (located : before.locate path = .ok location)
    (same : after.node? location = before.node? location) :
    after.readText path = before.readText path := by
  unfold readText read
  rw [located, locate_of_keeps keeps located]
  simp only [bind, Except.bind, same]

theorem key_of_keeps {path : Path} {location : Location}
    (found : before.locate path = .ok location) : after.key path = before.key path := by
  unfold key
  rw [found, locate_of_keeps keeps found]

theorem isDirectory_of_keeps {path : Path} (held : before.isDirectory path = true) :
    after.isDirectory path = true := by
  rw [isDirectory_iff, find?_eq_some_iff] at held ⊢
  obtain ⟨location, found, directory⟩ := held
  exact ⟨location, locate_of_keeps keeps found, keeps.directory directory⟩

theorem isFile_of_keeps {path : Path} (held : before.isFile path = true) :
    after.isFile path = true := by
  rw [isFile_iff] at held ⊢
  obtain ⟨content, held⟩ := held
  obtain ⟨location, found, file⟩ := find?_eq_some_iff.1 held
  obtain ⟨other, later⟩ := keeps.file file
  exact ⟨other, find?_eq_some_iff.2 ⟨location, locate_of_keeps keeps found, later⟩⟩

theorem holds_of_keeps {path : Path} (held : before.holds path = true) :
    after.holds path = true := by
  obtain ⟨location, node, found, there⟩ := holds_iff.1 held
  obtain ⟨other, later, _⟩ := Option.map_eq_some_iff.1 (keeps.node location node there)
  exact holds_iff.2 ⟨location, other, locate_of_keeps keeps found, later⟩

end Keeps

end Disk
end PackageDoc
