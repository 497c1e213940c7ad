import PackageDoc.Proofs.Disk.Lookup

/-! # Disks without links

Without links a path leads where its names say, and that place can be told from the path alone.
Below a directory that a path leads to, looking up a path is looking up a location: what
`path.descend names` finds is what the disk holds at the directory's location followed by the
names, provided that the path can be followed at all. -/
set_option autoImplicit false

namespace PackageDoc
open PackageDoc.Text

namespace Disk

theorem start_child {name : Name} (base : Path) (proper : Path.IsName name)
    (location : Location) : start (base.child name) location = start base location := by
  unfold start
  rw [Path.isAbsolute_child base proper]

/-! ## Where a path leads -/

/-- Following its names without a link, a path leads to a location.  The limits on paths are left
out. -/
def Leads (disk : Disk) (path : Path) (location : Location) : Prop :=
  disk.walk (start path disk.current) path.lookups = .reach (.present location)

theorem Leads.unique {disk : Disk} {path : Path} {first second : Location}
    (one : disk.Leads path first) (other : disk.Leads path second) : first = second := by
  unfold Leads at one other
  rw [one] at other
  simpa using other

theorem Leads.of_keeps {before after : Disk} (keeps : Keeps before after) {path : Path}
    {location : Location} (leads : before.Leads path location) : after.Leads path location := by
  unfold Leads at leads ⊢
  rw [keeps.current]
  exact walk_present_of_keeps keeps _ _ _ leads

theorem Plain.walk_ne_link {disk : Disk} (plain : disk.Plain) (names : List Name)
    (location directory : Location) (target : Path) (rest : List Name) :
    disk.walk location names ≠ .link directory target rest := by
  induction names generalizing location with
  | nil => simp [walk]
  | cons name names ih =>
    simp only [walk]
    split
    · simp
    · split
      · exact ih _
      · split
        · exact ih _
        · split
          · simp
          · split
            next target held => exact absurd held (plain _ target)
            next => exact ih _
            next => split <;> simp

theorem Plain.walk_of_follow {disk : Disk} (plain : disk.Plain) {names : List Name}
    {location : Location} {reach : Reach} {links : Nat}
    (found : disk.follow links location names = .ok reach) :
    disk.walk location names = .reach reach := by
  cases stop : disk.walk location names with
  | reach other =>
    rw [follow_of_walk stop links] at found
    rw [Except.ok.inj found]
  | failed cause => cases links <;> simp [follow, stop] at found
  | link directory target rest => exact absurd stop (plain.walk_ne_link names _ _ _ _)

theorem Plain.reach_eq_ok_iff {disk : Disk} (plain : disk.Plain) {path : Path} {reach : Reach} :
    disk.reach path = .ok reach ↔ admits path = .ok () ∧
      disk.walk (start path disk.current) path.lookups = .reach reach := by
  constructor
  · intro found
    obtain ⟨admitted, followed⟩ := reach_eq_ok found
    exact ⟨admitted, plain.walk_of_follow followed⟩
  · rintro ⟨admitted, found⟩
    unfold Disk.reach
    rw [admitted]
    exact follow_of_walk found linkLimit

theorem Plain.locate_eq_ok_iff {disk : Disk} (plain : disk.Plain) {path : Path}
    {location : Location} :
    disk.locate path = .ok location ↔ admits path = .ok () ∧ disk.Leads path location :=
  Disk.locate_eq_ok_iff.trans plain.reach_eq_ok_iff

/-! ## Below a directory -/

/-- If a path leads to a directory, its names do so without the dot that stands for a final
slash. -/
theorem Leads.names {disk : Disk} {path : Path} {location : Location}
    (leads : disk.Leads path location) :
    disk.walk (start path disk.current) path.names = .reach (.present location) := by
  unfold Leads at leads
  rw [Path.lookups_eq, walk_append] at leads
  cases found : disk.walk (start path disk.current) path.names with
  | failed cause => simp [found] at leads
  | link directory target rest => simp [found] at leads
  | reach reach =>
    cases reach with
    | vacant directory name => simp only [found] at leads; split at leads <;> simp at leads
    | present reached =>
      simp only [found] at leads
      split at leads
      · simp only [walk] at leads
        split at leads
        · simp at leads
        · simpa using leads
      · simpa [walk] using leads

theorem walk_child {disk : Disk} {base : Path} {directory : Location}
    (leads : disk.Leads base directory) {name : Name} (proper : Path.IsName name) :
    disk.walk (start (base.child name) disk.current) (base.child name).lookups =
      disk.walk directory [name] := by
  rw [start_child base proper, Path.lookups_child base proper, walk_append, leads.names]

theorem walk_single {disk : Disk} {directory : Location}
    (held : disk.node? directory = some .directory) {name : Name} (proper : Path.IsName name) :
    disk.walk directory [name] =
      if nameLimit < name.length then .failed .nameTooLong
      else match disk.node? (directory ++ [name]) with
        | some (.link target) => .link directory target []
        | some _ => .reach (.present (directory ++ [name]))
        | none => .reach (.vacant directory name) := by
  simp only [walk]
  rw [if_neg (by simp [held]), if_neg proper.2.2.1, if_neg proper.2.2.2]
  split
  · rfl
  · split <;> simp_all

theorem Leads.of_names {disk : Disk} {path : Path} {directory : Location}
    (found : disk.walk (start path disk.current) path.names = .reach (.present directory))
    (held : disk.node? directory = some .directory) : disk.Leads path directory := by
  unfold Leads
  rw [Path.lookups_eq, walk_append, found]
  dsimp only
  split
  · simp [walk, held]
  · rfl

/-- A path below another one leads somewhere, or would, only if the other one leads to a directory,
and where is told by its last name. -/
theorem walk_of_child {disk : Disk} {base : Path} {name : Name} (proper : Path.IsName name)
    {reach : Reach} (found : disk.walk (start (base.child name) disk.current)
      (base.child name).lookups = .reach reach) :
    ∃ directory, disk.Leads base directory ∧ disk.node? directory = some .directory ∧
      name.length ≤ nameLimit ∧
      (reach = .present (directory ++ [name]) ∨ reach = .vacant directory name) := by
  have parent : ∃ directory, disk.Leads base directory ∧
      disk.node? directory = some .directory := by
    rw [start_child base proper, Path.lookups_child base proper, walk_append] at found
    split at found
    next directory stop =>
      have held : disk.node? directory = some .directory := by
        simp only [walk] at found
        split at found
        · simp at found
        next held => rw [ne_eq, Decidable.not_not] at held; exact held
      exact ⟨directory, Leads.of_names stop held, held⟩
    next => simp at found
    next => cases found
    next => cases found
  obtain ⟨directory, leads, held⟩ := parent
  refine ⟨directory, leads, held, ?_⟩
  rw [walk_child leads proper, walk_single held proper] at found
  split at found
  · cases found
  next short =>
    refine ⟨Nat.le_of_not_lt short, ?_⟩
    split at found
    · cases found
    · exact Or.inl (Stop.reach.inj found).symm
    · exact Or.inr (Stop.reach.inj found).symm

/-- Below a directory that a path leads to, a tree without links is looked up by location. -/
theorem leads_descend_iff {disk : Disk} (tree : disk.IsTree) (plain : disk.Plain) {path : Path}
    {root : Location} (leads : disk.Leads path root) (directory : disk.node? root = some .directory)
    {names : List Name} (proper : ∀ name ∈ names, Path.IsName name) {location : Location} :
    disk.Leads (path.descend names) location ↔
      location = root ++ names ∧ (∀ name ∈ names, name.length ≤ nameLimit) ∧
        (disk.node? (root ++ names)).isSome := by
  induction names using List.reverseRecOn generalizing location with
  | nil =>
    simp only [Path.descend_nil, List.append_nil, List.not_mem_nil, false_imp_iff, implies_true,
      directory, Option.isSome_some, and_true]
    exact ⟨fun other => other.unique leads, fun same => same ▸ leads⟩
  | append_singleton front name ih =>
    have frontProper : ∀ name ∈ front, Path.IsName name :=
      fun name member => proper name (List.mem_append_left _ member)
    have nameProper : Path.IsName name := proper name (by simp)
    rw [Path.descend_concat]
    constructor
    · intro below
      obtain ⟨parent, parentLeads, parentDirectory, short, _⟩ := walk_of_child nameProper below
      obtain ⟨rfl, frontShort, _⟩ := (ih frontProper).1 parentLeads
      unfold Leads at below
      rw [walk_child parentLeads nameProper, walk_single parentDirectory nameProper] at below
      rw [if_neg (Nat.not_lt.2 short)] at below
      split at below
      · simp at below
      next node noLink held =>
        have same : root ++ front ++ [name] = location := by simpa using below
        simp only [← List.append_assoc]
        refine ⟨same.symm, ?_, Option.isSome_of_eq_some held⟩
        intro other member
        rcases List.mem_append.1 member with inFront | last
        · exact frontShort other inFront
        · rw [List.mem_singleton.1 last]
          exact short
      · simp at below
    · rintro ⟨rfl, short, held⟩
      simp only [← List.append_assoc] at held ⊢
      have parentDirectory := (tree.parent held).1
      have parentLeads : disk.Leads (path.descend front) (root ++ front) :=
        (ih frontProper).2 ⟨rfl, fun name member => short name (List.mem_append_left _ member),
          by simp [parentDirectory]⟩
      unfold Leads
      rw [walk_child parentLeads nameProper, walk_single parentDirectory nameProper,
        if_neg (Nat.not_lt.2 (short name (by simp)))]
      split
      next target found => exact absurd found (plain _ target)
      next => rfl
      next free => rw [free] at held; cases held

/-- Whether a path below another one can be followed, as far as its length goes. -/
def Fits (path : Path) (names : List Name) : Prop :=
  admits (path.descend names) = .ok () ∧ ∀ name ∈ names, name.length ≤ nameLimit

section Below
variable {disk : Disk} (tree : disk.IsTree) (plain : disk.Plain) {path : Path} {root : Location}
  (leads : disk.Leads path root) (directory : disk.node? root = some .directory)
  {names : List Name} (proper : ∀ name ∈ names, Path.IsName name)
include tree plain leads directory proper

theorem locate_descend_iff {location : Location} :
    disk.locate (path.descend names) = .ok location ↔
      location = root ++ names ∧ Fits path names ∧ (disk.node? (root ++ names)).isSome := by
  rw [plain.locate_eq_ok_iff, leads_descend_iff tree plain leads directory proper]
  unfold Fits
  tauto

theorem find?_descend_iff {node : Node} :
    disk.find? (path.descend names) = some node ↔
      Fits path names ∧ disk.node? (root ++ names) = some node := by
  rw [find?_eq_some_iff]
  constructor
  · rintro ⟨location, located, held⟩
    obtain ⟨rfl, fits, _⟩ :=
      (locate_descend_iff tree plain leads directory proper).1 located
    exact ⟨fits, held⟩
  · rintro ⟨fits, held⟩
    exact ⟨root ++ names, (locate_descend_iff tree plain leads directory proper).2
      ⟨rfl, fits, by simp [held]⟩, held⟩

end Below

/-! ## The place of a path -/

/-- Where names lead if each of them is there. -/
def along : Location → List Name → Location
  | location, [] => location
  | location, name :: rest =>
    if name = Path.here then along location rest
    else if name = Path.up then along location.dropLast rest
    else along (location ++ [name]) rest

/-- The location that a path names, whether anything is there or not. -/
def place (disk : Disk) (path : Path) : Location :=
  along (start path disk.current) path.lookups

theorem along_append (rest : List Name) : ∀ (names : List Name) (location : Location),
    along location (names ++ rest) = along (along location names) rest := by
  intro names
  induction names with
  | nil => intro location; rfl
  | cons name names ih =>
    intro location
    simp only [List.cons_append, along]
    split
    · exact ih _
    · split
      · exact ih _
      · exact ih _

theorem eq_along_of_walk {disk : Disk} : ∀ {names : List Name} {location reached : Location},
    disk.walk location names = .reach (.present reached) → reached = along location names := by
  intro names
  induction names with
  | nil =>
    intro location reached found
    simp only [walk, Stop.reach.injEq, Reach.present.injEq] at found
    exact found.symm
  | cons name rest ih =>
    intro location reached found
    simp only [walk, along] at found ⊢
    split at found
    · cases found
    · split at found
      next stays => rw [if_pos stays]; exact ih found
      next stays =>
        rw [if_neg stays]
        split at found
        next climbs => rw [if_pos climbs]; exact ih found
        next climbs =>
          rw [if_neg climbs]
          split at found
          · cases found
          · split at found
            · cases found
            · exact ih found
            · split at found <;> cases found

theorem Leads.eq_place {disk : Disk} {path : Path} {location : Location}
    (leads : disk.Leads path location) : location = disk.place path := eq_along_of_walk leads

theorem place_child (disk : Disk) (base : Path) {name : Name} (proper : Path.IsName name) :
    disk.place (base.child name) = disk.place base ++ [name] := by
  have still : along (start base disk.current) base.lookups =
      along (start base disk.current) base.names := by
    rw [Path.lookups_eq, along_append]
    split <;> rfl
  unfold place
  rw [start_child base proper, Path.lookups_child base proper, along_append, still]
  simp only [along]
  rw [if_neg proper.2.2.1, if_neg proper.2.2.2]

theorem place_descend (disk : Disk) (base : Path) {names : List Name}
    (proper : ∀ name ∈ names, Path.IsName name) :
    disk.place (base.descend names) = disk.place base ++ names := by
  induction names using List.reverseRecOn with
  | nil => simp
  | append_singleton front name ih =>
    have frontProper : ∀ name ∈ front, Path.IsName name :=
      fun name member => proper name (List.mem_append_left _ member)
    rw [Path.descend_concat, place_child disk _ (proper name (by simp)), ih frontProper,
      List.append_assoc]

theorem place_congr {before after : Disk} (same : after.current = before.current) (path : Path) :
    after.place path = before.place path := by
  unfold place
  rw [same]

end Disk
end PackageDoc
