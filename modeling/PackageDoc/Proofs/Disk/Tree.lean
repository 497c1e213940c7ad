import Mathlib.Data.List.Basic
import Mathlib.Data.List.Induction
import PackageDoc.Proofs.Disk.Entries
import PackageDoc.Proofs.Disk.Path

/-! # Disks that are trees

On a tree every entry lies in a directory, under a name that stands for one entry, and the current
directory is there.  A tree stays one when something is put at a free name in a directory, or in
place of a file.

Two relations between a disk and a later one: `Keeps` says that what was there is still there, of
the same kind; `Paved` says that nothing but directories has been added. -/
set_option autoImplicit false

namespace PackageDoc

/-- A node without the content of a file. -/
def Node.shape : Node → Node
  | .directory => .directory
  | .file _ => .file []
  | .link target => .link target

@[simp] theorem Node.shape_eq_directory {node : Node} :
    node.shape = .directory ↔ node = .directory := by
  cases node <;> simp [Node.shape]

@[simp] theorem Node.shape_eq_link {node : Node} {target : Path} :
    node.shape = .link target ↔ node = .link target := by
  cases node <;> simp [Node.shape]

theorem Node.shape_eq_file {node : Node} {content : Text.Bytes} :
    node.shape = Node.shape (.file content) ↔ ∃ other, node = .file other := by
  cases node <;> simp [Node.shape]

def Node.isLink : Node → Bool
  | .link _ => true
  | _ => false

namespace Disk

structure IsTree (disk : Disk) : Prop where
  inside : ∀ entry ∈ disk.entries, entry.1 ≠ [] ∧
    disk.node? entry.1.dropLast = some .directory ∧ ∀ name ∈ entry.1, Path.IsName name
  current : disk.node? disk.current = some .directory

instance (disk : Disk) : Decidable disk.IsTree :=
  decidable_of_iff
    ((∀ entry ∈ disk.entries, entry.1 ≠ [] ∧
      disk.node? entry.1.dropLast = some .directory ∧ ∀ name ∈ entry.1, Path.IsName name) ∧
      disk.node? disk.current = some .directory)
    ⟨fun checks => ⟨checks.1, checks.2⟩, fun tree => ⟨tree.inside, tree.current⟩⟩

/-- A disk without symbolic links. -/
def Plain (disk : Disk) : Prop :=
  ∀ location target, disk.node? location ≠ some (.link target)

theorem plain_iff_entries (disk : Disk) :
    (∀ entry ∈ disk.entries, entry.1 = [] ∨ entry.2.isLink = false) ↔ disk.Plain := by
  constructor
  · intro free location target held
    by_cases root : location = []
    · subst root
      simp [node?_root] at held
    · have member := (node?_eq_some_iff disk root _).1 held
      rcases free _ member with atRoot | noLink
      · exact root atRoot
      · simp [Node.isLink] at noLink
  · rintro plain ⟨location, node⟩ member
    by_cases root : location = []
    · exact Or.inl root
    · cases node with
      | link target => exact absurd ((node?_eq_some_iff disk root _).2 member) (plain _ _)
      | directory => exact Or.inr rfl
      | file content => exact Or.inr rfl

instance (disk : Disk) : Decidable disk.Plain := decidable_of_iff _ (plain_iff_entries disk)

namespace IsTree

variable {disk : Disk}

theorem parent (tree : disk.IsTree) {location : Location} {name : Name}
    (held : (disk.node? (location ++ [name])).isSome) :
    disk.node? location = some .directory ∧ Path.IsName name := by
  obtain ⟨node, held⟩ := Option.isSome_iff_exists.1 held
  have member := (node?_eq_some_iff disk (by simp) node).1 held
  obtain ⟨_, directory, names⟩ := tree.inside _ member
  simp only [List.dropLast_concat] at directory
  exact ⟨directory, names name (by simp)⟩

/-- What has something below it is a directory. -/
theorem directory_of_below (tree : disk.IsTree) {location : Location} : ∀ {rest : List Name},
    rest ≠ [] → (disk.node? (location ++ rest)).isSome → disk.node? location = some .directory := by
  intro rest
  induction rest using List.reverseRecOn with
  | nil => intro nonempty; exact absurd rfl nonempty
  | append_singleton front last ih =>
    intro _ held
    rw [← List.append_assoc] at held
    have directory := (tree.parent held).1
    by_cases empty : front = []
    · subst empty
      simpa using directory
    · exact ih empty (by simp [directory])

theorem none_below (tree : disk.IsTree) {location : Location} {rest : List Name}
    (nonempty : rest ≠ []) (other : disk.node? location ≠ some .directory) :
    disk.node? (location ++ rest) = none := by
  cases held : disk.node? (location ++ rest) with
  | none => rfl
  | some node => exact absurd (tree.directory_of_below nonempty (by simp [held])) other

theorem dropLast (tree : disk.IsTree) {location : Location}
    (directory : disk.node? location = some .directory) :
    disk.node? location.dropLast = some .directory := by
  rcases List.eq_nil_or_concat' location with root | ⟨front, last, rfl⟩
  · subst root
    exact directory
  · have held : (disk.node? (front ++ [last])).isSome := by rw [directory]; rfl
    rw [List.dropLast_concat]
    exact (tree.parent held).1

theorem names (tree : disk.IsTree) {location : Location} (held : (disk.node? location).isSome) :
    ∀ name ∈ location, Path.IsName name := by
  obtain ⟨node, held⟩ := Option.isSome_iff_exists.1 held
  by_cases root : location = []
  · subst root
    simp
  · exact (tree.inside _ ((node?_eq_some_iff disk root node).1 held)).2.2

/-- A tree stays one if a node is put into a directory under a proper name, unless it replaces a
directory. -/
theorem put (tree : disk.IsTree) {location : Location} {name : Name}
    (directory : disk.node? location = some .directory) (proper : Path.IsName name)
    (other : disk.node? (location ++ [name]) ≠ some .directory) (node : Node) :
    (disk.put (location ++ [name]) node).IsTree := by
  have below : location ++ [name] ≠ [] := by simp
  have kept : ∀ place, disk.node? place = some .directory →
      (disk.put (location ++ [name]) node).node? place = some .directory := by
    intro place held
    have different : place ≠ location ++ [name] := fun same => other (same ▸ held)
    rw [node?_put_of_ne disk below node different, held]
  refine ⟨?_, kept _ tree.current⟩
  intro entry member
  rcases (mem_setEntry entry).1 member with rfl | ⟨member, _⟩
  · refine ⟨below, ?_, ?_⟩
    · simpa using kept _ directory
    · intro held found
      rcases List.mem_append.1 found with found | found
      · exact tree.names (by simp [directory]) held found
      · rw [List.mem_singleton.1 found]
        exact proper
  · obtain ⟨nonempty, parent, names⟩ := tree.inside entry member
    exact ⟨nonempty, kept _ parent, names⟩

end IsTree

theorem Plain.put {disk : Disk} (plain : disk.Plain) {location : Location}
    (below : location ≠ []) {node : Node} (free : node.isLink = false) :
    (disk.put location node).Plain := by
  intro other target held
  rw [node?_put disk below] at held
  split at held
  · rw [Option.some.inj held] at free
    simp [Node.isLink] at free
  · exact plain other target held

/-! ## Later disks -/

structure Keeps (before after : Disk) : Prop where
  current : after.current = before.current
  node : ∀ location held, before.node? location = some held →
    (after.node? location).map Node.shape = some held.shape

namespace Keeps

variable {before after : Disk}

theorem refl (disk : Disk) : Keeps disk disk := ⟨rfl, fun _ _ held => by rw [held]; rfl⟩

theorem trans {middle : Disk} (first : Keeps before middle) (second : Keeps middle after) :
    Keeps before after := by
  refine ⟨second.current.trans first.current, ?_⟩
  intro location held found
  obtain ⟨next, nextFound, shape⟩ := Option.map_eq_some_iff.1 (first.node location held found)
  rw [second.node location next nextFound, shape]

theorem directory (keeps : Keeps before after) {location : Location}
    (held : before.node? location = some .directory) : after.node? location = some .directory := by
  obtain ⟨next, found, shape⟩ := Option.map_eq_some_iff.1 (keeps.node location _ held)
  rw [found, Node.shape_eq_directory.1 shape]

theorem link (keeps : Keeps before after) {location : Location} {target : Path}
    (held : before.node? location = some (.link target)) :
    after.node? location = some (.link target) := by
  obtain ⟨next, found, shape⟩ := Option.map_eq_some_iff.1 (keeps.node location _ held)
  rw [found, Node.shape_eq_link.1 shape]

theorem file (keeps : Keeps before after) {location : Location} {content : Text.Bytes}
    (held : before.node? location = some (.file content)) :
    ∃ other, after.node? location = some (.file other) := by
  obtain ⟨next, found, shape⟩ := Option.map_eq_some_iff.1 (keeps.node location _ held)
  obtain ⟨other, same⟩ := Node.shape_eq_file.1 shape
  exact ⟨other, by rw [found, same]⟩

/-- Putting a node where nothing was, or a file where a file was, keeps what is there. -/
theorem put {disk : Disk} {location : Location} (below : location ≠ []) {node : Node}
    (free : ∀ held, disk.node? location = some held → node.shape = held.shape) :
    Keeps disk (disk.put location node) := by
  refine ⟨rfl, ?_⟩
  intro other held found
  by_cases same : other = location
  · subst same
    rw [node?_put_self disk below, Option.map_some, free held found]
  · rw [node?_put_of_ne disk below node same, found, Option.map_some]

end Keeps

/-- Nothing was done at a location, except that a directory may have been made there. -/
def SparedAt (before after : Disk) (location : Location) : Prop :=
  after.node? location = before.node? location ∨
    before.node? location = none ∧ after.node? location = some .directory

theorem SparedAt.trans {before middle after : Disk} {location : Location}
    (first : SparedAt before middle location) (second : SparedAt middle after location) :
    SparedAt before after location := by
  rcases first with same | ⟨free, made⟩
  · rcases second with later | ⟨free, made⟩
    · exact Or.inl (later.trans same)
    · exact Or.inr ⟨same ▸ free, made⟩
  · rcases second with later | ⟨taken, _⟩
    · exact Or.inr ⟨free, later.trans made⟩
    · simp [made] at taken

structure Paved (before after : Disk) : Prop where
  current : after.current = before.current
  node : ∀ location, after.node? location = before.node? location ∨
    before.node? location = none ∧ after.node? location = some .directory

namespace Paved

variable {before after : Disk}

theorem refl (disk : Disk) : Paved disk disk := ⟨rfl, fun _ => Or.inl rfl⟩

theorem trans {middle : Disk} (first : Paved before middle) (second : Paved middle after) :
    Paved before after := by
  refine ⟨second.current.trans first.current, fun location => ?_⟩
  have early : SparedAt before middle location := first.node location
  exact early.trans (second.node location)

theorem put {disk : Disk} {location : Location} (below : location ≠ [])
    (free : disk.node? location = none) : Paved disk (disk.put location .directory) := by
  refine ⟨rfl, ?_⟩
  intro other
  by_cases same : other = location
  · subst same
    exact Or.inr ⟨free, node?_put_self disk below _⟩
  · exact Or.inl (node?_put_of_ne disk below _ same)

theorem keeps (paved : Paved before after) : Keeps before after := by
  refine ⟨paved.current, ?_⟩
  intro location held found
  rcases paved.node location with same | ⟨free, _⟩
  · rw [same, found, Option.map_some]
  · simp [found] at free

theorem plain (paved : Paved before after) (plain : before.Plain) : after.Plain := by
  intro location target held
  rcases paved.node location with same | ⟨_, made⟩
  · exact plain location target (same ▸ held)
  · simp [made] at held

end Paved
end Disk
end PackageDoc
