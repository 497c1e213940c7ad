import PackageDoc.Proofs.Disk.Writing

/-! # Disks that come about by writing

`Becomes` relates a disk to those that come about by writing files and making directories, in any
order, whether the single operation succeeds or fails.  What was there is kept on all of them, so a
path that leads somewhere goes on leading there.  A file that was written is found by its path. -/
set_option autoImplicit false

namespace PackageDoc.Disk
open PackageDoc.Text

inductive Becomes (disk : Disk) : Disk → Prop
  | refl : Becomes disk disk
  | write {later : Disk} (earlier : Becomes disk later) (path : Path) (content : Bytes) :
      Becomes disk (later.write path content).1
  | make {later : Disk} (earlier : Becomes disk later) (path : Path) :
      Becomes disk (later.createDirectories path).1

theorem write_kept {disk : Disk} (tree : disk.IsTree) (path : Path) (content : Bytes) :
    (disk.write path content).1.IsTree ∧ Keeps disk (disk.write path content).1 := by
  unfold write
  cases target : disk.target path with
  | error cause => exact ⟨tree, Keeps.refl disk⟩
  | ok location =>
    have writable := target_writable tree target
    exact ⟨writable.tree tree content, writable.keeps content⟩

theorem createDirectories_kept {disk : Disk} (tree : disk.IsTree) (path : Path) :
    (disk.createDirectories path).1.IsTree ∧ Keeps disk (disk.createDirectories path).1 := by
  have extended : Extended disk (disk.createDirectories path).1 :=
    (createDirectories_extended tree rfl).1
  exact ⟨extended.tree, extended.paved.keeps⟩

namespace Becomes
variable {disk later after : Disk}

theorem trans (first : disk.Becomes later) (second : later.Becomes after) :
    disk.Becomes after := by
  induction second with
  | refl => exact first
  | write _ path content ih => exact .write ih path content
  | make _ path ih => exact .make ih path

theorem kept (tree : disk.IsTree) (becomes : disk.Becomes after) :
    after.IsTree ∧ Keeps disk after := by
  induction becomes with
  | refl => exact ⟨tree, Keeps.refl disk⟩
  | write _ path content ih =>
    obtain ⟨stays, keeps⟩ := write_kept ih.1 path content
    exact ⟨stays, ih.2.trans keeps⟩
  | make _ path ih =>
    obtain ⟨stays, keeps⟩ := createDirectories_kept ih.1 path
    exact ⟨stays, ih.2.trans keeps⟩

theorem plain (tree : disk.IsTree) (free : disk.Plain) (becomes : disk.Becomes after) :
    after.Plain := by
  induction becomes with
  | refl => exact free
  | @write later earlier path content ih =>
    unfold Disk.write
    cases target : later.target path with
    | error cause => exact ih
    | ok location => exact ih.put (target_writable (earlier.kept tree).1 target).below rfl
  | make earlier path ih =>
    exact (createDirectories_extended (earlier.kept tree).1 rfl).1.paved.plain ih

end Becomes

/-! ## Files that were written -/

section Keeps
variable {before after : Disk} (keeps : Keeps before after) {content : Bytes}
include keeps

/-- A free name leads to the file that is put there. -/
theorem onward_vacant {directory : Location} {name : Name}
    (free : before.walk directory [name] = .reach (.vacant directory name))
    (made : after.node? (directory ++ [name]) = some (.file content)) :
    (Stop.reach (.vacant directory name)).onward after = .reach (.present (directory ++ [name])) := by
  have held : before.node? directory = some .directory := by
    by_contra other
    simp [walk, other] at free
  have moves : name ≠ Path.here := by
    rintro rfl
    simp [walk, held] at free
  have climbs : name ≠ Path.up := by
    rintro rfl
    simp [walk, held, moves] at free
  have short : ¬ nameLimit < name.length := by
    intro long
    simp [walk, held, moves, climbs, long] at free
  simp [Stop.onward, walk, keeps.directory held, moves, climbs, short, made]

/-- Once a file is where a path would put it, the path leads to it. -/
theorem locate_of_target {path : Path} {location : Location}
    (target : before.target path = .ok location)
    (held : after.node? location = some (.file content)) : after.locate path = .ok location := by
  unfold Disk.target at target
  split at target
  · cases last : before.lastName path <;> rw [last] at target <;> cases target
  · cases reached : before.reach path with
    | error cause => rw [reached] at target; cases target
    | ok reach =>
      rw [reached] at target
      simp only [bind, Except.bind] at target
      cases reach with
      | vacant directory name =>
        cases target
        obtain ⟨admitted, followed⟩ := reach_eq_ok reached
        rw [locate_eq_ok_iff]
        unfold Disk.reach
        rw [admitted, keeps.current]
        exact follow_of_keeps keeps _ _ _ followed
          (onward_vacant keeps (follow_vacant _ _ _ followed) held)
      | present place =>
        dsimp only at target
        split at target
        · cases target
        · cases target
          exact locate_of_keeps keeps (locate_eq_ok_iff.2 reached)

end Keeps

/-- A write that succeeds leaves its content at the place to which the path then leads. -/
theorem locate_of_write {disk after : Disk} (tree : disk.IsTree) {path : Path} {content : Bytes}
    (written : disk.write path content = (after, none)) :
    ∃ location, disk.target path = .ok location ∧ after.locate path = .ok location ∧
      after = disk.put location (.file content) := by
  obtain ⟨location, target, rfl⟩ := write_eq_ok_iff.1 written
  have writable := target_writable tree target
  exact ⟨location, target, locate_of_target (writable.keeps content) target
    (node?_put_self disk writable.below _), rfl⟩

end PackageDoc.Disk
