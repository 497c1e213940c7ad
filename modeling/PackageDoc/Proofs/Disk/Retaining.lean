import PackageDoc.Proofs.Disk.Becoming
import PackageDoc.Proofs.Disk.Below

/-! # Disks to which only new things are added

What is put where nothing was leaves everything else as it is.  It can make more paths lead
somewhere, but a new file only makes them lead to itself. -/
set_option autoImplicit false

namespace PackageDoc.Disk
open PackageDoc.Text

/-- All that was there is there as it was. -/
structure Retains (before after : Disk) : Prop where
  current : after.current = before.current
  node : ∀ location held, before.node? location = some held → after.node? location = some held

namespace Retains
variable {before middle after : Disk}

theorem refl (disk : Disk) : Retains disk disk := ⟨rfl, fun _ _ held => held⟩

theorem trans (first : Retains before middle) (second : Retains middle after) :
    Retains before after :=
  ⟨second.current.trans first.current,
    fun location held found => second.node location held (first.node location held found)⟩

theorem keeps (retains : Retains before after) : Keeps before after :=
  ⟨retains.current, fun location held found => by rw [retains.node location held found]; rfl⟩

/-- Nothing is later where nothing was before. -/
theorem free (retains : Retains before after) {location : Location}
    (free : after.node? location = none) : before.node? location = none := by
  cases held : before.node? location with
  | none => rfl
  | some node => rw [retains.node location node held] at free; cases free

theorem put (retains : Retains before middle) {location : Location} (below : location ≠ [])
    (free : before.node? location = none) (node : Node) :
    Retains before (middle.put location node) := by
  refine ⟨retains.current, fun other held found => ?_⟩
  have apart : other ≠ location := by
    rintro rfl
    rw [free] at found
    cases found
  rw [node?_put_of_ne middle below node apart]
  exact retains.node other held found

end Retains

theorem Paved.retains {before after : Disk} (paved : Paved before after) :
    Retains before after := by
  refine ⟨paved.current, fun location held found => ?_⟩
  rcases paved.node location with same | ⟨free, _⟩
  · rw [same, found]
  · rw [free] at found
    cases found

/-! ## A new file -/

section NewFile
variable {disk : Disk} {place : Location} (below : place ≠ []) (content : Bytes)
include below

/-- Names lead where they led, or to the new file, or end at it. -/
theorem walk_put : ∀ (names : List Name) (location : Location),
    (disk.put place (.file content)).walk location names = disk.walk location names ∨
      (disk.put place (.file content)).walk location names = .reach (.present place) ∨
      ∃ cause, (disk.put place (.file content)).walk location names = .failed cause := by
  have made := node?_put_self disk below (.file content)
  intro names
  induction names with
  | nil => exact fun _ => Or.inl rfl
  | cons name rest ih =>
    intro location
    by_cases here : location = place
    · exact Or.inr (Or.inr ⟨.notADirectory, by simp [walk, here, made]⟩)
    · simp only [walk]
      rw [node?_put_of_ne disk below _ here]
      split
      · exact Or.inl rfl
      · split
        · exact ih location
        · split
          · exact ih location.dropLast
          · split
            · exact Or.inl rfl
            · by_cases there : location ++ [name] = place
              · rw [there, made]
                cases rest with
                | nil => exact Or.inr (Or.inl rfl)
                | cons => exact Or.inr (Or.inr ⟨.notADirectory, by simp [walk, made]⟩)
              · rw [node?_put_of_ne disk below _ there]
                split
                · exact Or.inl rfl
                · exact ih (location ++ [name])
                · exact Or.inl rfl

theorem follow_put : ∀ (links : Nat) (names : List Name) (location : Location) (reach : Reach),
    (disk.put place (.file content)).follow links location names = .ok reach →
      disk.follow links location names = .ok reach ∨ reach = .present place := by
  intro links
  induction links with
  | zero =>
    intro names location reach found
    rw [follow] at found ⊢
    rcases walk_put below content names location with same | there | ⟨cause, failed⟩
    · rw [same] at found
      exact Or.inl found
    · rw [there] at found
      exact Or.inr (Except.ok.inj found).symm
    · rw [failed] at found
      cases found
  | succ links ih =>
    intro names location reach found
    rw [follow] at found ⊢
    rcases walk_put below content names location with same | there | ⟨cause, failed⟩
    · rw [same] at found
      cases stop : disk.walk location names with
      | reach other => rw [stop] at found; exact Or.inl found
      | failed cause => rw [stop] at found; cases found
      | link directory target rest =>
        rw [stop] at found
        exact ih _ _ _ found
    · rw [there] at found
      exact Or.inr (Except.ok.inj found).symm
    · rw [failed] at found
      cases found

theorem locate_of_put {path : Path} {location : Location}
    (located : (disk.put place (.file content)).locate path = .ok location) :
    disk.locate path = .ok location ∨ location = place := by
  obtain ⟨admitted, followed⟩ := reach_eq_ok (locate_eq_ok_iff.1 located)
  rcases follow_put below content _ _ _ _ followed with same | there
  · rw [locate_eq_ok_iff]
    unfold Disk.reach
    rw [admitted]
    exact Or.inl same
  · exact Or.inr (Reach.present.inj there)

end NewFile

/-! ## A new directory -/

/-- Below a directory that a path opens, making a directory makes that one at most. -/
theorem createDirectories_child {disk after : Disk} {base : Path} {root : Location} {name : Name}
    (opens : disk.Opens base root) (proper : Path.IsName name) {failure : Option DiskError}
    (run : disk.createDirectories (base.child name) = (after, failure)) :
    after = disk ∨ name.length ≤ nameLimit ∧ disk.node? (root ++ [name]) = none ∧
      after = disk.put (root ++ [name]) .directory := by
  unfold createDirectories at run
  rw [createWithin, if_neg (by simpa using Path.bytes_child_ne_nil base proper)] at run
  split at run
  next made made_run =>
    cases run
    obtain ⟨location, open_, rfl⟩ := makeDirectory_eq_ok_iff.1 made_run
    obtain ⟨directory, last, found, rfl, _, _, short, nothing⟩ := free_eq_ok open_
    obtain ⟨_, same, followed⟩ := lastName_eq_ok found
    rw [Path.names_child base proper, List.dropLast_concat, start_child base proper] at followed
    rw [Path.names_child base proper, List.getLast?_concat] at same
    cases same
    cases opens.symm.trans followed
    exact Or.inr ⟨short, nothing, rfl⟩
  next absent_run => exact absurd absent_run (makeDirectory_child_ne_notFound opens proper _)
  next => split at run <;> cases run <;> exact Or.inl rfl

/-- In a new directory there is nothing that a file could be put in place of. -/
theorem free_of_new_directory {disk : Disk} (tree : disk.IsTree) {base : Path} {root : Location}
    (opens : disk.Opens base root) {first second : Name} (firstProper : Path.IsName first)
    (secondProper : Path.IsName second) (short : first.length ≤ nameLimit)
    (secondShort : second.length ≤ nameLimit) (nothing : disk.node? (root ++ [first]) = none)
    {location : Location}
    (target : (disk.put (root ++ [first]) .directory).target ((base.child first).child second) =
      .ok location) : disk.node? location = none := by
  have below : root ++ [first] ≠ [] := by simp
  have inside : root ++ [first] ++ [second] ≠ root ++ [first] := by simp
  have later := opens.of_keeps (Paved.put below nothing).keeps
  have free : disk.node? (root ++ [first] ++ [second]) = none :=
    tree.none_below (by simp) (by simp [nothing])
  have onward : (disk.put (root ++ [first]) .directory).walk root [first, second] =
      .reach (.vacant (root ++ [first]) second) := by
    simp only [walk]
    rw [later.directory, node?_put_self disk below, node?_put_of_ne disk below _ inside, free]
    simp [firstProper.2.2.1, firstProper.2.2.2, secondProper.2.2.1, secondProper.2.2.2,
      Nat.not_lt.2 short, Nat.not_lt.2 secondShort]
  unfold Disk.target at target
  rw [if_neg (Path.getLast?_child _ secondProper)] at target
  cases reached : (disk.put (root ++ [first]) .directory).reach ((base.child first).child second) with
  | error cause => rw [reached] at target; cases target
  | ok reach =>
    have leads := later.reach_child_child firstProper secondProper (reach_eq_ok reached).1 onward
    cases reached.symm.trans leads
    rw [leads] at target
    cases target
    exact free

end PackageDoc.Disk
