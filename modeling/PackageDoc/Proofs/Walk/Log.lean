import Mathlib.Data.List.Forall2
import PackageDoc.Proofs.Disk.Writing
import PackageDoc.Proofs.Walk.Calls
import PackageDoc.Proofs.Walk.Visible

/-! # Replaying a log

The changes of a walk, each with the visit that announces it, can be replayed on a disk by operations
that know nothing of templates and rules.  Replaying the log of a walk leaves the same disk as the
walk did.  A walk that fails can have made directories since, and nothing else. -/
set_option autoImplicit false

namespace PackageDoc
open PackageDoc.Text

/-! ## Operations that succeed -/

namespace Disk

/-- The disk after an operation that succeeds. -/
def completed : Disk × Option DiskError → Option Disk
  | (disk, none) => some disk
  | (_, some _) => none

/-- Makes a directory unless something has its path. -/
def provide (disk : Disk) (path : Path) : Option Disk :=
  if disk.holds path then some disk else completed (disk.createDirectories path)

def store (disk : Disk) (file : Path) (content : String) : Option Disk :=
  completed (disk.write file (bytes content))

def NothingNew (before after : Disk) : Prop :=
  ∀ location, before.node? location = none → after.node? location = none

theorem completed_eq_some_iff {result : Disk × Option DiskError} {after : Disk} :
    completed result = some after ↔ result = (after, none) := by
  obtain ⟨disk, _ | cause⟩ := result <;> simp [completed]

theorem provide_extended {disk after : Disk} (tree : disk.IsTree) {path : Path}
    (provided : disk.provide path = some after) : Extended disk after := by
  unfold provide at provided
  split at provided
  · cases provided
    exact Extended.refl tree
  · exact (createDirectories_extended tree (completed_eq_some_iff.1 provided)).1

theorem store_eq_some {disk after : Disk} (tree : disk.IsTree) {file : Path} {content : String}
    (stored : disk.store file content = some after) :
    ∃ location, disk.target file = .ok location ∧ disk.Writable location ∧
      after = disk.put location (.file (bytes content)) := by
  obtain ⟨location, target, rfl⟩ := write_eq_ok_iff.1 (completed_eq_some_iff.1 stored)
  exact ⟨location, target, target_writable tree target, rfl⟩

theorem target_of_locate {disk : Disk} {path : Path} {location place : Location}
    (located : disk.locate path = .ok place) (target : disk.target path = .ok location) :
    location = place := by
  unfold Disk.target at target
  split at target
  · cases last : disk.lastName path <;> rw [last] at target <;> cases target
  · rw [locate_eq_ok_iff.1 located] at target
    simp only [bind, Except.bind] at target
    split at target
    · cases target
    · exact (Except.ok.inj target).symm

theorem find?_of_readText {disk : Disk} {path : Path} {text : String}
    (read : disk.readText path = .ok text) :
    ∃ place, disk.locate path = .ok place ∧ (disk.node? place).isSome = true := by
  obtain ⟨place, located, held⟩ := find?_eq_some_iff.1 (readText_eq_ok_iff.1 read)
  exact ⟨place, located, Option.isSome_of_eq_some held⟩

theorem store_nothingNew {disk after : Disk} (tree : disk.IsTree) {file : Path}
    {content source : String} (read : disk.readText file = .ok source)
    (stored : disk.store file content = some after) : NothingNew disk after := by
  obtain ⟨location, target, writable, rfl⟩ := store_eq_some tree stored
  obtain ⟨place, located, held⟩ := find?_of_readText read
  obtain rfl := target_of_locate located target
  intro other free
  have different : other ≠ location := by
    rintro rfl
    simp [free] at held
  rw [node?_put_of_ne disk writable.below _ different, free]

end Disk

/-! ## Logs -/

def writing (visits : List Visit) : List Visit := visits.filter (·.outcome.isWrite)

/-- The changes, each with its visit. -/
def log (visits : List Visit) (changes : List Change) : List (Visit × Change) :=
  (writing visits).zip changes

theorem announced_append {visits later : List Visit} {changes others : List Change}
    (announced : List.Forall₂ Plan.Announces (writing visits) changes)
    (announces : List.Forall₂ Plan.Announces (writing later) others) :
    List.Forall₂ Plan.Announces (writing (visits ++ later)) (changes ++ others) := by
  unfold writing
  rw [List.filter_append]
  exact List.rel_append announced announces

theorem log_append {visits later : List Visit} {changes : List Change}
    (announced : List.Forall₂ Plan.Announces (writing visits) changes) (others : List Change) :
    log (visits ++ later) (changes ++ others) = log visits changes ++ log later others := by
  have same := announced.length_eq
  unfold log writing at *
  rw [List.filter_append, List.zip_append same]

namespace Options

/-- The directory in the output tree for a directory in the source tree. -/
def mirror (options : Options) (directory : Path) : Path :=
  options.output.descend (directory.names.drop options.source.names.length)

/-- Makes a change again.  A new file may need its directory first. -/
def redo (options : Options) (disk : Disk) (entry : Visit × Change) : Option Disk :=
  match entry.1.outcome with
  | .generated _ =>
    (disk.provide (options.mirror entry.1.directory)).bind fun disk =>
      disk.store entry.2.file entry.2.content
  | _ => disk.store entry.2.file entry.2.content

def replay (options : Options) (disk : Disk) (log : List (Visit × Change)) : Option Disk :=
  log.foldlM options.redo disk

variable {options : Options}

theorem mirror_descend {names : List Name} (proper : ∀ name ∈ names, Path.IsName name) :
    options.mirror (options.source.descend names) = options.output.descend names := by
  unfold mirror
  rw [Path.names_descend _ proper, List.drop_left]

theorem replay_append {disk middle after : Disk} {first second : List (Visit × Change)}
    (begins : options.replay disk first = some middle)
    (goesOn : options.replay middle second = some after) :
    options.replay disk (first ++ second) = some after := by
  unfold replay at *
  rw [List.foldlM_append, begins]
  exact goesOn

theorem redo_tree {disk after : Disk} (tree : disk.IsTree) {entry : Visit × Change}
    (redone : options.redo disk entry = some after) : after.IsTree := by
  have stores : ∀ {before : Disk}, before.IsTree →
      before.store entry.2.file entry.2.content = some after → after.IsTree := by
    intro before tree stored
    obtain ⟨location, _, writable, rfl⟩ := Disk.store_eq_some tree stored
    exact writable.tree tree _
  unfold redo at redone
  split at redone
  · obtain ⟨middle, provided, stored⟩ := Option.bind_eq_some_iff.1 redone
    exact stores (Disk.provide_extended tree provided).tree stored
  · exact stores tree redone

theorem replay_tree : ∀ {log : List (Visit × Change)} {disk after : Disk}, disk.IsTree →
    options.replay disk log = some after → after.IsTree := by
  intro log
  induction log with
  | nil => intro disk after tree replayed; cases replayed; exact tree
  | cons entry rest ih =>
    intro disk after tree replayed
    unfold replay at replayed
    rw [List.foldlM_cons] at replayed
    obtain ⟨middle, redone, replayed⟩ := Option.bind_eq_some_iff.1 replayed
    exact ih (redo_tree tree redone) replayed

/-- Nothing differs but for the directories on the way to a directory of the output tree. -/
def LeavesDirectories (options : Options) (before after : Disk) : Prop :=
  after = before ∨ options.generate = true ∧ ∃ names, (∀ name ∈ names, Path.IsName name) ∧
    after = (before.createDirectories (options.output.descend names)).1

theorem LeavesDirectories.paved {before after : Disk} (tree : before.IsTree)
    (leaves : options.LeavesDirectories before after) : Disk.Paved before after := by
  rcases leaves with rfl | ⟨_, names, _, rfl⟩
  · exact Disk.Paved.refl _
  · exact (Disk.createDirectories_extended tree rfl).1.paved

end Options

namespace Plan
variable {plan : Plan}

/-! ## Visits -/

theorem provide_eq_some_iff {disk after : Disk} {path : Path} :
    disk.provide path = some after ↔ ensureDirectory disk path = (after, none) := by
  unfold Disk.provide ensureDirectory
  split
  · simp
  · rw [Disk.completed_eq_some_iff]
    obtain ⟨made, _ | cause⟩ := disk.createDirectories path <;> simp

theorem store_eq_some_iff {disk after : Disk} {change : Change} :
    disk.store change.file change.content = some after ↔
      writeChange disk change = (after, none) := by
  unfold Disk.store writeChange
  rw [Disk.completed_eq_some_iff]
  obtain ⟨made, _ | cause⟩ := disk.write change.file (bytes change.content) <;> simp

theorem redo_of_commit {options : Options} {disk after : Disk} {directory : Path}
    (package : String) {decision : Decision} {change : Change}
    (changes : decision.change = some change)
    (written : commit disk (options.mirror directory) decision = (after, none)) :
    options.redo disk (⟨directory, package, decision.rule, decision.outcome⟩, change) =
      some after := by
  unfold commit at written
  rw [changes] at written
  unfold Options.redo
  cases outcome : decision.outcome with
  | generated file =>
    simp only [outcome] at written ⊢
    split at written
    · cases written
    next middle made =>
      exact Option.bind_eq_some_iff.2
        ⟨middle, provide_eq_some_iff.2 made, store_eq_some_iff.2 written⟩
  | _ =>
    simp only [outcome] at written ⊢
    exact store_eq_some_iff.2 written

theorem leavesDirectories_of_commit {options : Options} {disk after : Disk} {names : List Name}
    (proper : ∀ name ∈ names, Path.IsName name) {decision : Decision} {failure : Failure}
    (on : ∀ file, decision.outcome = .generated file → options.generate = true)
    (failed : commit disk (options.output.descend names) decision = (after, some failure)) :
    options.LeavesDirectories disk after := by
  unfold commit at failed
  split at failed
  · cases failed
  next change _ =>
    split at failed
    next file generated =>
      have on := on file generated
      split at failed
      next made =>
        cases failed
        obtain ⟨_, cause, created, _⟩ := ensureDirectory_eq_error made
        exact Or.inr ⟨on, names, proper, by rw [created]⟩
      next middle made =>
        obtain ⟨rfl, _⟩ := writeChange_eq_error failed
        unfold ensureDirectory at made
        split at made
        · cases made
          exact Or.inl rfl
        · split at made
          next created =>
            cases made
            exact Or.inr ⟨on, names, proper, by rw [created]⟩
          next => cases made
    next => exact Or.inl (writeChange_eq_error failed).1

theorem on_of_generated {disk : Disk} {package : String} {output file : Path}
    {marker : Option Path} {decision : Decision}
    (decides : plan.Decides disk package output marker decision)
    (generated : decision.outcome = .generated file) : plan.options.generate = true := by
  cases decides with
  | generated _ on => exact on
  | _ => cases generated

theorem readText_of_decides {disk : Disk} {package : String} {output : Path}
    {marker : Option Path} {decision : Decision} {change : Change}
    (decides : plan.Decides disk package output marker decision)
    (changes : decision.change = some change) (off : plan.options.generate = false) :
    decision.outcome = .replaced change.file ∧ ∃ source, disk.readText change.file = .ok source := by
  cases decides with
  | generated _ on => exact Bool.noConfusion (on.symm.trans off)
  | replaced _ _ _ read =>
    cases changes
    exact ⟨rfl, _, read⟩
  | noMatch => cases changes
  | generateDisabled => cases changes
  | generatedUpToDate => cases changes
  | skipExisting => cases changes
  | templateSource => cases changes
  | markerNotFound => cases changes
  | markerUpToDate => cases changes

theorem change_of_off {disk : Disk} {package : String} {output : Path} {marker : Option Path}
    {decision : Decision} (decides : plan.Decides disk package output marker decision)
    (noFiles : plan.options.generate = false) (noRegions : plan.options.inline = false) :
    decision.change = none := by
  cases changes : decision.change with
  | none => rfl
  | some change =>
    rcases decides_change_cases decides changes with ⟨_, _, new⟩ | ⟨_, _, new⟩
    · exact Bool.noConfusion (new.on.symm.trans noFiles)
    · exact Bool.noConfusion (new.on.symm.trans noRegions)

/-! ## Walks -/

/-- What the log tells of the way from a progress to a later one. -/
structure Logged (plan : Plan) (before after : Progress) : Prop where
  entries : ∃ visits changes, after.visits = before.visits ++ visits ∧
    after.changes = before.changes ++ changes ∧
    List.Forall₂ Announces (writing visits) changes ∧
    plan.options.replay before.disk (log visits changes) = some after.disk
  old : plan.options.generate = false → Disk.NothingNew before.disk after.disk
  still : plan.options.generate = false → plan.options.inline = false → after.disk = before.disk

namespace Logged

theorem refl (progress : Progress) : plan.Logged progress progress where
  entries := ⟨[], [], by simp, by simp, .nil, rfl⟩
  old _ _ free := free
  still _ _ := rfl

theorem trans {first second third : Progress} (one : plan.Logged first second)
    (other : plan.Logged second third) : plan.Logged first third := by
  refine ⟨?_, fun off location free => other.old off location (one.old off location free),
    fun noFiles noRegions =>
      (other.still noFiles noRegions).trans (one.still noFiles noRegions)⟩
  obtain ⟨visits, changes, grownVisits, grownChanges, announced, replayed⟩ := one.entries
  obtain ⟨later, others, moreVisits, moreChanges, announces, replays⟩ := other.entries
  refine ⟨visits ++ later, changes ++ others, ?_, ?_, ?_, ?_⟩
  · rw [moreVisits, grownVisits, List.append_assoc]
  · rw [moreChanges, grownChanges, List.append_assoc]
  · exact announced_append announced announces
  · rw [log_append announced]
    exact Options.replay_append replayed replays

theorem tree {before after : Progress} (logged : plan.Logged before after)
    (tree : before.disk.IsTree) : after.disk.IsTree := by
  obtain ⟨_, _, _, _, _, replayed⟩ := logged.entries
  exact Options.replay_tree tree replayed

theorem idle (progress : Progress) {visit : Visit} (reads : visit.outcome.isWrite = false) :
    plan.Logged progress
      ⟨progress.disk, progress.visits ++ [visit], progress.changes ++ []⟩ where
  entries := ⟨[visit], [], rfl, rfl, by simp [writing, reads], by simp [log, Options.replay]⟩
  old _ _ free := free
  still _ _ := rfl

end Logged

structure Abandoned (plan : Plan) (before : Progress) (after : Progress) : Prop where
  visits : after.visits = before.visits
  changes : after.changes = before.changes
  disk : plan.options.LeavesDirectories before.disk after.disk

theorem Abandoned.refl (progress : Progress) : plan.Abandoned progress progress :=
  ⟨rfl, rfl, Or.inl rfl⟩

theorem visit_logged (real : plan.options.dryRun = false) {names : List Name}
    (proper : ∀ name ∈ names, Path.IsName name) {package : String} {files : List Name}
    {progress final : Progress} (tree : progress.disk.IsTree)
    (visited : plan.visit (plan.options.source.descend names) (plan.options.output.descend names)
      package files progress = .ok final) : plan.Logged progress final := by
  obtain ⟨decision, disk, decided, written, rfl⟩ := (plan.visit_eq_ok_iff _ _ _ _ _ _).1 visited
  have decides := (plan.decide_eq_ok_iff _ _ _ _ _).1 decided
  rw [real, if_neg Bool.false_ne_true] at written
  rcases decides_change decides (plan.options.source.descend names) with
    ⟨none, reads⟩ | ⟨change, changes, announces⟩
  · unfold commit at written
    rw [none] at written ⊢
    cases written
    exact Logged.idle progress reads
  · have redone := redo_of_commit package changes
      ((Options.mirror_descend proper).symm ▸ written)
    rw [changes]
    refine ⟨⟨[_], [change], rfl, rfl, ?_, ?_⟩, ?_, ?_⟩
    · simpa [writing, announces.writes] using announces
    · simpa [log, writing, announces.writes, Options.replay] using redone
    · -- Without new files, a change replaces a region of a file that was read for it.
      intro off
      obtain ⟨outcome, source, read⟩ := readText_of_decides decides changes off
      unfold Options.redo at redone
      rw [outcome] at redone
      exact Disk.store_nothingNew tree read redone
    · intro noFiles noRegions
      rw [change_of_off decides noFiles noRegions] at changes
      cases changes

theorem visit_abandoned {names : List Name} (proper : ∀ name ∈ names, Path.IsName name)
    {package : String} {files : List Name} {progress after : Progress} {failure : Failure}
    (failed : plan.visit (plan.options.source.descend names) (plan.options.output.descend names)
      package files progress = .error (failure, after)) : plan.Abandoned progress after := by
  rcases visit_eq_error failed with ⟨_, rfl⟩ | ⟨decision, disk, decided, _, unwritten, rfl⟩
  · exact Abandoned.refl _
  · have decides := (plan.decide_eq_ok_iff _ _ _ _ _).1 decided
    exact ⟨rfl, rfl, leavesDirectories_of_commit proper (fun _ => on_of_generated decides) unwritten⟩

theorem traces_log (real : plan.options.dryRun = false) : plan.Traces
    (fun call => ∃ names, (∀ name ∈ names, Path.IsName name) ∧
      call.directory = plan.options.source.descend names ∧
      call.output = plan.options.output.descend names)
    (fun progress => progress.disk.IsTree) plan.Logged
    (fun before _ after => plan.Abandoned before after) where
  refl := Logged.refl
  trans _ _ _ := Logged.trans
  keeps _ _ logged := logged.tree
  child := by
    rintro call progress listing name text ⟨names, proper, directory, output⟩ tree _ listed member _
    refine ⟨names ++ [name],
      Path.isName_concat proper (isName_of_directories tree listed member), ?_, ?_⟩
    · rw [Path.descend_concat, ← directory]
      rfl
    · rw [Path.descend_concat, ← output]
      rfl
  cycle _ _ _ := Abandoned.refl _
  listing _ _ _ := Abandoned.refl _
  visit := by
    rintro ⟨ancestors, directory, output, package⟩ progress listing
      ⟨names, proper, rfl, rfl⟩ tree listed
    cases visited : plan.visit (plan.options.source.descend names)
        (plan.options.output.descend names) package listing.files progress with
    | ok final => exact visit_logged real proper tree visited
    | error failed =>
      exact ⟨progress, Logged.refl progress, visit_abandoned proper visited⟩

end Plan
end PackageDoc
