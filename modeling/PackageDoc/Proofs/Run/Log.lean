import PackageDoc.Proofs.Run.Basic
import PackageDoc.Proofs.Walk.Log

/-! # The log of a run

A run that writes makes the root of the output tree, if it has rules and the root is missing, and
then what its report says, in that order.  A run that fails stops after some of this, and the step
that fails leaves at most directories.  If no new files are asked for, nothing is made that was not
there; if nothing at all is asked for, nothing is changed. -/
set_option autoImplicit false

namespace PackageDoc
open PackageDoc.Text

/-- Makes the root of the output tree, if there are rules that may need it. -/
def Options.makeRoot (options : Options) (disk : Disk) : Option Disk :=
  if options.generate && !options.packages.isEmpty then disk.provide options.output else some disk

/-- Visits and changes that tell all that was done to a disk. -/
structure Explains (options : Options) (disk : Disk) (visits : List Visit) (changes : List Change)
    (after : Disk) : Prop where
  announced : List.Forall₂ Plan.Announces (writing visits) changes
  replayed : ∃ prepared, options.makeRoot disk = some prepared ∧
    options.replay prepared (log visits changes) = some after

/-- How a run ends that fails after planning: in making the root, or in its walk. -/
inductive Aborts (options : Options) (plan : Plan) (disk : Disk) (failure : Failure)
    (after : Disk) : Prop
  | root (cause : DiskError) (on : options.generate = true)
      (missing : disk.holds options.output = false)
      (made : disk.createDirectories options.output = (after, some cause))
  | walk (prepared middle : Disk) (progress : Progress)
      (root : options.makeRoot disk = some prepared)
      (failed : plan.walk Disk.pathLimit [] options.source options.output "" { disk := prepared } =
        .error (failure, progress))
      (logged : Explains options disk progress.visits progress.changes middle)
      (leaves : options.LeavesDirectories middle after) (paved : Disk.Paved middle after)

variable {options : Options} {disk : Disk} {plan : Plan}

theorem tree_of_makeRoot (tree : disk.IsTree) {prepared : Disk}
    (root : options.makeRoot disk = some prepared) : prepared.IsTree := by
  unfold Options.makeRoot at root
  split at root
  · exact (Disk.provide_extended tree root).tree
  · cases root
    exact tree

section Real
variable (real : options.dryRun = false)
include real

theorem prepareOutput_eq_none_iff (ruled : options.packages ≠ []) {prepared : Disk} :
    options.prepareOutput disk = (prepared, none) ↔ options.makeRoot disk = some prepared := by
  have some : options.packages.isEmpty = false := by simpa using ruled
  unfold Options.prepareOutput Options.makeRoot
  rw [real, some, Bool.not_false]
  split
  · exact Plan.provide_eq_some_iff.symm
  · simp

theorem prepareOutput_eq_some {after : Disk} {failure : Failure}
    (unready : options.prepareOutput disk = (after, some failure)) :
    options.generate = true ∧ disk.holds options.output = false ∧
      ∃ cause, disk.createDirectories options.output = (after, some cause) := by
  unfold Options.prepareOutput at unready
  rw [real, Bool.not_false, Bool.and_true] at unready
  split at unready
  next on =>
    obtain ⟨missing, cause, made, _⟩ := Plan.ensureDirectory_eq_error unready
    exact ⟨on, missing, cause, made⟩
  next => cases unready

theorem ends_of_ready (tree : disk.IsTree) (planned : options.plan disk = .ok plan)
    (ruled : options.packages ≠ []) {prepared : Disk}
    (ready : options.prepareOutput disk = (prepared, none)) :
    options.makeRoot disk = some prepared ∧ Plan.Ends plan.Logged
      (fun before _ after => plan.Abandoned before after) { disk := prepared }
      (plan.walk Disk.pathLimit [] options.source options.output "" { disk := prepared }) := by
  have same := options_of_planned planned
  have root := (prepareOutput_eq_none_iff real ruled).1 ready
  refine ⟨root, ?_⟩
  exact (Plan.traces_log (by rw [same, real])).walk_ends Disk.pathLimit
    ⟨[], options.source, options.output, ""⟩ { disk := prepared }
    ⟨[], by simp, by rw [same]; rfl, by rw [same]; rfl⟩ (tree_of_makeRoot tree root)

end Real

theorem makeRoot_of_off (off : options.generate = false) {prepared : Disk}
    (root : options.makeRoot disk = some prepared) : prepared = disk := by
  unfold Options.makeRoot at root
  rw [off, Bool.false_and, if_neg Bool.false_ne_true] at root
  exact (Option.some.inj root).symm

theorem explains_of_logged (planned : options.plan disk = .ok plan) {prepared : Disk}
    {progress : Progress} (root : options.makeRoot disk = some prepared)
    (logged : plan.Logged { disk := prepared } progress) :
    Explains options disk progress.visits progress.changes progress.disk := by
  obtain ⟨visits, changes, grown, others, announced, replayed⟩ := logged.entries
  rw [grown, others, List.nil_append, List.nil_append]
  rw [options_of_planned planned] at replayed
  exact ⟨announced, prepared, root, replayed⟩

theorem makeRoot_of_unruled (unruled : options.packages = []) :
    options.makeRoot disk = some disk := by
  unfold Options.makeRoot
  rw [unruled, List.isEmpty_nil, Bool.not_true, Bool.and_false, if_neg Bool.false_ne_true]

section Run
variable (tree : disk.IsTree) (real : options.dryRun = false)
  (planned : options.plan disk = .ok plan)
include tree real planned

theorem explains_of_success {report : Report} {after : Disk}
    (success : generate options disk = (.ok report, after)) :
    Explains options disk report.visits report.changes after := by
  have ended := generate_ended planned
  rw [success] at ended
  cases ended with
  | idle unruled => exact ⟨.nil, disk, makeRoot_of_unruled unruled, rfl⟩
  | finished ruled ready walked =>
    obtain ⟨root, ends⟩ := ends_of_ready real tree planned ruled ready
    rw [walked] at ends
    exact explains_of_logged planned root ends

theorem aborts_of_failure {failure : Failure} {after : Disk}
    (failed : generate options disk = (.error failure, after)) :
    Aborts options plan disk failure after := by
  have ended := generate_ended planned
  rw [failed] at ended
  cases ended with
  | unprepared ruled unready =>
    obtain ⟨on, missing, cause, made⟩ := prepareOutput_eq_some real unready
    exact .root cause on missing made
  | @stopped prepared progress _ ruled ready stopped =>
    obtain ⟨root, ends⟩ := ends_of_ready real tree planned ruled ready
    rw [stopped] at ends
    obtain ⟨middle, logged, abandoned⟩ := ends
    have explained := explains_of_logged planned root logged
    rw [← abandoned.visits, ← abandoned.changes] at explained
    have leaves := abandoned.disk
    rw [options_of_planned planned] at leaves
    have kept := logged.tree (tree_of_makeRoot tree root)
    exact .walk prepared middle.disk progress root stopped explained leaves (leaves.paved kept)

theorem generate_of_off (off : options.generate = false) :
    Disk.NothingNew disk (generate options disk).2 ∧
      (options.inline = false → (generate options disk).2 = disk) := by
  have same := options_of_planned planned
  have quiet : ∀ {prepared : Disk} {progress : Progress},
      options.makeRoot disk = some prepared → plan.Logged { disk := prepared } progress →
      Disk.NothingNew disk progress.disk ∧ (options.inline = false → progress.disk = disk) := by
    intro prepared progress root logged
    obtain rfl := makeRoot_of_off off root
    have old := logged.old
    have still := logged.still
    rw [same] at old still
    exact ⟨old off, still off⟩
  have ended := generate_ended planned
  generalize generate options disk = result at ended
  cases ended with
  | idle unruled => exact ⟨fun _ free => free, fun _ => rfl⟩
  | unprepared ruled unready =>
    exact Bool.noConfusion ((prepareOutput_eq_some real unready).1.symm.trans off)
  | stopped ruled ready stopped =>
    obtain ⟨root, ends⟩ := ends_of_ready real tree planned ruled ready
    rw [stopped] at ends
    obtain ⟨middle, logged, abandoned⟩ := ends
    have leaves := abandoned.disk
    rw [same] at leaves
    rw [leaves.resolve_right fun made => Bool.noConfusion (made.1.symm.trans off)]
    exact quiet root logged
  | finished ruled ready walked =>
    obtain ⟨root, ends⟩ := ends_of_ready real tree planned ruled ready
    rw [walked] at ends
    exact quiet root ends

end Run

/-- The log of a run is all that the run does to the disk. -/
theorem log_explains_run (options : Options) (disk : Disk) (plan : Plan) (tree : disk.IsTree)
    (real : options.dryRun = false) (planned : options.plan disk = .ok plan) :
    (∀ report after, generate options disk = (.ok report, after) →
      Explains options disk report.visits report.changes after) ∧
    (∀ failure after, generate options disk = (.error failure, after) →
      Aborts options plan disk failure after) ∧
    (options.generate = false → Disk.NothingNew disk (generate options disk).2) ∧
    (options.generate = false → options.inline = false → (generate options disk).2 = disk) :=
  ⟨fun _ _ => explains_of_success tree real planned,
    fun _ _ => aborts_of_failure tree real planned,
    fun off => (generate_of_off tree real planned off).1,
    fun off => (generate_of_off tree real planned off).2⟩

namespace Sample

/-- A second package, with a file in the place of its output directory. -/
def blocked : Disk where
  entries := [([bytes "out"], .directory), ([bytes "out", bytes "b"], .file []),
    ([bytes "src"], .directory), ([bytes "src", bytes "a"], .directory),
    ([bytes "src", bytes "a", bytes "A.java"], .file []), ([bytes "src", bytes "b"], .directory),
    ([bytes "src", bytes "b", bytes "B.java"], .file []), ([bytes "t"], .file (bytes "package q;"))]
  current := []
  ordered := by unfold Ordered; decide

end Sample

theorem log_explains_run_sample :
    Explains Sample.plain Sample.fresh Sample.pending.visits Sample.pending.changes
        Sample.settled ∧
      ∃ plan failure after, Sample.plain.plan Sample.blocked = .ok plan ∧
        generate Sample.plain Sample.blocked = (.error failure, after) ∧
        Aborts Sample.plain plan Sample.blocked failure after :=
  ⟨(log_explains_run Sample.plain Sample.fresh _ (by decide) rfl rfl).1
      ⟨false, Sample.pending.visits, Sample.pending.changes⟩ Sample.settled rfl,
    _, _, _, rfl, rfl,
    (log_explains_run Sample.plain Sample.blocked _ (by decide) rfl rfl).2.1 _ _ rfl⟩

namespace Sample

def sourceOnly : Disk where
  entries := [([bytes "src"], .directory), ([bytes "src", bytes "A.java"], .file [])]
  current := []
  ordered := by unfold Ordered; decide

end Sample

theorem unruled_run_makes_no_root :
    Sample.sourceOnly.IsTree ∧ Sample.unruled.dryRun = false ∧ Sample.unruled.generate = true ∧
      Sample.sourceOnly.holds Sample.unruled.output = false ∧
      (∃ plan, Sample.unruled.plan Sample.sourceOnly = .ok plan) ∧
      ∃ report, generate Sample.unruled Sample.sourceOnly = (.ok report, Sample.sourceOnly) ∧
        ¬ ∃ prepared, Sample.sourceOnly.provide Sample.unruled.output = some prepared ∧
          Sample.unruled.replay prepared (log report.visits report.changes) =
            some Sample.sourceOnly := by
  refine ⟨by decide, rfl, rfl, by decide, ⟨_, rfl⟩, _, rfl, ?_⟩
  rintro ⟨prepared, made, replayed⟩
  obtain rfl : prepared = Sample.sourceOnly := Option.some.inj replayed
  have same := congrArg (Option.map (·.entries.length)) made
  revert same
  decide

end PackageDoc
