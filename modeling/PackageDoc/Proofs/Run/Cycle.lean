import PackageDoc.Proofs.Run.Validation
import PackageDoc.Proofs.Walk.Cycle

/-! # Runs on disks with cycles

A dry run ends on every disk, whatever its links.  If it succeeds, no visible directory is at the
place of one above it; if it fails for a cycle, it names a visible directory that is. -/
set_option autoImplicit false

namespace PackageDoc
open PackageDoc.Text

theorem Visible.holds_source {disk : Disk} {source : Path} {name : Name} {rest : List Name}
    (visible : Visible disk source (name :: rest)) : disk.holds source = true := by
  have first : Visible disk source ([] ++ [name]) := by
    change Visible disk source ([name] ++ rest) at visible
    exact visible.of_append
  obtain ⟨_, entries, listed, _⟩ := first.of_concat
  obtain ⟨location, located, held, _⟩ := Disk.list_eq_ok_iff.1 listed
  exact Disk.holds_of_isDirectory
    (Disk.isDirectory_iff.2 (Disk.find?_eq_some_iff.2 ⟨location, located, held⟩))

variable {options : Options} {disk : Disk} {plan : Plan}

theorem isDirectory_of_planned (planned : options.plan disk = .ok plan) :
    disk.isDirectory plan.options.source = true := by
  obtain ⟨rules, _, validated, _, rfl⟩ := (plan_eq_ok_iff _ _ _).1 planned
  exact (Options.validate_eq_ok_iff.1 validated).1

section Dry
variable (tree : disk.IsTree) (dry : options.dryRun = true)
include tree dry

theorem walkWithin_of_planned (planned : options.plan disk = .ok plan) {limit : Nat}
    (enough : disk.directories.card < limit) :
    plan.walkWithin limit plan.sourceCall { disk := disk } = Plan.within
      (plan.walk Disk.pathLimit [] options.source options.output "" { disk := disk }) := by
  obtain rfl := options_of_planned planned
  exact plan.walkWithin_eq dry tree (isDirectory_of_planned planned) Disk.pathLimit limit []
    { disk := disk } Plan.opened_source rfl (Nat.zero_add _) (by simpa using enough)

theorem not_cyclicAt_of_success {report : Report} {after : Disk} (ruled : options.packages ≠ [])
    (success : generate options disk = (.ok report, after)) (names : List Name) :
    ¬ CyclicAt disk options.source names := by
  cases busy : options.isIdle disk with
  | true =>
    have missing : disk.holds options.source = false := by
      simpa [Options.isIdle, ruled] using busy
    rintro ⟨visible, above, inside, proper, _⟩
    cases names with
    | nil => exact proper (List.prefix_nil.1 inside)
    | cons name rest => exact Bool.noConfusion (missing.symm.trans visible.holds_source)
  | false =>
    obtain ⟨plan, prepared, final, runs, _, _⟩ :=
      (generate_eq_ok_iff options disk busy report after).1 success
    obtain ⟨rfl, _⟩ := runs.dry_disk dry
    have there := isDirectory_of_planned runs.planned
    obtain rfl := options_of_planned runs.planned
    obtain ⟨sites, scans⟩ := plan.scans_of_dry_walk dry _ _ [] _ _ runs.walked
    exact Plan.not_cyclicAt_of_scans tree there scans names

omit tree in
theorem cyclicAt_of_failure {text : String} {after : Disk}
    (failed : generate options disk = (.error (.symlinkCycle text), after)) :
    ∃ names, CyclicAt disk options.source names ∧
      text = (options.source.descend names).display := by
  rcases generate_eq_error failed with ⟨unplanned, _⟩ | ⟨plan, planned, ended⟩
  · cases isConfiguration_of_unplanned unplanned
  · have there := isDirectory_of_planned planned
    obtain rfl := options_of_planned planned
    cases ended with
    | unprepared _ unready =>
      rw [prepareOutput_of_dry dry disk] at unready
      cases unready
    | stopped _ ready stopped =>
      rw [prepareOutput_of_dry dry disk] at ready
      cases ready
      have ends := (plan.traces_cycle dry there).walk_ends Disk.pathLimit plan.sourceCall
        { disk := disk } ⟨[], Plan.opened_source, rfl⟩ rfl
      unfold Plan.walkFrom Plan.sourceCall at ends
      dsimp only at ends
      rw [stopped] at ends
      obtain ⟨_, _, stops⟩ := ends
      exact stops text rfl

end Dry

/-- A dry run ends, with few calls open at once, and fails for a cycle only where there is one. -/
theorem dry_run_detects_cycles (options : Options) (disk : Disk) (tree : disk.IsTree)
    (dry : options.dryRun = true) :
    (∀ plan, options.plan disk = .ok plan → ∀ limit, disk.directories.card < limit →
      plan.walkWithin limit plan.sourceCall { disk := disk } = Plan.within
        (plan.walk Disk.pathLimit [] options.source options.output "" { disk := disk })) ∧
    (∀ report after, generate options disk = (.ok report, after) → options.packages ≠ [] →
      ∀ names, ¬ CyclicAt disk options.source names) ∧
    (∀ text after, generate options disk = (.error (.symlinkCycle text), after) →
      ∃ names, CyclicAt disk options.source names ∧
        text = (options.source.descend names).display) :=
  ⟨fun _ planned _ => walkWithin_of_planned tree dry planned,
    fun _ _ success ruled => not_cyclicAt_of_success tree dry ruled success,
    fun _ _ => cyclicAt_of_failure dry⟩

namespace Sample

/-- A source directory with a link to itself. -/
def looped : Disk where
  entries := [([bytes "src"], .directory), ([bytes "src", bytes "A.java"], .file []),
    ([bytes "src", bytes "loop"], .link (.ofString ".")), ([bytes "t"], .file (bytes "package q;"))]
  current := []
  ordered := by unfold Ordered; decide

end Sample

theorem dry_run_detects_cycles_sample :
    (∃ plan, (Sample.plain.withDryRun true).plan Sample.looped = .ok plan ∧
      plan.walkWithin 3 plan.sourceCall { disk := Sample.looped } = Plan.within
        (plan.walk Disk.pathLimit [] (.ofString "src") (.ofString "out") ""
          { disk := Sample.looped })) ∧
    (∃ names, CyclicAt Sample.looped (.ofString "src") names ∧
      "src/loop" = ((Path.ofString "src").descend names).display) ∧
    ∀ names, ¬ CyclicAt Sample.fresh (.ofString "src") names := by
  have looped := dry_run_detects_cycles (Sample.plain.withDryRun true) Sample.looped (by decide) rfl
  have fresh := dry_run_detects_cycles (Sample.plain.withDryRun true) Sample.fresh (by decide) rfl
  exact ⟨⟨_, rfl, looped.1 _ rfl 3 (by decide)⟩, looped.2.2 "src/loop" Sample.looped rfl,
    fresh.2.1 Sample.pending Sample.fresh rfl (by decide)⟩

theorem unruled_run_misses_cycle :
    Sample.looped.IsTree ∧ (Sample.unruled.withDryRun true).dryRun = true ∧
      (∃ report, generate (Sample.unruled.withDryRun true) Sample.looped =
        (.ok report, Sample.looped)) ∧
      ∃ names, CyclicAt Sample.looped (Sample.unruled.withDryRun true).source names := by
  have visible : Visible Sample.looped (.ofString "src") ([] ++ [bytes "loop"]) :=
    .child .root rfl (by decide) (by decide) (by decide) (by decide)
  exact ⟨by decide, rfl, ⟨_, rfl⟩, [bytes "loop"], visible, [], List.nil_prefix, by decide,
    [bytes "src"], rfl, rfl⟩

end PackageDoc
