import PackageDoc.Proofs.Run.Plan
import PackageDoc.Proofs.Walk.Basic

/-! # Runs step by step

A run with rules and a source directory plans, prepares the output directory and walks.  Without
either it does nothing. -/
set_option autoImplicit false

namespace PackageDoc
open PackageDoc.Text

/-- Whether there is nothing to do. -/
def Options.isIdle (options : Options) (disk : Disk) : Bool :=
  options.packages.isEmpty || !disk.holds options.source

theorem generate_idle (options : Options) (disk : Disk) (idle : options.isIdle disk = true) :
    generate options disk = (.ok { dryRun := options.dryRun }, disk) := by
  unfold Options.isIdle at idle
  unfold generate
  rw [if_pos idle]

/-- What a run has to do to give a report. -/
structure Runs (options : Options) (disk : Disk) (plan : Plan) (prepared : Disk)
    (final : Progress) : Prop where
  planned : options.plan disk = .ok plan
  ready : options.prepareOutput disk = (prepared, none)
  walked : plan.walk Disk.pathLimit [] options.source options.output "" { disk := prepared } =
    .ok final

theorem generate_eq_ok_iff (options : Options) (disk : Disk) (busy : options.isIdle disk = false)
    (report : Report) (after : Disk) :
    generate options disk = (.ok report, after) ↔
      ∃ plan prepared final, Runs options disk plan prepared final ∧
        report = ⟨options.dryRun, final.visits, final.changes⟩ ∧ after = final.disk := by
  unfold Options.isIdle at busy
  unfold generate
  rw [if_neg (by rw [busy]; exact Bool.false_ne_true)]
  constructor
  · intro success
    split at success
    · cases success
    next plan planned =>
      split at success
      · cases success
      next prepared made =>
        split at success
        · cases success
        next final walked =>
          cases success
          exact ⟨plan, prepared, final, ⟨planned, made, walked⟩, rfl, rfl⟩
  · rintro ⟨plan, prepared, final, runs, rfl, rfl⟩
    rw [runs.planned]
    dsimp only
    rw [runs.ready]
    dsimp only
    rw [runs.walked]

theorem generate_report {options : Options} {disk : Disk} {report : Report}
    (success : (generate options disk).1 = .ok report) :
    generate options disk = (.ok report, (generate options disk).2) := by
  rw [← success]

/-! ## Dry and real runs -/

theorem prepareOutput_of_ready (options : Options) (disk : Disk)
    (ready : disk.holds options.output = true ∨ options.generate = false) :
    options.prepareOutput disk = (disk, none) := by
  unfold Options.prepareOutput Plan.ensureDirectory
  rcases ready with there | off
  · rw [if_pos there]
    split <;> rfl
  · rw [off]
    rfl

/-- The same plan for a dry run or for a real one. -/
def Plan.withDryRun (plan : Plan) (dry : Bool) : Plan :=
  { plan with options := { plan.options with dryRun := dry } }

/-- The same options for a dry run or for a real one. -/
def Options.withDryRun (options : Options) (dry : Bool) : Options :=
  { options with dryRun := dry }

theorem plan_eq_ok_iff (options : Options) (disk : Disk) (plan : Plan) :
    options.plan disk = .ok plan ↔
      ∃ rules templates, options.validate disk = .ok rules ∧
        TemplateStore.ofRules disk rules = .ok templates ∧ plan = ⟨options, rules, templates⟩ := by
  unfold Options.plan
  cases options.validate disk with
  | error failure => simp [bind, Except.bind]
  | ok rules =>
    cases loaded : TemplateStore.ofRules disk rules with
    | error failure => simp [bind, Except.bind, loaded]
    | ok templates =>
      simp only [bind, Except.bind, loaded, pure, Except.pure, Except.ok.injEq, exists_and_left,
        exists_eq_left']
      exact eq_comm

theorem plan_withDryRun {options : Options} {disk : Disk} {plan : Plan} {dry : Bool}
    (planned : (options.withDryRun dry).plan disk = .ok plan) (other : Bool) :
    (options.withDryRun other).plan disk = .ok (plan.withDryRun other) ∧
      plan = plan.withDryRun dry := by
  obtain ⟨rules, templates, validated, loaded, rfl⟩ := (plan_eq_ok_iff _ _ _).1 planned
  exact ⟨(plan_eq_ok_iff _ _ _).2 ⟨rules, templates, validated, loaded, rfl⟩, rfl⟩

theorem options_of_planned {options : Options} {disk : Disk} {plan : Plan}
    (planned : options.plan disk = .ok plan) : plan.options = options := by
  obtain ⟨rules, templates, _, _, rfl⟩ := (plan_eq_ok_iff _ _ _).1 planned
  rfl

theorem prepareOutput_of_dry {options : Options} (dry : options.dryRun = true) (disk : Disk) :
    options.prepareOutput disk = (disk, none) := by
  unfold Options.prepareOutput
  rw [dry, Bool.not_true, Bool.and_false]
  rfl

theorem isIdle_of_planned {options : Options} {disk : Disk} {plan : Plan}
    (planned : options.plan disk = .ok plan) : options.isIdle disk = options.packages.isEmpty := by
  obtain ⟨rules, _, validated, _, _⟩ := (plan_eq_ok_iff _ _ _).1 planned
  have there := Disk.holds_of_isDirectory (Options.validate_eq_ok_iff.1 validated).1
  unfold Options.isIdle
  rw [there, Bool.not_true, Bool.or_false]

/-- How a run with a plan can end: at once for want of rules, before its walk, in it or after it. -/
inductive Ended (options : Options) (disk : Disk) (plan : Plan) :
    Except Failure Report × Disk → Prop
  | idle (unruled : options.packages = []) :
      Ended options disk plan (.ok { dryRun := options.dryRun }, disk)
  | unprepared {after : Disk} {failure : Failure} (ruled : options.packages ≠ [])
      (unready : options.prepareOutput disk = (after, some failure)) :
      Ended options disk plan (.error failure, after)
  | stopped {prepared : Disk} {progress : Progress} {failure : Failure}
      (ruled : options.packages ≠ []) (ready : options.prepareOutput disk = (prepared, none))
      (failed : plan.walk Disk.pathLimit [] options.source options.output "" { disk := prepared } =
        .error (failure, progress)) : Ended options disk plan (.error failure, progress.disk)
  | finished {prepared : Disk} {final : Progress} (ruled : options.packages ≠ [])
      (ready : options.prepareOutput disk = (prepared, none))
      (walked : plan.walk Disk.pathLimit [] options.source options.output "" { disk := prepared } =
        .ok final) :
      Ended options disk plan (.ok ⟨options.dryRun, final.visits, final.changes⟩, final.disk)

theorem generate_ended {options : Options} {disk : Disk} {plan : Plan}
    (planned : options.plan disk = .ok plan) : Ended options disk plan (generate options disk) := by
  have busy := isIdle_of_planned planned
  by_cases unruled : options.packages = []
  · rw [generate_idle options disk (by rw [busy, unruled]; rfl)]
    exact .idle unruled
  · unfold Options.isIdle at busy
    unfold generate
    rw [busy, if_neg (by simpa using unruled), planned]
    dsimp only
    cases ready : options.prepareOutput disk with
    | mk prepared failed =>
      cases failed with
      | some failure => exact .unprepared unruled ready
      | none =>
        dsimp only
        cases walked : plan.walk Disk.pathLimit [] options.source options.output ""
            { disk := prepared } with
        | error stop => exact .stopped unruled ready walked
        | ok final => exact .finished unruled ready walked

/-- A dry run leaves the disk as it is. -/
theorem Runs.dry_disk {options : Options} {disk : Disk} {plan : Plan} {prepared : Disk}
    {final : Progress} (runs : Runs options disk plan prepared final)
    (dry : options.dryRun = true) : prepared = disk ∧ final.disk = disk := by
  have same : prepared = disk :=
    (Prod.mk.inj (runs.ready.symm.trans (prepareOutput_of_dry dry disk))).1
  have left := Plan.walk_dry_disk plan (by rw [options_of_planned runs.planned, dry])
    Disk.pathLimit [] options.source options.output "" { disk := prepared }
  rw [runs.walked] at left
  exact ⟨same, left.trans same⟩

/-- A dry run leaves the disk as it is, also when it fails. -/
theorem generate_dry_disk {options : Options} (dry : options.dryRun = true) (disk : Disk) :
    (generate options disk).2 = disk := by
  unfold generate
  split
  · rfl
  · split
    · rfl
    next plan planned =>
      rw [prepareOutput_of_dry dry disk]
      have left := Plan.walk_dry_disk plan (by rw [options_of_planned planned, dry])
        Disk.pathLimit [] options.source options.output "" { disk := disk }
      dsimp only
      split
      next walked => rw [walked] at left; exact left
      next walked => rw [walked] at left; exact left

/-! ## A small project -/

namespace Sample

/-- A source tree with one package, a template and an empty output tree. -/
def fresh : Disk where
  entries := [([bytes "out"], .directory), ([bytes "src"], .directory),
    ([bytes "src", bytes "a"], .directory), ([bytes "src", bytes "a", bytes "A.java"], .file []),
    ([bytes "t"], .file (bytes "package q;"))]
  current := []
  ordered := by unfold Ordered; decide

/-- The same trees with the output file of the package. -/
def settled : Disk :=
  (fresh.put [bytes "out", bytes "a"] .directory).put
    [bytes "out", bytes "a", bytes "package-info.java"] (.file (bytes "package a;"))

def plain : Options where
  source := .ofString "src"
  output := .ofString "out"
  packages := [{ pattern := some "**", template := some (.ofString "t") }]

def unruled : Options := { plain with packages := [] }

def fileOfA : Path := .ofString "out/a/package-info.java"

def pending : Report where
  dryRun := true
  visits := [⟨.ofString "src/a", "a", some 0, .generated fileOfA⟩]
  changes := [⟨fileOfA, "a", none, "package a;"⟩]

def upToDate : Report where
  dryRun := true
  visits := [⟨.ofString "src/a", "a", some 0, .generatedUpToDate fileOfA⟩]

end Sample

end PackageDoc
