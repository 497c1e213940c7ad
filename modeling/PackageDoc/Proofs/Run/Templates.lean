import PackageDoc.Proofs.Run.Basic
import PackageDoc.Proofs.Template.Store
import PackageDoc.Proofs.Walk.Writes

/-! # Templates that a run overwrites

The path of a template leads to the same file all through a run.  Replacing regions never touches
that file, but a new file of the output tree may be written in its place, and then the last one that
is written there is what it holds in the end. -/
set_option autoImplicit false

namespace PackageDoc
open PackageDoc.Text

/-- How far a run comes, also one that fails. -/
def Options.progress (options : Options) (disk : Disk) : Progress :=
  match options.plan disk with
  | .error _ => { disk := disk }
  | .ok plan =>
    match options.prepareOutput disk with
    | (disk, some _) => { disk := disk }
    | (disk, none) =>
      Plan.left (plan.walk Disk.pathLimit [] options.source options.output "" { disk := disk })

/-- The last new file that a run writes where a path leads, if it writes one. -/
def Options.newest? (options : Options) (disk : Disk) (path : Path) : Option Change :=
  let final := options.progress disk
  if options.dryRun then none
  else newestAt? final.disk (final.disk.key path) (log final.visits final.changes)

variable {options : Options} {disk : Disk}

theorem generate_progress (busy : options.isIdle disk = false) :
    (generate options disk).2 = (options.progress disk).disk ∧
      ∀ report, (generate options disk).1 = .ok report →
        report = ⟨options.dryRun, (options.progress disk).visits,
          (options.progress disk).changes⟩ := by
  unfold Options.isIdle at busy
  unfold generate Options.progress
  rw [busy, if_neg Bool.false_ne_true]
  cases options.plan disk with
  | error failure => exact ⟨rfl, fun _ failed => nomatch failed⟩
  | ok plan =>
    dsimp only
    obtain ⟨prepared, _ | failure⟩ := options.prepareOutput disk
    · dsimp only
      cases plan.walk Disk.pathLimit [] options.source options.output "" { disk := prepared } with
      | error failed => exact ⟨rfl, fun _ failed => nomatch failed⟩
      | ok final => exact ⟨rfl, fun _ same => (Except.ok.inj same).symm⟩
    · exact ⟨rfl, fun _ failed => nomatch failed⟩

/-- A run ends before it walks, on the disk that it found or prepared, or it walks the disk that it
prepared. -/
theorem progress_cases (options : Options) (disk : Disk) :
    (∃ early, (early = disk ∨ early = (options.prepareOutput disk).1) ∧
      options.progress disk = { disk := early }) ∨
    ∃ plan, options.plan disk = .ok plan ∧ options.progress disk =
      Plan.left (plan.walk Disk.pathLimit [] options.source options.output ""
        { disk := (options.prepareOutput disk).1 }) := by
  unfold Options.progress
  cases options.plan disk with
  | error failure => exact Or.inl ⟨disk, Or.inl rfl, rfl⟩
  | ok plan =>
    dsimp only
    obtain ⟨prepared, _ | failure⟩ := options.prepareOutput disk
    · exact Or.inr ⟨plan, rfl, rfl⟩
    · exact Or.inl ⟨prepared, Or.inr rfl, rfl⟩

theorem prepareOutput_extended (tree : disk.IsTree) :
    Disk.Extended disk (options.prepareOutput disk).1 := by
  unfold Options.prepareOutput
  split
  · exact Plan.ensureDirectory_extended tree options.output
  · exact Disk.Extended.refl tree

/-- New files are written only if they are asked for. -/
theorem Plan.on_of_isNew (plan : Plan) (fuel : Nat) (ancestors : List (List Path.Part))
    (directory output : Path) (package : String) (progress : Progress) :
    ∀ visit ∈ (left (plan.walk fuel ancestors directory output package progress)).visits,
      visit ∈ progress.visits ∨ (visit.outcome.isNew = true → plan.options.generate = true) := by
  refine left_walk plan (fun before after => ∀ visit ∈ after.visits, visit ∈ before.visits ∨
    (visit.outcome.isNew = true → plan.options.generate = true)) (fun _ _ => Or.inl) ?_ ?_
    fuel ancestors directory output package progress
  · intro first second third one other visit member
    rcases other visit member with early | on
    · exact one visit early
    · exact Or.inr on
  · intro directory output package files progress visit member
    refine (mem_visits_of_visit member).imp_right ?_
    rintro ⟨marker, decision, decides, _, rfl⟩ isNew
    cases outcome : decision.outcome with
    | generated file => exact on_of_generated decides outcome
    | _ => rw [outcome] at isNew; cases isNew

/-- A run that writes no new files has none to tell of. -/
theorem newest?_of_quiet (quiet : options.generate = false ∨ options.dryRun = true)
    (path : Path) : options.newest? disk path = none := by
  unfold Options.newest?
  dsimp only
  split
  · rfl
  next real =>
    have off := quiet.resolve_right real
    have old : ∀ visit ∈ (options.progress disk).visits, visit.outcome.isNew = false := by
      rcases progress_cases options disk with ⟨_, _, ends⟩ | ⟨plan, planned, ends⟩
      · rw [ends]
        exact fun _ member => nomatch member
      · rw [ends]
        intro visit member
        rcases plan.on_of_isNew _ _ _ _ _ _ visit member with none | on
        · cases none
        · rw [options_of_planned planned, off] at on
          simpa using on
    unfold newestAt?
    rw [List.filter_eq_nil_iff.2]
    · rfl
    · intro entry member
      have visited := (List.mem_filter.1 (List.of_mem_zip member).1).1
      simp [isNewAt, old _ visited]

section Validated
variable {rules : List Rule} (validated : options.validate disk = .ok rules)
include validated

theorem isIdle_of_validated {rule : Rule} (member : rule ∈ rules) :
    options.isIdle disk = false := by
  obtain ⟨directory, _, entries⟩ := Options.validate_eq_ok_iff.1 validated
  have ruled : options.packages ≠ [] := by
    intro none
    rw [none] at entries
    cases entries
    cases member
  simp [Options.isIdle, ruled, Disk.holds_of_isDirectory directory]

theorem progress_tracked (tree : disk.IsTree) (real : options.dryRun = false) {rule : Rule}
    (member : rule ∈ rules) {location : Location}
    (located : disk.locate rule.template = .ok location) :
    Plan.Tracked location { disk := disk } (options.progress disk) := by
  have extended : Disk.Extended disk (options.prepareOutput disk).1 :=
    prepareOutput_extended tree
  have prepares : ∀ {early : Disk}, Disk.Extended disk early →
      Plan.Tracked location { disk := disk } { disk := early } :=
    fun extended => .of_extended extended rfl rfl rfl
  rcases progress_cases options disk with ⟨_, rfl | rfl, ends⟩ | ⟨plan, planned, ends⟩
  · rw [ends]
    exact .refl tree
  · rw [ends]
    exact prepares extended
  · obtain ⟨_, templates, same, loaded, rfl⟩ := (plan_eq_ok_iff _ _ _).1 planned
    obtain rfl := Except.ok.inj (same.symm.trans validated)
    have stored := (TemplateStore.loadRules_eq_ok loaded).2.2 rule member
    rw [Disk.key_of_locate located] at stored
    rw [ends]
    exact (prepares extended).trans (Plan.walk_tracked stored real _ _ _ _ _ extended.tree)

end Validated

/-- What the file of a template holds after a run, whether it succeeds or fails. -/
theorem template_holds_newest (options : Options) (disk : Disk) (tree : disk.IsTree)
    (rules : List Rule) (validated : options.validate disk = .ok rules) (rule : Rule)
    (member : rule ∈ rules) :
    ∃ location content, disk.locate rule.template = .ok location ∧
      (generate options disk).2.locate rule.template = .ok location ∧
      disk.node? location = some (.file content) ∧
      (generate options disk).2.node? location =
        some (.file (Change.contentOver content (options.newest? disk rule.template))) ∧
      (options.generate = false ∨ options.dryRun = true →
        options.newest? disk rule.template = none) := by
  obtain ⟨_, _, _, _, _, file⟩ :=
    Options.entry_of_mem_rules (Options.validate_eq_ok_iff.1 validated).2.2 rule member
  obtain ⟨location, content, located, held⟩ := Disk.locate_of_isFile file
  refine ⟨location, content, located, ?_⟩
  cases dry : options.dryRun with
  | true =>
    have none : options.newest? disk rule.template = none :=
      newest?_of_quiet (Or.inr dry) rule.template
    rw [generate_dry_disk dry disk, none]
    exact ⟨located, held, held, fun _ => rfl⟩
  | false =>
    have tracked := progress_tracked validated tree dry member located
    have key := Disk.key_of_keeps tracked.keeps located
    obtain ⟨visits, changes, grown, others, _, _, holds⟩ := tracked.entries
    rw [List.nil_append] at grown others
    have newest : options.newest? disk rule.template =
        newestAt? (options.progress disk).disk (keyOf location) (log visits changes) := by
      unfold Options.newest?
      dsimp only
      rw [dry, if_neg Bool.false_ne_true, key, Disk.key_of_locate located, grown, others]
    rw [(generate_progress (isIdle_of_validated validated member)).1]
    refine ⟨Disk.locate_of_keeps tracked.keeps located, held, ?_, fun quiet => ?_⟩
    · rw [newest]
      exact holds content held
    · exact newest?_of_quiet (quiet.imp_right fun writes => nomatch writes) rule.template

namespace Sample

/-- The template is the file that the root package gets. -/
def inPlace : Disk where
  entries := [([bytes "out"], .directory),
    ([bytes "out", bytes "package-info.java"], .file (bytes "package q;\n")),
    ([bytes "src"], .directory), ([bytes "src", bytes "A.java"], .file [])]
  current := []
  ordered := by unfold Ordered; decide

def ownOutput : Options where
  source := .ofString "src"
  output := .ofString "out"
  packages := [{ pattern := some "**", template := some (.ofString "out/package-info.java") }]

end Sample

theorem template_holds_newest_sample :
    ∃ rules rule, Sample.ownOutput.validate Sample.inPlace = .ok rules ∧ rule ∈ rules ∧
      ∃ location content, Sample.inPlace.locate rule.template = .ok location ∧
        (generate Sample.ownOutput Sample.inPlace).2.locate rule.template = .ok location ∧
        Sample.inPlace.node? location = some (.file content) ∧
        (generate Sample.ownOutput Sample.inPlace).2.node? location =
          some (.file (Change.contentOver content
            (Sample.ownOutput.newest? Sample.inPlace rule.template))) := by
  have validated : Sample.ownOutput.validate Sample.inPlace =
      .ok [⟨0, "**", true, .ofString "out/package-info.java"⟩] := by rfl
  obtain ⟨location, content, located, stays, held, holds, _⟩ :=
    template_holds_newest Sample.ownOutput Sample.inPlace (by decide) _ validated _
      List.mem_cons_self
  exact ⟨_, _, validated, List.mem_cons_self, location, content, located, stays, held, holds⟩

theorem new_file_replaces_template :
    Sample.inPlace.IsTree ∧ ∃ rules rule, Sample.ownOutput.validate Sample.inPlace = .ok rules ∧
      rule ∈ rules ∧ (generate Sample.ownOutput Sample.inPlace).1.isOk = true ∧
      (generate Sample.ownOutput Sample.inPlace).2.read rule.template ≠
        Sample.inPlace.read rule.template :=
  ⟨by decide, _, ⟨0, "**", true, .ofString "out/package-info.java"⟩, rfl, List.mem_cons_self,
    rfl, by decide⟩

end PackageDoc
