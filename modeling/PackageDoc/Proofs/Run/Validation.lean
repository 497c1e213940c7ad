import PackageDoc.Proofs.Run.Basic
import PackageDoc.Proofs.Run.Plan
import PackageDoc.Proofs.Template.Store
import PackageDoc.Proofs.Walk.Calls

/-! # What is wrong with a configuration

The entries are checked in order, each by four checks in a fixed order, and the first failure ends
the run.  All failures of a configuration come before the first write: a run that ends with one
leaves the disk as it was, and a walk never ends with one. -/
set_option autoImplicit false

namespace PackageDoc

/-- The index of the package entry that a failure speaks of. -/
def Failure.subject? : Failure → Option Nat
  | .missingPattern index | .missingTemplate index => some index
  | .templateNotFound index _ | .templateNotFile index _ => some index
  | _ => none

theorem Failure.isConfiguration_of_subject? {failure : Failure} {index : Nat}
    (speaks : failure.subject? = some index) : failure.isConfiguration = true := by
  cases failure <;> first | rfl | cases speaks

namespace PackageEntry

structure Passes (disk : Disk) (entry : PackageEntry) : Prop where
  pattern : ∃ pattern, entry.pattern = some pattern ∧ pattern ≠ ""
  template : ∃ template, entry.template = some template ∧ disk.isFile template = true

/-- An entry fails at the first check that it does not pass: it must have a pattern, then a template,
then something must be at the path of the template, and that must be a file. -/
inductive Fails (disk : Disk) (index : Nat) (entry : PackageEntry) : Failure → Prop
  | missingPattern (empty : ∀ pattern, entry.pattern = some pattern → pattern = "") :
      Fails disk index entry (.missingPattern index)
  | missingTemplate {pattern : String} (given : entry.pattern = some pattern) (filled : pattern ≠ "")
      (absent : entry.template = none) : Fails disk index entry (.missingTemplate index)
  | templateNotFound {pattern : String} {template : Path} (given : entry.pattern = some pattern)
      (filled : pattern ≠ "") (named : entry.template = some template)
      (missing : disk.holds template = false) :
      Fails disk index entry (.templateNotFound index template.display)
  | templateNotFile {pattern : String} {template : Path} (given : entry.pattern = some pattern)
      (filled : pattern ≠ "") (named : entry.template = some template)
      (held : disk.holds template = true) (other : disk.isFile template = false) :
      Fails disk index entry (.templateNotFile index template.display)

theorem Fails.subject? {disk : Disk} {index : Nat} {entry : PackageEntry} {failure : Failure}
    (fails : entry.Fails disk index failure) : failure.subject? = some index := by
  cases fails <;> rfl

end PackageEntry

namespace Options

/-- An entry fails, and none before it does. -/
structure FirstFailing (options : Options) (disk : Disk) (index : Nat) (failure : Failure) :
    Prop where
  fails : ∃ entry : PackageEntry, options.packages[index]? = some entry ∧ entry.Fails disk index failure
  earlier : ∀ before < index, ∀ entry, options.packages[before]? = some entry → entry.Passes disk

/-- The source path leads to a directory, and the output path to a directory or, if nothing is to be
written there, to anything. -/
structure RootsFit (options : Options) (disk : Disk) : Prop where
  source : disk.isDirectory options.source = true
  output : options.generate = true → disk.holds options.output = true →
    disk.isDirectory options.output = true

variable {disk : Disk}

/-! ## Entries -/

theorem validateEntry_eq_error_iff {index : Nat} {entry : PackageEntry} {failure : Failure} :
    validateEntry disk index entry = .error failure ↔ entry.Fails disk index failure := by
  unfold validateEntry
  constructor
  · intro failed
    split at failed
    next found =>
      cases failed
      refine .missingPattern fun pattern given => ?_
      rw [given] at found
      simpa using found
    next pattern found =>
      obtain ⟨given, filled⟩ := Option.filter_eq_some_iff.1 found
      have filled : pattern ≠ "" := by simpa using filled
      split at failed
      next absent =>
        cases failed
        exact .missingTemplate given filled absent
      next template named =>
        split at failed
        next missing =>
          cases failed
          exact .templateNotFound given filled named (by simpa using missing)
        next held =>
          split at failed
          next other =>
            cases failed
            exact .templateNotFile given filled named (by simpa using held) (by simpa using other)
          next => cases failed
  · intro fails
    cases fails with
    | missingPattern empty =>
      have filtered : entry.pattern.filter (!·.isEmpty) = none := by
        rw [Option.filter_eq_none_iff]
        intro pattern given
        simp [empty pattern given]
      rw [filtered]
    | missingTemplate given filled absent => simp [given, Option.filter, filled, absent]
    | templateNotFound given filled named missing =>
      simp [given, Option.filter, filled, named, missing]
    | templateNotFile given filled named held other =>
      simp [given, Option.filter, filled, named, held, other]

theorem passes_iff_validateEntry (index : Nat) {entry : PackageEntry} :
    entry.Passes disk ↔ ∃ rule, validateEntry disk index entry = .ok rule := by
  constructor
  · rintro ⟨⟨pattern, given, filled⟩, template, named, file⟩
    exact ⟨_, validateEntry_eq_ok_iff.2
      ⟨pattern, template, given, by simpa using filled, named, file, rfl⟩⟩
  · rintro ⟨rule, success⟩
    obtain ⟨pattern, template, given, filled, named, file, _⟩ := validateEntry_eq_ok_iff.1 success
    exact ⟨⟨pattern, given, by simpa using filled⟩, template, named, file⟩

theorem validateEntries_cons_eq_error_iff {start : Nat} {first : PackageEntry}
    {rest : List PackageEntry} {failure : Failure} :
    validateEntries disk start (first :: rest) = .error failure ↔
      first.Fails disk start failure ∨
        first.Passes disk ∧ validateEntries disk (start + 1) rest = .error failure := by
  rw [validateEntries, ← validateEntry_eq_error_iff, passes_iff_validateEntry start]
  cases validateEntry disk start first with
  | error cause => simp [bind, Except.bind]
  | ok rule =>
    cases validateEntries disk (start + 1) rest <;> simp [bind, Except.bind, pure, Except.pure]

theorem validateEntries_eq_error_iff {failure : Failure} : ∀ {entries : List PackageEntry}
    {start : Nat}, validateEntries disk start entries = .error failure ↔
      ∃ index : Nat,
        (∃ entry : PackageEntry, entries[index]? = some entry ∧
          entry.Fails disk (start + index) failure) ∧
        ∀ before < index, ∀ entry : PackageEntry, entries[before]? = some entry →
          entry.Passes disk := by
  intro entries
  induction entries with
  | nil => intro start; simp [validateEntries]
  | cons first rest ih =>
    intro start
    rw [validateEntries_cons_eq_error_iff, ih]
    constructor
    · rintro (fails | ⟨passes, index, ⟨entry, held, fails⟩, earlier⟩)
      · exact ⟨0, ⟨first, rfl, fails⟩, fun before less => absurd less (Nat.not_lt_zero _)⟩
      · rw [Nat.add_right_comm] at fails
        refine ⟨index + 1, ⟨entry, held, fails⟩, fun before less other otherHeld => ?_⟩
        cases before with
        | zero => cases otherHeld; exact passes
        | succ before => exact earlier before (Nat.lt_of_succ_lt_succ less) other otherHeld
    · rintro ⟨index, ⟨entry, held, fails⟩, earlier⟩
      cases index with
      | zero =>
        cases held
        exact Or.inl fails
      | succ index =>
        rw [← Nat.add_assoc, Nat.add_right_comm] at fails
        exact Or.inr ⟨earlier 0 (Nat.succ_pos index) first rfl, index, ⟨entry, held, fails⟩,
          fun before less => earlier (before + 1) (Nat.succ_lt_succ less)⟩

/-! ## Roots, entries and templates -/

theorem validate_of_rootsFit {options : Options} (fit : options.RootsFit disk) :
    options.validate disk = validateEntries disk 0 options.packages := by
  unfold validate
  rw [if_neg (by simp [fit.source]), if_neg]
  intro blocked
  simp only [Bool.and_eq_true, Bool.not_eq_true'] at blocked
  rw [fit.output blocked.1.1 blocked.1.2] at blocked
  cases blocked.2

theorem validate_eq_error {options : Options} {failure : Failure}
    (failed : options.validate disk = .error failure) :
    failure.isConfiguration = true ∧ failure.subject? = none ∨
      ∃ index, options.RootsFit disk ∧ options.FirstFailing disk index failure := by
  have whole := failed
  unfold validate at failed
  split at failed
  · cases failed
    exact Or.inl ⟨rfl, rfl⟩
  next there =>
    split at failed
    · cases failed
      exact Or.inl ⟨rfl, rfl⟩
    next clear =>
      have fit : options.RootsFit disk := by
        refine ⟨by simpa using there, fun on held => ?_⟩
        simpa [on, held] using clear
      obtain ⟨index, ⟨entry, held, fails⟩, earlier⟩ := validateEntries_eq_error_iff.1 failed
      rw [Nat.zero_add] at fails
      exact Or.inr ⟨index, fit, ⟨entry, held, fails⟩, earlier⟩

theorem validate_of_firstFailing {options : Options} {index : Nat} {failure : Failure}
    (fit : options.RootsFit disk) (first : options.FirstFailing disk index failure) :
    options.validate disk = .error failure := by
  obtain ⟨entry, held, fails⟩ := first.fails
  rw [validate_of_rootsFit fit]
  refine validateEntries_eq_error_iff.2 ⟨index, ⟨entry, held, ?_⟩, first.earlier⟩
  rw [Nat.zero_add]
  exact fails

end Options

variable {options : Options} {disk : Disk}

theorem plan_eq_error {failure : Failure} (failed : options.plan disk = .error failure) :
    options.validate disk = .error failure ∨ ∃ path cause, failure = .templateLoad path cause := by
  unfold Options.plan at failed
  cases validated : options.validate disk with
  | error cause =>
    rw [validated] at failed
    cases failed
    exact Or.inl rfl
  | ok rules =>
    rw [validated] at failed
    cases loaded : TemplateStore.ofRules disk rules with
    | error cause =>
      simp only [bind, Except.bind, loaded] at failed
      cases failed
      obtain ⟨_, rule, _, _, _, _, stops⟩ := TemplateStore.loadRules_eq_error_iff.1 loaded
      obtain ⟨_, reason, _, rfl⟩ := TemplateStore.load_eq_error_iff.1 stops
      exact Or.inr ⟨_, reason, rfl⟩
    | ok templates =>
      simp only [bind, Except.bind, loaded] at failed
      cases failed

theorem prepareOutput_eq_error {after : Disk} {failure : Failure}
    (failed : options.prepareOutput disk = (after, some failure)) :
    ∃ cause, failure = .creating options.output.display cause := by
  unfold Options.prepareOutput at failed
  split at failed
  · obtain ⟨_, cause, _, rfl⟩ := Plan.ensureDirectory_eq_error failed
    exact ⟨cause, rfl⟩
  · cases failed

/-! ## Walks -/

theorem Plan.traces_isConfiguration (plan : Plan) : plan.Traces (fun _ => True) (fun _ => True)
    (fun _ _ => True) (fun _ failure _ => failure.isConfiguration = false) where
  refl _ := trivial
  trans _ _ _ _ _ := trivial
  keeps _ _ _ _ := trivial
  child _ _ _ _ _ _ := trivial
  cycle _ _ _ := rfl
  listing _ _ failed := by
    obtain ⟨cause, rfl⟩ := list_eq_error failed
    rfl
  visit := by
    intro call progress listing _ _ _
    cases visited : plan.visit call.directory call.output call.package listing.files progress with
    | ok final => trivial
    | error failed =>
      obtain ⟨failure, after⟩ := failed
      refine ⟨progress, trivial, ?_⟩
      cases visitFails_of_visit visited <;> rfl

theorem Plan.walk_isConfiguration {plan : Plan} {fuel : Nat} {ancestors : List (List Path.Part)}
    {directory output : Path} {package : String} {progress after : Progress} {failure : Failure}
    (failed : plan.walk fuel ancestors directory output package progress = .error (failure, after)) :
    failure.isConfiguration = false := by
  have ends := plan.traces_isConfiguration.walk_ends fuel ⟨ancestors, directory, output, package⟩
    progress trivial trivial
  unfold walkFrom at ends
  rw [failed] at ends
  obtain ⟨_, _, stops⟩ := ends
  exact stops

/-! ## Runs -/

theorem isConfiguration_of_unplanned {failure : Failure}
    (unplanned : options.plan disk = .error failure) : failure.isConfiguration = true := by
  rcases plan_eq_error unplanned with invalid | ⟨_, _, rfl⟩
  · rcases Options.validate_eq_error invalid with ⟨early, _⟩ | ⟨index, _, first⟩
    · exact early
    · obtain ⟨_, _, fails⟩ := first.fails
      exact Failure.isConfiguration_of_subject? fails.subject?
  · rfl

theorem Ended.isConfiguration {plan : Plan} {after : Disk} {failure : Failure}
    (ended : Ended options disk plan (.error failure, after)) : failure.isConfiguration = false := by
  cases ended with
  | unprepared _ unready =>
    obtain ⟨cause, rfl⟩ := prepareOutput_eq_error unready
    rfl
  | stopped _ _ stopped => exact Plan.walk_isConfiguration stopped

theorem generate_of_unplanned {failure : Failure} (busy : options.isIdle disk = false)
    (unplanned : options.plan disk = .error failure) :
    generate options disk = (.error failure, disk) := by
  unfold Options.isIdle at busy
  unfold generate
  rw [busy, if_neg Bool.false_ne_true, unplanned]

/-- A run fails in planning, which leaves the disk alone, or with a plan. -/
theorem generate_eq_error {after : Disk} {failure : Failure}
    (failed : generate options disk = (.error failure, after)) :
    options.plan disk = .error failure ∧ after = disk ∨
      ∃ plan, options.plan disk = .ok plan ∧ Ended options disk plan (.error failure, after) := by
  cases busy : options.isIdle disk with
  | true =>
    rw [generate_idle options disk busy] at failed
    cases failed
  | false =>
    cases planned : options.plan disk with
    | error cause =>
      rw [generate_of_unplanned busy planned] at failed
      cases failed
      exact Or.inl ⟨rfl, rfl⟩
    | ok plan => exact Or.inr ⟨plan, rfl, failed ▸ generate_ended planned⟩

theorem generate_of_firstFailing {index : Nat} {failure : Failure} (fit : options.RootsFit disk)
    (first : options.FirstFailing disk index failure) :
    generate options disk = (.error failure, disk) := by
  have unplanned : options.plan disk = .error failure := by
    unfold Options.plan
    rw [Options.validate_of_firstFailing fit first]
    rfl
  refine generate_of_unplanned ?_ unplanned
  obtain ⟨entry, held, _⟩ := first.fails
  have ruled : options.packages ≠ [] := by
    intro none
    rw [none] at held
    cases held
  simp [Options.isIdle, ruled, Disk.holds_of_isDirectory fit.source]

/-- A failure of the configuration leaves the disk as it was, and no walk ends with one.  One that
speaks of an entry speaks of the first entry that fails, and of the first check that it fails. -/
theorem configuration_fails_first (options : Options) (disk : Disk) :
    (∀ failure after, generate options disk = (.error failure, after) →
      failure.isConfiguration = true → after = disk) ∧
    (∀ (plan : Plan) (fuel : Nat) (ancestors : List (List Path.Part)) (directory output : Path)
      (package : String) (progress after : Progress) (failure : Failure),
      plan.walk fuel ancestors directory output package progress = .error (failure, after) →
        failure.isConfiguration = false) ∧
    ∀ failure index, failure.subject? = some index →
      ((generate options disk).1 = .error failure ↔
        options.RootsFit disk ∧ options.FirstFailing disk index failure) := by
  refine ⟨?_, fun _ _ _ _ _ _ _ _ _ => Plan.walk_isConfiguration, ?_⟩
  · intro failure after failed early
    rcases generate_eq_error failed with ⟨_, same⟩ | ⟨plan, _, ended⟩
    · exact same
    · exact Bool.noConfusion (early.symm.trans ended.isConfiguration)
  · intro failure index speaks
    constructor
    · intro failed
      have early := Failure.isConfiguration_of_subject? speaks
      have whole : generate options disk = (.error failure, (generate options disk).2) := by
        rw [← failed]
      rcases generate_eq_error whole with ⟨planned, _⟩ | ⟨plan, _, ended⟩
      · rcases plan_eq_error planned with invalid | ⟨_, _, rfl⟩
        · rcases Options.validate_eq_error invalid with ⟨_, silent⟩ | ⟨found, fit, first⟩
          · rw [silent] at speaks
            cases speaks
          · obtain ⟨_, _, fails⟩ := first.fails
            have same := fails.subject?.symm.trans speaks
            cases same
            exact ⟨fit, first⟩
        · cases speaks
      · exact Bool.noConfusion (early.symm.trans ended.isConfiguration)
    · rintro ⟨fit, first⟩
      rw [generate_of_firstFailing fit first]

namespace Sample

/-- The second entry has no template, and the third one neither pattern nor template. -/
def faulty : Options :=
  { plain with packages := plain.packages ++ [{ pattern := some "a.*" }, {}] }

end Sample

theorem configuration_fails_first_sample :
    (generate Sample.faulty Sample.fresh).1 = .error (.missingTemplate 1) ∧
      (generate Sample.faulty Sample.fresh).2 = Sample.fresh ∧
      Sample.faulty.FirstFailing Sample.fresh 1 (.missingTemplate 1) :=
  ⟨rfl, (configuration_fails_first Sample.faulty Sample.fresh).1 (.missingTemplate 1) _ rfl rfl,
    (((configuration_fails_first Sample.faulty Sample.fresh).2.2 (.missingTemplate 1) 1 rfl).1
      rfl).2⟩

end PackageDoc
