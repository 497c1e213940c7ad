import PackageDoc.Proofs.Walk.Lockstep

/-! # What a dry run says about a real one

On any disk, with links and with trees that lie in one another, a dry run without changes is a real
run that writes nothing, and a dry run with changes names the first change of the real run. -/
set_option autoImplicit false

namespace PackageDoc
open Plan

/-- A report begins with quiet visits, a visit that writes a file, and the change that this visit
makes. -/
structure Report.Begins (seen : List Visit) (visit : Visit) (change : Change) (report : Report) :
    Prop where
  first : FirstWrite seen visit change
  visits : seen ++ [visit] <+: report.visits
  changes : report.changes.head? = some change

theorem Report.begins_of_opens {seen : List Visit} {visit : Visit} {change : Change} {dryRun : Bool}
    {progress : Progress} (first : FirstWrite seen visit change)
    (opens : Opens seen visit change progress) :
    Begins seen visit change ⟨dryRun, progress.visits, progress.changes⟩ := by
  obtain ⟨rest, same⟩ := opens.changes
  exact ⟨first, opens.visits, by rw [← same]; rfl⟩

variable {options : Options} {disk : Disk}

/-- A dry run does what the real run does up to the first write. -/
theorem runs_together {plan : Plan} {prepared : Disk} {final : Progress}
    (ready : disk.holds options.output = true ∨ options.generate = false)
    (runs : Runs (options.withDryRun true) disk plan prepared final) :
    (options.withDryRun false).plan disk = .ok (plan.withDryRun false) ∧
      (options.withDryRun false).prepareOutput disk = (disk, none) ∧
      Together final ((plan.withDryRun false).walk Disk.pathLimit [] options.source options.output ""
        { disk := disk }) := by
  obtain ⟨planned, self⟩ := plan_withDryRun runs.planned false
  refine ⟨planned, prepareOutput_of_ready _ disk ready, ?_⟩
  have walked := runs.walked
  rw [(runs.dry_disk rfl).1, self] at walked
  exact walk_together plan Disk.pathLimit [] options.source options.output "" { disk := disk } final
    ⟨rfl, fun visit member => absurd member List.not_mem_nil⟩ walked

theorem begins_of_together (busy : options.isIdle disk = false)
    {plan : Plan} (planned : (options.withDryRun false).plan disk = .ok plan)
    (ready : (options.withDryRun false).prepareOutput disk = (disk, none))
    {seen : List Visit} {visit : Visit} {change : Change} (first : FirstWrite seen visit change)
    (opens : ∀ final, plan.walk Disk.pathLimit [] options.source options.output ""
      { disk := disk } = .ok final → Opens seen visit change final) :
    ∀ real after, generate (options.withDryRun false) disk = (.ok real, after) →
      real.Begins seen visit change := by
  intro real after success
  obtain ⟨realPlan, prepared, final, runs, rfl, _⟩ :=
    (generate_eq_ok_iff (options.withDryRun false) disk busy real after).1 success
  have samePlan : realPlan = plan := Except.ok.inj (runs.planned.symm.trans planned)
  have sameDisk : prepared = disk := (Prod.mk.inj (runs.ready.symm.trans ready)).1
  have walked := runs.walked
  rw [samePlan, sameDisk] at walked
  exact Report.begins_of_opens first (opens final walked)

theorem check_foretells_generate (options : Options) (disk : Disk) (report : Report)
    (ready : disk.holds options.output = true ∨ options.generate = false)
    (dry : (generate (options.withDryRun true) disk).1 = .ok report) :
    (report.isClean = true →
      ∃ real, generate (options.withDryRun false) disk = (.ok real, disk) ∧
        real.visits = report.visits ∧ real.changes = []) ∧
    (report.isClean = false →
      ∃ seen visit change, report.Begins seen visit change ∧
        ∀ real after, generate (options.withDryRun false) disk = (.ok real, after) →
          real.Begins seen visit change) := by
  cases busy : options.isIdle disk with
  | true =>
    have same := generate_idle (options.withDryRun true) disk busy
    rw [same] at dry
    cases dry
    refine ⟨fun _ => ⟨_, generate_idle (options.withDryRun false) disk busy, rfl, rfl⟩, ?_⟩
    intro dirty
    cases dirty
  | false =>
    obtain ⟨plan, prepared, final, runs, rfl, _⟩ :=
      (generate_eq_ok_iff (options.withDryRun true) disk busy report _).1
        (generate_report dry)
    obtain ⟨planned, prepares, together⟩ := runs_together ready runs
    rcases together with ⟨quiet, walked⟩ | ⟨seen, visit, change, first, opens, realOpens⟩
    · constructor
      · intro _
        refine ⟨⟨false, final.visits, final.changes⟩, ?_, rfl, quiet.changes⟩
        rw [generate_eq_ok_iff (options.withDryRun false) disk busy]
        exact ⟨_, _, _, ⟨planned, prepares, walked⟩, rfl, (runs.dry_disk rfl).2.symm⟩
      · intro dirty
        have clean : final.changes.isEmpty = true := by rw [quiet.changes]; rfl
        exact Bool.noConfusion (clean.symm.trans dirty)
    · constructor
      · intro clean
        have none : final.changes = [] := List.isEmpty_iff.1 clean
        have some := (@Report.begins_of_opens _ _ _ true _ first opens).changes
        rw [none] at some
        cases some
      · intro _
        exact ⟨seen, visit, change, Report.begins_of_opens first opens,
          begins_of_together busy planned prepares first realOpens⟩

theorem check_foretells_generate_sample :
    (∃ real, generate (Sample.plain.withDryRun false) Sample.settled = (.ok real, Sample.settled) ∧
      real.visits = Sample.upToDate.visits ∧ real.changes = []) ∧
    (∃ seen visit change, Sample.pending.Begins seen visit change ∧
      ∀ real after, generate (Sample.plain.withDryRun false) Sample.fresh = (.ok real, after) →
        real.Begins seen visit change) :=
  ⟨(check_foretells_generate Sample.plain Sample.settled Sample.upToDate (Or.inl (by decide))
      rfl).1 rfl,
    (check_foretells_generate Sample.plain Sample.fresh Sample.pending (Or.inl (by decide))
      rfl).2 rfl⟩

end PackageDoc
