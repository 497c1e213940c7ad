import PackageDoc.Proofs.Run.Prepared
import PackageDoc.Proofs.Walk.Quiet

/-! # A dry run predicts the real run

On a tree without links, with source and output apart, what a real run reports is what a dry run of
the same disk reports.  A real run makes the output directory first, though.  If that alone makes the
output path lead to a directory that was there before, the dry run has not seen the files in it. -/
set_option autoImplicit false

namespace PackageDoc
open PackageDoc.Text

/-- An output path that leads nowhere names a place at which nothing is. -/
def Options.OutputClear (options : Options) (disk : Disk) : Prop :=
  options.generate = true → options.output.bytes ≠ [] → disk.holds options.output = false →
    disk.node? (disk.place options.output) = none

variable {options : Options} {disk prepared : Disk} {plan : Plan}

/-! ## Before and after preparing -/

theorem noNewFiles_of_paved {root : Location} (paved : Disk.Paved disk prepared) :
    Disk.NoNewFiles root disk prepared := by
  refine ⟨paved.keeps, fun location content _ held => ?_⟩
  rcases paved.node location with same | ⟨_, made⟩
  · exact ⟨content, same ▸ held⟩
  · rw [made] at held
    cases held

theorem previous_none (plain : disk.Plain) {path : Path} {names : List Name}
    (proper : ∀ name ∈ names, Path.IsName name)
    (bare : disk.contentAt (disk.place path ++ names) = none) :
    Plan.previous disk (path.descend names) = .ok none := by
  rw [Plan.previous_eq]
  cases found : disk.find? (path.descend names) with
  | none => rfl
  | some node =>
    cases node with
    | directory => rfl
    | link target => rfl
    | file content =>
      obtain ⟨location, located, held⟩ := Disk.find?_eq_some_iff.1 found
      have place := (plain.locate_eq_ok_iff.1 located).2.eq_place
      rw [Disk.place_descend disk path proper] at place
      unfold Disk.contentAt at bare
      rw [← place, held] at bare
      cases bare

theorem contentAt_of_paved (paved : Disk.Paved disk prepared) (location : Location) :
    prepared.contentAt location = disk.contentAt location := by
  unfold Disk.contentAt
  rcases paved.node location with same | ⟨free, made⟩
  · rw [same]
  · rw [free, made]

/-- Preparing a run changes nothing that decisions read. -/
theorem decideSite_of_prepares (tree : disk.IsTree) (plain : disk.Plain)
    (separated : options.Separated disk) (clear : options.OutputClear disk)
    (planned : options.plan disk = .ok plan) (prepares : Prepares options disk prepared)
    {site : Plan.Site} (isSite : plan.IsSite disk site) :
    plan.decideSite prepared site = plan.decideSite disk site := by
  have same := options_of_planned planned
  rcases prepares.still with rfl | ⟨on, some, missing⟩
  · rfl
  have separates := separated.separates same
  have free := clear on some missing
  have keeps := prepares.paved.keeps
  have isDirectory : disk.isDirectory options.source = true := by
    obtain ⟨_, _, validated, _, _⟩ := (plan_eq_ok_iff _ _ _).1 planned
    exact (Options.validate_eq_ok_iff.1 validated).1
  have rooted : disk.Rooted plan.options.source (disk.place options.source) := by
    rw [same]
    exact Disk.rooted_of_isDirectory tree plain isDirectory
  refine Plan.decide_congr ⟨?_, ?_, ?_⟩ _
  · intro rule member
    obtain ⟨location, _, located, _⟩ := Disk.locate_of_isFile (isFile_of_planned planned rule member)
    exact Disk.key_of_keeps keeps located
  · intro file marked
    obtain ⟨located, held⟩ := Plan.locate_marker separates rooted isSite marked
    refine ⟨Disk.key_of_keeps keeps located, Disk.readText_of_keeps keeps located ?_⟩
    rcases prepares.paved.node (disk.place options.source ++ site.names ++
      [bytes plan.options.markerFile]) with equal | ⟨none, _⟩
    · exact equal
    · rw [none] at held
      cases held
  · intro _ _
    have proper := Path.isName_concat (isSite.visible.isName tree) separates.marker
    have fresh : plan.freshFile (plan.outputAt site.names) =
        options.output.descend (site.names ++ [bytes plan.options.markerFile]) := by
      rw [Path.descend_concat, ← same]
      rfl
    have bare : disk.contentAt (disk.place options.output ++
        (site.names ++ [bytes plan.options.markerFile])) = none := by
      unfold Disk.contentAt
      rw [tree.none_below (by simp) (by rw [free]; exact fun none => by cases none)]
    rw [fresh, previous_none plain proper bare, previous_none (prepares.paved.plain plain) proper]
    rw [Disk.place_congr prepares.paved.current, contentAt_of_paved prepares.paved, bare]

/-! ## The two reports -/

theorem isSite_withDryRun (dry : Bool) (site : Plan.Site) :
    (plan.withDryRun dry).IsSite disk site ↔ plan.IsSite disk site :=
  ⟨fun isSite => ⟨isSite.visible, isSite.listed, isSite.some⟩,
    fun isSite => ⟨isSite.visible, isSite.listed, isSite.some⟩⟩

/-- The dry run finds the sites of the real run and decides there what the real run decides. -/
theorem dry_walk_of_enacts (tree : disk.IsTree) (plain : disk.Plain)
    (separated : options.Separated disk) (clear : options.OutputClear disk)
    (planned : options.plan disk = .ok plan) {sites : List Plan.Site} {decisions : List Decision}
    {final : Progress} (enacts : Enacts options disk prepared plan sites decisions final) :
    (plan.withDryRun true).walk Disk.pathLimit [] options.source options.output ""
        { disk := disk } = .ok ⟨disk, final.visits, final.changes⟩ := by
  have same := options_of_planned planned
  have directory : disk.isDirectory options.source = true := by
    obtain ⟨_, _, validated, _, _⟩ := (plan_eq_ok_iff _ _ _).1 planned
    exact (Options.validate_eq_ok_iff.1 validated).1
  rw [← same] at directory ⊢
  have rooted : disk.Rooted (plan.withDryRun true).options.source
      (disk.place plan.options.source) := Disk.rooted_of_isDirectory tree plain directory
  have ready := enacts.ready.source
  rw [← same] at ready
  have isSite : ∀ site, (plan.withDryRun true).IsSite disk site ↔ plan.IsSite prepared site :=
    fun site => (Plan.isSite_iff_later rooted ready (noNewFiles_of_paved enacts.prepares.paved)
      site).trans (isSite_withDryRun true site)
  have decided : (plan.withDryRun true).Decided disk sites decisions := by
    refine Plan.forall₂_imp_of_mem enacts.decided fun site member decision decide => ?_
    have found := (Plan.mem_sites_iff enacts.prepares.tree enacts.scans site).1 member
    have early := (isSite_withDryRun true site).1 ((isSite site).2 found)
    rw [decideSite_of_prepares tree plain separated clear planned enacts.prepares early] at decide
    exact decide
  have walked := Plan.walk_of_decided rooted directory enacts.prepares.tree enacts.scans isSite
    decided fun _ _ => Or.inl rfl
  rw [enacts.told]
  exact walked

/-- On a tree without links, with source and output apart, a real run that succeeds reports what the
dry run of the same disk reports, unless making the output directory uncovers an old one. -/
theorem dry_run_predicts_real_run (options : Options) (disk after : Disk) (report : Report)
    (tree : disk.IsTree) (plain : disk.Plain) (separated : options.Separated disk)
    (clear : options.OutputClear disk)
    (success : generate (options.withDryRun false) disk = (.ok report, after)) :
    ∃ dry, generate (options.withDryRun true) disk = (.ok dry, disk) ∧
      dry.visits = report.visits ∧ dry.changes = report.changes := by
  cases busy : options.isIdle disk with
  | true =>
    rw [generate_idle (options.withDryRun false) disk busy] at success
    cases success
    exact ⟨_, generate_idle (options.withDryRun true) disk busy, rfl, rfl⟩
  | false =>
    obtain ⟨plan, prepared, final, runs, rfl, _⟩ :=
      (generate_eq_ok_iff (options.withDryRun false) disk busy report after).1 success
    have apart : (options.withDryRun false).Separated disk := ⟨separated.apart, separated.marker⟩
    obtain ⟨sites, decisions, enacts⟩ := enacts_of_runs tree plain apart rfl runs
    have walked := dry_walk_of_enacts tree plain apart clear runs.planned enacts
    refine ⟨⟨true, final.visits, final.changes⟩, ?_, rfl, rfl⟩
    rw [generate_eq_ok_iff (options.withDryRun true) disk busy]
    exact ⟨_, _, _, ⟨(plan_withDryRun runs.planned true).1, prepareOutput_of_dry rfl disk, walked⟩,
      rfl, rfl⟩

theorem dry_run_predicts_real_run_sample :
    ∃ dry, generate (Sample.plain.withDryRun true) Sample.fresh = (.ok dry, Sample.fresh) ∧
      dry.visits = Sample.pending.visits ∧ dry.changes = Sample.pending.changes :=
  dry_run_predicts_real_run Sample.plain Sample.fresh Sample.settled
    ⟨false, Sample.pending.visits, Sample.pending.changes⟩ (by decide) (by decide) (by decide)
    (fun _ _ missing => absurd missing (by decide)) rfl

namespace Sample

/-- The output file of the root package is there. -/
def written : Disk where
  entries := [([bytes "out"], .directory), ([bytes "out", bytes "package-info.java"], .file []),
    ([bytes "src"], .directory), ([bytes "src", bytes "A.java"], .file []),
    ([bytes "t"], .file (bytes "package q;"))]
  current := []
  ordered := by unfold Ordered; decide

/-- The output path leads nowhere until its first name is made. -/
def detour : Options where
  source := .ofString "src"
  output := .ofString "x/../out"
  packages := [{ pattern := some "**", template := some (.ofString "t") }]

end Sample

theorem dry_run_misses_uncovered_output :
    Sample.written.IsTree ∧ Sample.written.Plain ∧ Sample.detour.Separated Sample.written ∧
      ∃ real dry, (generate (Sample.detour.withDryRun false) Sample.written).1 = .ok real ∧
        (generate (Sample.detour.withDryRun true) Sample.written).1 = .ok dry ∧
        dry.visits ≠ real.visits ∧ dry.changes ≠ real.changes := by
  refine ⟨by decide, by decide, by decide, _, _, rfl, rfl, ?_, ?_⟩
  · decide
  · decide

end PackageDoc
