import PackageDoc.Proofs.Run.Loaded
import PackageDoc.Proofs.Run.Visits
import PackageDoc.Proofs.Walk.Arises

/-! # Reports agree with themselves

The changes of a report are announced by its visits that write, one by one and in order, and no other
visit writes.  What a visit says of its rule and of its outcome follows from the options: the rule is
the first that claims the package, and an outcome occurs only under the switch that asks for it. -/
set_option autoImplicit false

namespace PackageDoc
open PackageDoc.Text

/-! ## Changes -/

namespace Plan

/-- Visits and changes were added, and the visits announce the changes. -/
def AddsAnnounced (before after : Progress) : Prop :=
  ∃ visits changes, after.visits = before.visits ++ visits ∧
    after.changes = before.changes ++ changes ∧ List.Forall₂ Announces (writing visits) changes

theorem AddsAnnounced.none {before after : Progress} (visits : after.visits = before.visits)
    (changes : after.changes = before.changes) : AddsAnnounced before after := by
  refine ⟨[], [], ?_, ?_, .nil⟩
  · simp [visits]
  · simp [changes]

theorem AddsAnnounced.trans {first second third : Progress} (one : AddsAnnounced first second)
    (other : AddsAnnounced second third) : AddsAnnounced first third := by
  obtain ⟨visits, changes, grown, more, announced⟩ := one
  obtain ⟨later, others, growing, further, announces⟩ := other
  refine ⟨visits ++ later, changes ++ others, ?_, ?_, ?_⟩
  · simp [growing, grown]
  · simp [further, more]
  · exact announced_append announced announces

theorem visit_addsAnnounced (plan : Plan) (directory output : Path) (package : String)
    (files : List Name) (progress : Progress) :
    AddsAnnounced progress (left (plan.visit directory output package files progress)) := by
  cases visited : plan.visit directory output package files progress with
  | error failed =>
    cases visit_eq_error visited with
    | inl undecided =>
      exact .none (by rw [left, undecided.2]) (by rw [left, undecided.2])
    | inr unwritten =>
      obtain ⟨_, _, _, _, _, same⟩ := unwritten
      exact .none (by rw [left, same]) (by rw [left, same])
  | ok final =>
    obtain ⟨decision, after, decided, _, rfl⟩ := (plan.visit_eq_ok_iff _ _ _ _ _ _).1 visited
    have decides := (plan.decide_eq_ok_iff _ _ _ _ _).1 decided
    refine ⟨[_], decision.change.toList, rfl, rfl, ?_⟩
    cases decides_change decides directory with
    | inl reads =>
      simp [writing, reads]
    | inr writes =>
      obtain ⟨change, changes, announces⟩ := writes
      simpa [writing, announces.writes, changes] using announces

theorem walk_addsAnnounced (plan : Plan) (fuel : Nat) (ancestors : List (List Path.Part))
    (directory output : Path) (package : String) (progress : Progress) :
    AddsAnnounced progress
      (left (plan.walk fuel ancestors directory output package progress)) :=
  left_walk plan AddsAnnounced (fun _ => .none rfl rfl) AddsAnnounced.trans
    plan.visit_addsAnnounced fuel ancestors directory output package progress

end Plan

/-- The files of announced changes are those that the visits speak of. -/
theorem files_of_announced {visits : List Visit} {changes : List Change}
    (announced : List.Forall₂ Plan.Announces visits changes) :
    visits.map (·.outcome.file?) = (changes.map (·.file)).map some := by
  induction announced with
  | nil => rfl
  | cons one _ ih => simp [one.file, ih]

/-! ## Rules and switches -/

namespace Options

/-- The entry at an index claims a package, and no earlier one does. -/
structure FirstClaims (options : Options) (package : String) (index : Nat) : Prop where
  claims : ∃ entry, options.packages[index]? = some entry ∧ entry.claims package = true
  first : ∀ earlier < index, ∀ entry, options.packages[earlier]? = some entry →
    entry.claims package = false

/-- Whether the switches of the options can lead to an outcome. -/
def Allows (options : Options) : Outcome → Prop
  | .noMatch => True
  | .generated _ | .generatedUpToDate _ => options.generate = true
  | .generateDisabled => options.generate = false
  | .replaced _ | .markerUpToDate _ | .markerNotFound _ | .templateSource _ =>
    options.inline = true
  | .skipExisting _ => options.inline = false

/-- A visit whose rule and outcome agree with each other and with the options. -/
structure Coherent (options : Options) (visit : Visit) : Prop where
  unruled : visit.rule = none ↔ visit.outcome = .noMatch
  ruled : ∀ index, visit.rule = some index → options.FirstClaims visit.package index
  allowed : options.Allows visit.outcome

theorem firstClaims_of_findIdx? {options : Options} {package : String} {index : Nat}
    (found : options.packages.findIdx? (·.claims package) = some index) :
    options.FirstClaims package index := by
  obtain ⟨inside, claims, first⟩ := List.findIdx?_eq_some_iff_getElem.1 found
  constructor
  · exact ⟨options.packages[index], List.getElem?_eq_getElem inside, claims⟩
  · intro earlier before entry held
    obtain ⟨_, rfl⟩ := List.getElem?_eq_some_iff.1 held
    simpa using first earlier before

end Options

namespace Plan
variable {plan : Plan} {disk : Disk} {package : String} {output : Path} {marker : Option Path}
  {decision : Decision}

theorem allows_of_decides (decides : plan.Decides disk package output marker decision) :
    plan.options.Allows decision.outcome := by
  cases decides with
  | noMatch => trivial
  | generateDisabled _ off => exact off
  | generatedUpToDate _ on => exact on
  | generated _ on => exact on
  | skipExisting _ off => exact off
  | templateSource _ on => exact on
  | markerNotFound _ on => exact on
  | markerUpToDate _ on => exact on
  | replaced _ on => exact on

theorem unruled_of_decides (decides : plan.Decides disk package output marker decision) :
    decision.rule = none ↔ decision.outcome = .noMatch := by
  cases decides with
  | noMatch => simp
  | _ => simp

end Plan

/-! ## Reports -/

/-- Each visit of a run that succeeds comes about in its walk. -/
theorem Runs.arises {options : Options} {disk : Disk} {plan : Plan} {prepared : Disk}
    {final : Progress} (runs : Runs options disk plan prepared final) :
    ∀ visit ∈ final.visits, plan.Arises disk visit := by
  intro visit member
  have becomes := prepareOutput_becomes options disk
  rw [runs.ready] at becomes
  cases Plan.walk_arises Disk.pathLimit [] options.source options.output "" becomes runs.walked
    visit member with
  | inl before => cases before
  | inr arises => exact arises

theorem coherent_of_arises {options : Options} {disk : Disk} {plan : Plan}
    (planned : options.plan disk = .ok plan) {visit : Visit}
    (arises : plan.Arises disk visit) : options.Coherent visit := by
  obtain ⟨later, listing, output, change, _, _, decides⟩ := arises
  obtain ⟨rules, templates, validated, _, rfl⟩ := (plan_eq_ok_iff _ _ _).1 planned
  have rule := Plan.decides_rule decides
  rw [← findIdx?_of_validate validated] at rule
  constructor
  · exact Plan.unruled_of_decides decides
  · intro index ruled
    apply Options.firstClaims_of_findIdx?
    rw [← rule]
    exact ruled
  · exact Plan.allows_of_decides decides

/-- The changes of a report are those of its visits that write, and its visits agree with the
options. -/
theorem report_is_consistent (options : Options) (disk : Disk) (report : Report)
    (success : (generate options disk).1 = .ok report) :
    List.Forall₂ Plan.Announces (writing report.visits) report.changes ∧
    (report.isClean = true ↔ report.count Outcome.isWrite = 0) ∧
    (writing report.visits).map (·.outcome.file?) = report.writtenFiles.map some ∧
    ∀ visit ∈ report.visits, options.Coherent visit := by
  have tells : List.Forall₂ Plan.Announces (writing report.visits) report.changes ∧
      ∀ visit ∈ report.visits, options.Coherent visit := by
    cases busy : options.isIdle disk with
    | true =>
      rw [generate_idle options disk busy] at success
      cases success
      exact ⟨.nil, fun _ member => nomatch member⟩
    | false =>
      obtain ⟨plan, prepared, final, runs, rfl, _⟩ :=
        (generate_eq_ok_iff options disk busy report _).1 (generate_report success)
      have adds := plan.walk_addsAnnounced Disk.pathLimit [] options.source options.output ""
        { disk := prepared }
      rw [runs.walked] at adds
      obtain ⟨visits, changes, grown, more, announced⟩ := adds
      rw [List.nil_append] at grown more
      constructor
      · dsimp only [Plan.left] at grown more
        rw [grown, more]
        exact announced
      · intro visit member
        exact coherent_of_arises runs.planned (runs.arises visit member)
  obtain ⟨announced, coherent⟩ := tells
  refine ⟨announced, ?_, files_of_announced announced, coherent⟩
  have length : report.count Outcome.isWrite = report.changes.length := announced.length_eq
  rw [length, Report.isClean, List.isEmpty_iff, List.length_eq_zero_iff]

namespace Sample

/-- Packages without a rule, with a region and without a marker file. -/
def mixed : Disk where
  entries := [([bytes "src"], .directory), ([bytes "src", bytes "A.java"], .file []),
    ([bytes "src", bytes "a"], .directory),
    ([bytes "src", bytes "a", bytes "package-info.java"], .file (bytes "//<replace>//</replace>")),
    ([bytes "src", bytes "b"], .directory), ([bytes "src", bytes "b", bytes "B.java"], .file []),
    ([bytes "t"], .file (bytes "package q;"))]
  current := []
  ordered := by unfold Ordered; decide

/-- Rules for two packages, the later one twice. -/
def selective : Options where
  source := .ofString "src"
  output := .ofString "out"
  packages := [{ pattern := some "b", template := some (.ofString "t") },
    { pattern := some "a", template := some (.ofString "t") },
    { pattern := some "?", template := some (.ofString "t") }]

def selected : Report where
  dryRun := false
  visits := [⟨.ofString "src", "", none, .noMatch⟩,
    ⟨.ofString "src/a", "a", some 1, .replaced (.ofString "src/a/package-info.java")⟩,
    ⟨.ofString "src/b", "b", some 0, .generated (.ofString "out/b/package-info.java")⟩]
  changes := [⟨.ofString "src/a/package-info.java", "a", some "//<replace>//</replace>",
      "//<replace>package a;//</replace>"⟩,
    ⟨.ofString "out/b/package-info.java", "b", none, "package b;"⟩]

end Sample

theorem report_is_consistent_sample :
    List.Forall₂ Plan.Announces (writing Sample.selected.visits) Sample.selected.changes ∧
      (Sample.selected.isClean = true ↔ Sample.selected.count Outcome.isWrite = 0) ∧
      (writing Sample.selected.visits).map (·.outcome.file?) =
        Sample.selected.writtenFiles.map some ∧
      ∀ visit ∈ Sample.selected.visits, Sample.selective.Coherent visit :=
  report_is_consistent Sample.selective Sample.mixed Sample.selected rfl

end PackageDoc
