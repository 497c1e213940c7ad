import PackageDoc.Proofs.Run.Prepared
import PackageDoc.Proofs.Template.Store
import PackageDoc.Proofs.Walk.Again
import PackageDoc.Proofs.Walk.Quiet

/-! # A second run

A run that succeeded leaves nothing to do: run again, it visits the same packages and writes nothing.
What this needs of the templates is that no run writes them and that none puts a closing marker between
the markers. -/
set_option autoImplicit false

namespace PackageDoc
open PackageDoc.Text

/-- What a visit is about: the directory, the package and the rule that claims it. -/
def Visit.subject (visit : Visit) : Path × String × Option Nat :=
  (visit.directory, visit.package, visit.rule)

/-- What the template of a visit's rule says for its package. -/
def Options.rendered? (options : Options) (disk : Disk) (visit : Visit) : Option String := do
  let index ← visit.rule
  let entry ← options.packages[index]?
  let template ← entry.template
  let text ← (disk.readText template).toOption
  return Declaration.rewrite text visit.package

/-- No template lies in the output directory. -/
def Options.TemplatesOutside (options : Options) (disk : Disk) : Prop :=
  ∀ entry ∈ options.packages, ∀ template ∈ entry.template,
    ¬ disk.place options.output <+: disk.place template

instance (options : Options) (disk : Disk) : Decidable (options.TemplatesOutside disk) :=
  inferInstanceAs (Decidable (∀ entry ∈ options.packages, ∀ template ∈ entry.template,
    ¬ disk.place options.output <+: disk.place template))

namespace Plan
variable {plan : Plan} {disk : Disk}

/-- What visits are about is told by their sites. -/
theorem subjects_of_decided {sites : List Site} {decisions : List Decision}
    (decided : plan.Decided disk sites decisions) :
    (List.zipWith plan.visitOf sites decisions).map Visit.subject = sites.map fun site =>
      (plan.directoryAt site.names, packageOf site.names,
        (Rule.find? plan.rules (packageOf site.names)).map (·.index)) := by
  induction decided with
  | nil => rfl
  | cons one _ ih =>
    have rule := decides_rule ((decide_eq_ok_iff _ _ _ _ _ _).1 one)
    rw [List.zipWith_cons_cons, List.map_cons, List.map_cons, ih]
    congr 1
    simp only [Visit.subject, visitOf, rule]

end Plan

section Again
variable {options : Options} {disk prepared : Disk} {plan : Plan} {sites : List Plan.Site}
  {decisions : List Decision} {final : Progress}

/-- A rendered template without a closing marker encloses the body of its site. -/
theorem enclosed_of_rendered (planned : options.plan disk = .ok plan)
    (enacts : Enacts options disk prepared plan sites decisions final)
    (enclosed : ∀ visit ∈ final.visits, ∀ rendered ∈ options.rendered? disk visit,
      Marker.Lacks Marker.closeTag (Unicode.trim rendered.toList)) :
    ∀ site ∈ sites, plan.Enclosed prepared site := by
  intro site member rule template claimed loaded
  obtain ⟨rules, templates, validated, stored, rfl⟩ := (plan_eq_ok_iff _ _ _).1 planned
  have entries := (Options.validate_eq_ok_iff.1 validated).2.2
  have inRules : rule ∈ rules := List.mem_of_find?_eq_some claimed
  obtain ⟨decision, decided, visited⟩ := enacts.decided.visited site member
  have visited : Plan.visitOf ⟨options, rules, templates⟩ site decision ∈ final.visits := by
    rw [enacts.told]
    exact visited
  obtain ⟨index, entry, held, shifted, given, _⟩ := Options.entry_of_mem_rules entries rule inRules
  obtain ⟨text, got, read⟩ :=
    TemplateStore.get_eq_readText stored inRules (isFile_of_planned planned rule inRules)
  have same : text = template := by
    have again := Plan.get_of_keeps (isFile_of_planned planned) enacts.prepares.paved.keeps claimed
    rw [loaded, got] at again
    exact (Except.ok.inj again).symm
  subst same
  have rule := Plan.decides_rule ((Plan.decide_eq_ok_iff _ _ _ _ _ _).1 decided)
  rw [claimed, Option.map_some, shifted, Nat.zero_add] at rule
  have rendered : options.rendered? disk (Plan.visitOf ⟨options, rules, templates⟩ site decision) =
      some (Declaration.rewrite text (Plan.packageOf site.names)) := by
    unfold Options.rendered? Plan.visitOf
    simp only [bind, Option.bind, rule, held, given, read, Except.toOption, pure]
  unfold Plan.body
  rw [String.toList_ofList]
  exact enclosed _ visited _ rendered

/-- A run that writes leaves the template of each rule where and as it is. -/
theorem template_of_enacts (plain : disk.Plain)
    (separated : options.Separated disk) (real : options.dryRun = false)
    (outside : options.TemplatesOutside disk) (planned : options.plan disk = .ok plan)
    (enacts : Enacts options disk prepared plan sites decisions final) :
    ∀ rule ∈ plan.rules, final.disk.key rule.template = disk.key rule.template ∧
      final.disk.readText rule.template = disk.readText rule.template := by
  intro rule member
  have same := options_of_planned planned
  have paved := enacts.prepares.paved
  have keeps := paved.keeps.trans enacts.kept.keeps
  obtain ⟨location, content, located, held⟩ :=
    Disk.locate_of_isFile (isFile_of_planned planned rule member)
  obtain ⟨rules, templates, validated, stored, rfl⟩ := (plan_eq_ok_iff _ _ _).1 planned
  have entries := (Options.validate_eq_ok_iff.1 validated).2.2
  have place : disk.place rule.template = location :=
    (plain.locate_eq_ok_iff.1 located).2.eq_place.symm
  have apart : ¬ disk.place options.output <+: location := by
    obtain ⟨index, entry, found, _, given, _⟩ := Options.entry_of_mem_rules entries rule member
    rw [← place]
    exact outside entry (List.mem_of_getElem? found) rule.template given
  have prepared_located := Disk.locate_of_keeps paved.keeps located
  have prepared_held : prepared.node? location = some (.file content) := by
    rcases paved.node location with equal | ⟨free, _⟩
    · rw [equal, held]
    · rw [free] at held
      cases held
  have loaded : (templates.find? (prepared.key rule.template)).isSome = true := by
    rw [Disk.key_of_keeps paved.keeps located]
    exact (TemplateStore.loadRules_eq_ok stored).2.2 rule member
  have separates := separated.separates same
  have areSites := fun site => (Plan.mem_sites_iff enacts.prepares.tree enacts.scans site).1
  have final_held := Plan.file_of_visits separates enacts.ready real
    (fun site isSite disk decision change kept decided changes => Plan.template_ne_target separates
      enacts.ready loaded prepared_located apart isSite kept decided changes)
    areSites (.refl enacts.ready) prepared_held enacts.folded
  exact ⟨Disk.key_of_keeps keeps located,
    Disk.readText_of_keeps keeps located (final_held.trans held.symm)⟩

/-- After a run that writes the same plan is made. -/
theorem plan_of_enacts (plain : disk.Plain)
    (separated : options.Separated disk) (real : options.dryRun = false)
    (outside : options.TemplatesOutside disk) (planned : options.plan disk = .ok plan)
    (enacts : Enacts options disk prepared plan sites decisions final) :
    options.plan final.disk = .ok plan := by
  have templates := template_of_enacts plain separated real outside planned enacts
  have keeps := enacts.prepares.paved.keeps.trans enacts.kept.keeps
  obtain ⟨rules, store, validated, stored, rfl⟩ := (plan_eq_ok_iff _ _ _).1 planned
  obtain ⟨source, _, entries⟩ := Options.validate_eq_ok_iff.1 validated
  refine (plan_eq_ok_iff _ _ _).2 ⟨rules, store, Options.validate_eq_ok_iff.2
    ⟨Disk.isDirectory_of_keeps keeps source, ?_, Options.validateEntries_of_keeps keeps entries⟩,
    ?_, rfl⟩
  · intro on held
    rcases enacts.prepares.output on real with empty | directory
    · rw [Disk.holds_of_empty _ empty] at held
      cases held
    · exact Disk.isDirectory_of_keeps enacts.kept.keeps directory
  · unfold TemplateStore.ofRules at stored ⊢
    rw [TemplateStore.loadRules_congr templates, stored]

theorem prepareOutput_of_enacts (real : options.dryRun = false)
    (enacts : Enacts options disk prepared plan sites decisions final) :
    options.prepareOutput final.disk = (final.disk, none) := by
  cases on : options.generate with
  | false => exact prepareOutput_of_ready _ _ (Or.inr on)
  | true =>
    rcases enacts.prepares.output on real with empty | directory
    · unfold Options.prepareOutput Plan.ensureDirectory
      rw [Disk.createDirectories_of_empty _ empty]
      split
      · split <;> rfl
      · rfl
    · have held := Disk.isDirectory_of_keeps enacts.kept.keeps directory
      exact prepareOutput_of_ready _ _ (Or.inl (Disk.holds_of_isDirectory held))

end Again

/-- A second run visits what the first one visited and writes nothing. -/
theorem second_run_writes_nothing (options : Options) (disk after : Disk) (report : Report)
    (tree : disk.IsTree) (plain : disk.Plain) (real : options.dryRun = false)
    (pattern : options.markerPattern = MarkerPattern.default) (separated : options.Separated disk)
    (outside : options.TemplatesOutside disk)
    (enclosed : ∀ visit ∈ report.visits, ∀ rendered ∈ options.rendered? disk visit,
      Marker.Lacks Marker.closeTag (Unicode.trim rendered.toList))
    (success : generate options disk = (.ok report, after)) :
    ∃ again, generate options after = (.ok again, after) ∧
      again.visits.map Visit.subject = report.visits.map Visit.subject ∧ again.changes = [] ∧
      ∀ visit ∈ again.visits, visit.outcome.isWrite = false := by
  cases busy : options.isIdle disk with
  | true =>
    have idle := generate_idle options disk busy
    rw [idle] at success
    cases success
    exact ⟨_, idle, rfl, rfl, fun visit member => absurd member List.not_mem_nil⟩
  | false =>
    obtain ⟨plan, prepared, final, runs, rfl, rfl⟩ :=
      (generate_eq_ok_iff options disk busy report after).1 success
    obtain ⟨sites, decisions, enacts⟩ := enacts_of_runs tree plain separated real runs
    have same := options_of_planned runs.planned
    have ready := enacts.ready
    have kept := enacts.kept
    have isSite := fun site => (Plan.mem_sites_iff enacts.prepares.tree enacts.scans site).1
    have files : ∀ rule ∈ plan.rules, prepared.isFile rule.template = true := fun rule member =>
      Disk.isFile_of_keeps enacts.prepares.paved.keeps (isFile_of_planned runs.planned rule member)
    have rests := Plan.rests_of_visits (separated.separates same) ready files (by rw [same, real])
      (by rw [same, pattern]) isSite (enclosed_of_rendered runs.planned enacts enclosed)
      (Plan.scans_distinct enacts.scans .root) (.refl ready) enacts.folded
    obtain ⟨again, decided, unchanged, idle⟩ := Plan.exists_decided_of_rests rests
    have directory : final.disk.isDirectory options.source = true := by
      obtain ⟨_, _, validated, _, _⟩ := (plan_eq_ok_iff _ _ _).1 runs.planned
      exact Disk.isDirectory_of_keeps (enacts.prepares.paved.keeps.trans kept.keeps)
        (Options.validate_eq_ok_iff.1 validated).1
    have later : options.isIdle final.disk = false := by
      unfold Options.isIdle at busy ⊢
      rw [Bool.or_eq_false_iff] at busy
      rw [busy.1, Disk.holds_of_isDirectory directory]
      rfl
    rw [← same] at directory
    have walked := Plan.walk_of_decided kept.ready.source directory enacts.prepares.tree
      enacts.scans
      (fun site => (Plan.isSite_iff_later ready.source kept.ready.source kept.noNewFiles site).symm)
      decided fun site member => (rests site member).still
    rw [same] at walked
    refine ⟨⟨options.dryRun, _, _⟩, (generate_eq_ok_iff options _ later _ _).2 ⟨plan, final.disk, _,
      ⟨plan_of_enacts plain separated real outside runs.planned enacts,
        prepareOutput_of_enacts real enacts, walked⟩, rfl, rfl⟩, ?_, unchanged, idle⟩
    rw [enacts.told]
    exact (Plan.subjects_of_decided decided).trans (Plan.subjects_of_decided enacts.decided).symm

namespace Sample

/-- A package with a marked region below one without a marker file. -/
def marked : Disk where
  entries := [([bytes "out"], .directory), ([bytes "src"], .directory),
    ([bytes "src", bytes "A.java"], .file []), ([bytes "src", bytes "a"], .directory),
    ([bytes "src", bytes "a", bytes "package-info.java"], .file (bytes "//<replace>//</replace>")),
    ([bytes "t"], .file (bytes "package q;"))]
  current := []
  ordered := by unfold Ordered; decide

/-- What a run makes of it. -/
def renewed : Disk :=
  (marked.put [bytes "out", bytes "package-info.java"] (.file [])).put
    [bytes "src", bytes "a", bytes "package-info.java"]
    (.file (bytes "//<replace>package a;//</replace>"))

def renewal : Report where
  dryRun := false
  visits := [⟨.ofString "src", "", some 0, .generated (.ofString "out/package-info.java")⟩,
    ⟨.ofString "src/a", "a", some 0, .replaced (.ofString "src/a/package-info.java")⟩]
  changes := [⟨.ofString "out/package-info.java", "", none, ""⟩,
    ⟨.ofString "src/a/package-info.java", "a", some "//<replace>//</replace>",
      "//<replace>package a;//</replace>"⟩]

theorem renewal_enclosed : ∀ visit ∈ renewal.visits, ∀ rendered ∈ plain.rendered? marked visit,
    '/' ∉ Unicode.trim rendered.toList := by decide

end Sample

theorem second_run_writes_nothing_sample :
    ∃ again, generate Sample.plain Sample.renewed = (.ok again, Sample.renewed) ∧
      again.visits.map Visit.subject = Sample.renewal.visits.map Visit.subject ∧
      again.changes = [] ∧ ∀ visit ∈ again.visits, visit.outcome.isWrite = false :=
  second_run_writes_nothing Sample.plain Sample.marked Sample.renewed Sample.renewal (by decide)
    (by decide) rfl rfl (by decide) (by decide) (fun visit member rendered found =>
      Marker.lacks_of_not_mem (Sample.renewal_enclosed visit member rendered found)) rfl

end PackageDoc
