import PackageDoc.Proofs.Run.Basic
import PackageDoc.Proofs.Run.Plan
import PackageDoc.Proofs.Walk.Real

/-! # Runs that write, on trees without links

Preparing a run makes no more than directories, after which both roots are directories at the places
that their paths name.  From there the walk visits the sites in order. -/
set_option autoImplicit false

namespace PackageDoc
open PackageDoc.Text

/-- Source and output are at different places, neither in the other, and the marker file is named by
a single name. -/
structure Options.Separated (options : Options) (disk : Disk) : Prop where
  apart : Disk.Apart (disk.place options.source) (disk.place options.output)
  marker : Path.IsName (bytes options.markerFile)

instance (options : Options) (disk : Disk) : Decidable (options.Separated disk) :=
  decidable_of_iff (Disk.Apart (disk.place options.source) (disk.place options.output) ∧
    Path.IsName (bytes options.markerFile))
    ⟨fun both => ⟨both.1, both.2⟩, fun separated => ⟨separated.apart, separated.marker⟩⟩

namespace Disk
variable {disk : Disk}

theorem rooted_of_isDirectory (tree : disk.IsTree) (plain : disk.Plain) {path : Path}
    (directory : disk.isDirectory path = true) : disk.Rooted path (disk.place path) := by
  obtain ⟨location, located, held⟩ := find?_eq_some_iff.1 (isDirectory_iff.1 directory)
  have leads := (plain.locate_eq_ok_iff.1 located).2
  obtain rfl := leads.eq_place
  exact ⟨tree, plain, leads, held⟩

theorem rooted_of_empty (tree : disk.IsTree) (plain : disk.Plain) {path : Path}
    (empty : path.bytes = []) : disk.Rooted path (disk.place path) := by
  obtain ⟨bytes⟩ := path
  obtain rfl : bytes = [] := empty
  exact ⟨tree, plain, rfl, tree.current⟩

end Disk

/-- What preparing a run leaves: the same disk, or one on which the output directory is new. -/
structure Prepares (options : Options) (disk prepared : Disk) : Prop where
  tree : prepared.IsTree
  paved : Disk.Paved disk prepared
  output : options.generate = true → options.dryRun = false →
    options.output.bytes = [] ∨ prepared.isDirectory options.output = true
  still : prepared = disk ∨ options.generate = true ∧ options.output.bytes ≠ [] ∧
    disk.holds options.output = false

theorem prepares_of_prepareOutput {options : Options} {disk prepared : Disk} (tree : disk.IsTree)
    {rules : List Rule} (validated : options.validate disk = .ok rules)
    (ready : options.prepareOutput disk = (prepared, none)) : Prepares options disk prepared := by
  unfold Options.prepareOutput at ready
  split at ready
  next writes =>
    have on := (Bool.and_eq_true_iff.1 writes).1
    unfold Plan.ensureDirectory at ready
    split at ready
    next held =>
      cases ready
      exact ⟨tree, Disk.Paved.refl disk,
        fun _ _ => Or.inr ((Options.validate_eq_ok_iff.1 validated).2.1 on held), Or.inl rfl⟩
    next missing =>
      split at ready
      next made run =>
        cases ready
        obtain ⟨extended, reached⟩ := Disk.createDirectories_extended tree run
        refine ⟨extended.tree, extended.paved, fun _ _ => reached rfl, ?_⟩
        by_cases empty : options.output.bytes = []
        · rw [Disk.createDirectories_of_empty disk empty] at run
          exact Or.inl (Prod.mk.inj run).1.symm
        · exact Or.inr ⟨on, empty, Bool.eq_false_iff.2 missing⟩
      next => cases ready
  next idle =>
    cases ready
    refine ⟨tree, Disk.Paved.refl disk, fun on real => ?_, Or.inl rfl⟩
    rw [on, real] at idle
    exact absurd rfl idle

/-! ## A run that writes -/

section Real
variable {options : Options} {disk prepared : Disk} {plan : Plan} {final : Progress}

theorem ready_of_prepares (plain : disk.Plain) (tree : disk.IsTree) (real : options.dryRun = false)
    {rules : List Rule} (validated : options.validate disk = .ok rules)
    (prepares : Prepares options disk prepared) (planned : plan.options = options) :
    plan.Ready (disk.place options.source) (disk.place options.output) prepared := by
  have keeps := prepares.paved.keeps
  have preparedPlain := prepares.paved.plain plain
  have source := Disk.rooted_of_isDirectory tree plain (Options.validate_eq_ok_iff.1 validated).1
  subst planned
  refine ⟨source.later prepares.tree preparedPlain keeps, fun on => ?_⟩
  rw [← Disk.place_congr prepares.paved.current]
  rcases prepares.output on real with empty | directory
  · exact Disk.rooted_of_empty prepares.tree preparedPlain empty
  · exact Disk.rooted_of_isDirectory prepares.tree preparedPlain directory

/-- A run that writes, told by its sites and by what is decided there on the prepared disk. -/
structure Enacts (options : Options) (disk prepared : Disk) (plan : Plan) (sites : List Plan.Site)
    (decisions : List Decision) (final : Progress) : Prop where
  prepares : Prepares options disk prepared
  ready : plan.Ready (disk.place options.source) (disk.place options.output) prepared
  scans : plan.Scans prepared Disk.pathLimit [] [] sites
  folded : sites.foldlM plan.visitSite { disk := prepared } = .ok final
  decided : plan.Decided prepared sites decisions
  told : final = plan.told { disk := prepared } final.disk sites decisions
  kept : plan.Kept (disk.place options.source) (disk.place options.output) prepared final.disk

theorem isFile_of_planned (planned : options.plan disk = .ok plan) :
    ∀ rule ∈ plan.rules, disk.isFile rule.template = true := by
  obtain ⟨rules, templates, validated, _, rfl⟩ := (plan_eq_ok_iff _ _ _).1 planned
  intro rule member
  obtain ⟨_, _, _, _, _, file⟩ :=
    Options.entry_of_mem_rules (Options.validate_eq_ok_iff.1 validated).2.2 rule member
  exact file

theorem Options.Separated.separates (separated : options.Separated disk)
    (same : plan.options = options) :
    plan.Separates (disk.place options.source) (disk.place options.output) := by
  subst same
  exact ⟨separated.apart, separated.marker⟩

theorem enacts_of_runs (tree : disk.IsTree) (plain : disk.Plain)
    (separated : options.Separated disk) (real : options.dryRun = false)
    (runs : Runs options disk plan prepared final) :
    ∃ sites decisions, Enacts options disk prepared plan sites decisions final := by
  have same := options_of_planned runs.planned
  obtain ⟨rules, templates, validated, _, whole⟩ := (plan_eq_ok_iff _ _ _).1 runs.planned
  have prepares := prepares_of_prepareOutput tree validated runs.ready
  have keeps := prepares.paved.keeps
  have ready := ready_of_prepares plain tree real validated prepares same
  have separates := separated.separates same
  have directory : prepared.isDirectory plan.options.source = true := by
    rw [same]
    exact Disk.isDirectory_of_keeps keeps (Options.validate_eq_ok_iff.1 validated).1
  obtain ⟨sites, scans⟩ := Plan.scans_source ready.source directory
  have isSite : ∀ site ∈ sites, plan.IsSite prepared site :=
    fun site => (Plan.mem_sites_iff prepares.tree scans site).1
  have templates : ∀ rule ∈ plan.rules, prepared.isFile rule.template = true :=
    fun rule member => Disk.isFile_of_keeps keeps (isFile_of_planned runs.planned rule member)
  have dryRun : plan.options.dryRun = false := by rw [same, real]
  have settles : ∀ site ∈ sites, plan.Settles
      (plan.Kept (disk.place options.source) (disk.place options.output) prepared) site := by
    intro site member progress after kept success
    obtain ⟨decision, _, _, leaves⟩ :=
      Plan.visitSite_leaves separates ready dryRun (isSite site member) kept success
    exact kept.of_leaves separates ready (isSite site member) leaves
  have folded := Plan.walk_eq_foldlM plan
    (plan.Kept (disk.place options.source) (disk.place options.output) prepared)
    (fun later kept => kept.listsAs ready) Disk.pathLimit [] [] sites scans .root settles
    { disk := prepared } (.refl ready)
  have walked := runs.walked
  rw [← same] at walked
  have success := folded.symm.trans walked
  have distinct := Plan.scans_distinct scans .root
  obtain ⟨decisions, decided, told, kept⟩ :=
    Plan.decided_of_real separates ready templates dryRun isSite distinct (.refl ready) success
  exact ⟨sites, decisions, prepares, ready, scans, success, decided, told, kept⟩

end Real
end PackageDoc
