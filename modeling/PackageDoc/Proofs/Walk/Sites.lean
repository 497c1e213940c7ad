import PackageDoc.Proofs.Walk.Scan

/-! # What is decided at the sites

The visits and changes of a walk are those of the decisions made at its sites.  A walk that writes
nothing makes all its decisions on one disk. -/
set_option autoImplicit false

namespace PackageDoc.Plan
open PackageDoc.Text

variable (plan : Plan)

/-- The marker file among the source files of a site. -/
def markerOf (site : Site) : Option Path :=
  (site.files.find? (· = bytes plan.options.markerFile)).map (plan.directoryAt site.names).child

def decideSite (disk : Disk) (site : Site) : Except Failure Decision :=
  plan.decide disk (packageOf site.names) (plan.markerOf site) (plan.outputAt site.names)

def visitOf (site : Site) (decision : Decision) : Visit :=
  ⟨plan.directoryAt site.names, packageOf site.names, decision.rule, decision.outcome⟩

def changesOf (decisions : List Decision) : List Change := decisions.flatMap (·.change.toList)

/-- The decisions made at sites, all on one disk. -/
def Decided (disk : Disk) (sites : List Site) (decisions : List Decision) : Prop :=
  List.Forall₂ (fun site decision => plan.decideSite disk site = .ok decision) sites decisions

/-- A progress with the visits and changes of further sites. -/
def told (progress : Progress) (disk : Disk) (sites : List Site) (decisions : List Decision) :
    Progress :=
  ⟨disk, progress.visits ++ List.zipWith plan.visitOf sites decisions,
    progress.changes ++ changesOf decisions⟩

variable {plan}

theorem markerOf_cases (plan : Plan) (site : Site) :
    (bytes plan.options.markerFile ∉ site.files ∧ plan.markerOf site = none) ∨
      bytes plan.options.markerFile ∈ site.files ∧ plan.markerOf site =
        some ((plan.directoryAt site.names).child (bytes plan.options.markerFile)) :=
  plan.markerAmong_cases (plan.directoryAt site.names) site.files

theorem markerOf_eq_some {site : Site} {file : Path} (marked : plan.markerOf site = some file) :
    bytes plan.options.markerFile ∈ site.files ∧
      file = (plan.directoryAt site.names).child (bytes plan.options.markerFile) := by
  rcases plan.markerOf_cases site with ⟨_, bare⟩ | ⟨member, same⟩
  · rw [bare] at marked
    cases marked
  · rw [same] at marked
    exact ⟨member, (Option.some.inj marked).symm⟩

theorem Decided.visited {disk : Disk} {sites : List Site} {decisions : List Decision}
    (decided : plan.Decided disk sites decisions) : ∀ site ∈ sites, ∃ decision,
      plan.decideSite disk site = .ok decision ∧
      plan.visitOf site decision ∈ List.zipWith plan.visitOf sites decisions := by
  induction decided with
  | nil => intro site member; exact absurd member List.not_mem_nil
  | @cons first decision sites decisions one _ ih =>
    intro site member
    rcases List.mem_cons.1 member with rfl | later
    · exact ⟨decision, one, List.mem_cons_self⟩
    · obtain ⟨other, decided, visited⟩ := ih site later
      exact ⟨other, decided, List.mem_cons_of_mem _ visited⟩

theorem visitSite_eq_ok_iff {progress final : Progress} {site : Site} :
    plan.visitSite progress site = .ok final ↔ ∃ decision disk,
      plan.decideSite progress.disk site = .ok decision ∧
      (if plan.options.dryRun then (progress.disk, none)
        else commit progress.disk (plan.outputAt site.names) decision) = (disk, none) ∧
      final = plan.told progress disk [site] [decision] := by
  unfold visitSite
  rw [visit_eq_ok_iff]
  simp only [told, changesOf, List.zipWith_cons_cons, List.zipWith_nil_right, List.flatMap_cons,
    List.flatMap_nil, List.append_nil]
  rfl

theorem told_told (progress : Progress) (middle disk : Disk) (site : Site) (sites : List Site)
    (decision : Decision) (decisions : List Decision) :
    plan.told (plan.told progress middle [site] [decision]) disk sites decisions =
      plan.told progress disk (site :: sites) (decision :: decisions) := by
  simp [told, changesOf]

/-- A site at which nothing is written. -/
def Still (plan : Plan) (disk : Disk) (site : Site) : Prop :=
  plan.options.dryRun = true ∨
    ∀ decision, plan.decideSite disk site = .ok decision → decision.change = none

theorem Still.written {disk : Disk} {site : Site} (still : plan.Still disk site)
    {decision : Decision} (decided : plan.decideSite disk site = .ok decision) :
    (if plan.options.dryRun then (disk, none)
      else commit disk (plan.outputAt site.names) decision) = (disk, none) := by
  split
  · rfl
  next real =>
    have none := still.resolve_left real decision decided
    unfold commit
    rw [none]

theorem settles_of_still {disk : Disk} {site : Site} (still : plan.Still disk site) :
    plan.Settles (· = disk) site := by
  rintro progress after rfl success
  obtain ⟨decision, disk, decided, written, rfl⟩ := visitSite_eq_ok_iff.1 success
  rw [still.written decided] at written
  exact (Prod.mk.inj written).1.symm

theorem forall₂_imp_of_mem {First Second : Type} {Related Wanted : First → Second → Prop}
    {items : List First} {others : List Second} (related : List.Forall₂ Related items others) :
    (∀ item ∈ items, ∀ other, Related item other → Wanted item other) →
      List.Forall₂ Wanted items others := by
  induction related with
  | nil => intro _; exact .nil
  | @cons item other items others one rest ih =>
    intro each
    exact .cons (each item List.mem_cons_self other one)
      (ih fun item member => each item (List.mem_cons_of_mem _ member))

/-- Decisions that write nothing are taken one after another on the same disk. -/
theorem foldlM_of_decided {disk : Disk} {sites : List Site} {decisions : List Decision}
    (decided : plan.Decided disk sites decisions) :
    (∀ site ∈ sites, plan.Still disk site) → ∀ progress : Progress, progress.disk = disk →
      sites.foldlM plan.visitSite progress = .ok (plan.told progress disk sites decisions) := by
  induction decided with
  | nil =>
    rintro _ ⟨_, visits, changes⟩ rfl
    rw [told, changesOf, List.zipWith_nil_left, List.flatMap_nil, List.append_nil, List.append_nil]
    rfl
  | @cons site decision sites decisions one rest ih =>
    rintro still progress rfl
    have idle := (still site List.mem_cons_self).written one
    have visited := visitSite_eq_ok_iff.2 ⟨decision, progress.disk, one, idle, rfl⟩
    rw [List.foldlM_cons, visited,
      ← told_told progress progress.disk progress.disk site sites decision decisions]
    exact ih (fun other member => still other (List.mem_cons_of_mem _ member)) _ rfl

/-- A dry walk makes all its decisions on the first disk. -/
theorem decided_of_dry (dry : plan.options.dryRun = true) : ∀ {sites : List Site}
    {progress final : Progress}, sites.foldlM plan.visitSite progress = .ok final →
      ∃ decisions, plan.Decided progress.disk sites decisions ∧
        final = plan.told progress progress.disk sites decisions := by
  intro sites
  induction sites with
  | nil =>
    intro progress final success
    refine ⟨[], .nil, ?_⟩
    have same : [].foldlM plan.visitSite progress = .ok (plan.told progress progress.disk [] []) :=
      foldlM_of_decided .nil (fun _ _ => Or.inl dry) progress rfl
    exact Except.ok.inj (success.symm.trans same)
  | cons site rest ih =>
    intro progress final success
    obtain ⟨middle, first, later⟩ := (foldlM_cons_eq_ok_iff plan.visitSite).1 success
    obtain ⟨decision, disk, decided, written, rfl⟩ := visitSite_eq_ok_iff.1 first
    rw [if_pos dry] at written
    obtain rfl : progress.disk = disk := (Prod.mk.inj written).1
    obtain ⟨decisions, others, rfl⟩ := ih later
    exact ⟨decision :: decisions, .cons decided others, told_told _ _ _ _ _ _ _⟩

end PackageDoc.Plan
