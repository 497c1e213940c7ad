import PackageDoc.Proofs.Disk.Key
import PackageDoc.Proofs.Marker.Replace
import PackageDoc.Proofs.Walk.Real

/-! # Deciding again after a walk that wrote

Once a site was visited nothing is left to be written there: a new file has its content, and a region
has its body, which the default marker pattern finds again.  Later visits do not change that, and no
visit changes a template. -/
set_option autoImplicit false

namespace PackageDoc.Plan
open PackageDoc.Text

variable {plan : Plan} {source output : Location} {first disk after : Disk}

/-- No rule puts a closing marker between the markers of a site. -/
def Enclosed (plan : Plan) (disk : Disk) (site : Site) : Prop :=
  ∀ rule template, Rule.find? plan.rules (packageOf site.names) = some rule →
    plan.templates.get disk rule.template = .ok template →
      Marker.Lacks Marker.closeTag (body template (packageOf site.names)).toList

/-- What is decided at a site writes nothing. -/
def Rests (plan : Plan) (disk : Disk) (site : Site) : Prop :=
  ∃ decision, plan.decideSite disk site = .ok decision ∧ decision.change = none

theorem Rests.still {site : Site} (rests : plan.Rests disk site) : plan.Still disk site := by
  obtain ⟨decision, decided, none⟩ := rests
  refine Or.inr fun other again => ?_
  rw [decided] at again
  cases again
  exact none

/-- Resting sites are visited without a change. -/
theorem exists_decided_of_rests : ∀ {sites : List Site}, (∀ site ∈ sites, plan.Rests disk site) →
    ∃ decisions, plan.Decided disk sites decisions ∧ changesOf decisions = [] ∧
      ∀ visit ∈ List.zipWith plan.visitOf sites decisions, visit.outcome.isWrite = false := by
  intro sites
  induction sites with
  | nil => intro _; exact ⟨[], .nil, rfl, fun visit member => absurd member List.not_mem_nil⟩
  | cons site rest ih =>
    intro rests
    obtain ⟨decision, decided, none⟩ := rests site List.mem_cons_self
    obtain ⟨decisions, others, changes, idle⟩ :=
      ih fun other member => rests other (List.mem_cons_of_mem _ member)
    refine ⟨decision :: decisions, .cons decided others, ?_, ?_⟩
    · unfold changesOf at changes ⊢
      rw [List.flatMap_cons, none, changes]
      rfl
    · intro visit member
      rcases List.mem_cons.1 member with rfl | later
      · have decides := (decide_eq_ok_iff _ _ _ _ _ _).1 decided
        rcases decides_change decides (plan.directoryAt site.names) with ⟨_, quiet⟩ | ⟨_, some, _⟩
        · exact quiet
        · rw [none] at some
          cases some
      · exact idle visit later

theorem trimmed_body (template package : String) : Marker.Trimmed (body template package).toList := by
  unfold body
  rw [String.toList_ofList]
  obtain ⟨_, _, padded⟩ :=
    Marker.exists_padded (Declaration.rewrite template package).toList
  exact padded.trimmed

theorem renewed_again (pattern : plan.options.markerPattern = MarkerPattern.default)
    {template package text : String}
    (lacks : Marker.Lacks Marker.closeTag (body template package).toList)
    (matched : (plan.renewed template package text).matched = true) :
    plan.renewed template package (plan.renewed template package text).content =
      ⟨(plan.renewed template package text).content, true, false⟩ := by
  unfold renewed at matched ⊢
  rw [pattern] at matched ⊢
  exact Marker.replace_again (trimmed_body template package) lacks matched

section Visit
variable (separates : plan.Separates source output) (begins : plan.Ready source output first)
  (templates : ∀ rule ∈ plan.rules, first.isFile rule.template = true)

include templates in
theorem get_of_keeps (keeps : Disk.Keeps first disk) {package : String} {rule : Rule}
    (claimed : Rule.find? plan.rules package = some rule) :
    plan.templates.get disk rule.template = plan.templates.get first rule.template := by
  obtain ⟨location, _, located, _⟩ :=
    Disk.locate_of_isFile (templates rule (List.mem_of_find?_eq_some claimed))
  unfold TemplateStore.get
  rw [Disk.key_of_keeps keeps located]

include separates begins templates

/-- A site that was visited rests. -/
theorem rests_of_leaves (pattern : plan.options.markerPattern = MarkerPattern.default) {site : Site}
    (isSite : plan.IsSite first site) (enclosed : plan.Enclosed first site)
    (kept : plan.Kept source output first disk) {decision : Decision}
    (decided : plan.decideSite disk site = .ok decision)
    (leaves : plan.Leaves source output site decision disk after) : plan.Rests after site := by
  rcases leaves with ⟨none, rfl⟩ | ⟨change, changes, spares, _, found⟩
  · exact ⟨decision, decided, none⟩
  have now := (isSite_iff_later begins.source kept.ready.source kept.noNewFiles site).1 isSite
  have decides := (decide_eq_ok_iff _ _ _ _ _ _).1 decided
  have keeps := kept.keeps.trans spares.keeps
  unfold Rests decideSite
  generalize marked : plan.markerOf site = marker at decides ⊢
  rcases decides_change_cases decides changes with ⟨rfl, _, fresh⟩ | ⟨rfl, _, region⟩
  · obtain ⟨rule, template, claimed, loaded, content⟩ := fresh.content
    have reloaded : plan.templates.get after rule.template = .ok template := by
      rw [get_of_keeps templates keeps claimed, ← get_of_keeps templates kept.keeps claimed, loaded]
    have same : previous after (plan.freshFile (plan.outputAt site.names)) =
        .ok (some (bytes (Declaration.rewrite template (packageOf site.names)))) := by
      rw [previous_eq, ← fresh.file, found, content]
    exact ⟨_, decide_of_decides (.generatedUpToDate claimed fresh.on reloaded same), rfl⟩
  · obtain ⟨rule, template, text, claimed, loaded, matched, content⟩ := region.content
    have before : plan.templates.get first rule.template = .ok template := by
      rw [← get_of_keeps templates kept.keeps claimed, loaded]
    have reloaded : plan.templates.get after rule.template = .ok template := by
      rw [get_of_keeps templates keeps claimed, before]
    have located := (locate_marker separates kept.ready.source now marked).1
    have others : plan.templates.contains after change.file = false := by
      have other := region.other
      unfold TemplateStore.contains at other ⊢
      rw [Disk.key_of_keeps spares.keeps located, other]
    have again := renewed_again pattern (enclosed rule template claimed before) matched
    rw [← content] at again
    refine ⟨_, decide_of_decides (.markerUpToDate claimed region.on others
      (Disk.readText_of_find? found) reloaded ?_ ?_), rfl⟩
    · rw [again]
    · rw [again]

variable (real : plan.options.dryRun = false)
include real

/-- Visits of other sites leave the decision at a site as it was. -/
theorem decideSite_of_visits {site : Site} (isSite : plan.IsSite first site) :
    ∀ {sites : List Site}, (∀ other ∈ sites, plan.IsSite first other) →
    (∀ other ∈ sites, site.names ≠ other.names) → ∀ {progress final : Progress},
    plan.Kept source output first progress.disk →
    sites.foldlM plan.visitSite progress = .ok final →
      plan.decideSite final.disk site = plan.decideSite progress.disk site := by
  intro sites
  induction sites with
  | nil => intro _ _ progress final _ success; cases success; rfl
  | cons other rest ih =>
    intro areSites distinct progress final kept success
    have otherSite := areSites other List.mem_cons_self
    obtain ⟨middle, one, later⟩ := (foldlM_cons_eq_ok_iff plan.visitSite).1 success
    obtain ⟨decision, _, _, leaves⟩ := visitSite_leaves separates begins real otherSite kept one
    have onward := ih (fun next member => areSites next (List.mem_cons_of_mem _ member))
      (fun next member => distinct next (List.mem_cons_of_mem _ member))
      (kept.of_leaves separates begins otherSite leaves) later
    rw [onward]
    exact decideSite_of_leaves separates begins templates isSite (distinct other List.mem_cons_self)
      kept leaves

/-- After a walk that wrote every site rests. -/
theorem rests_of_visits (pattern : plan.options.markerPattern = MarkerPattern.default) :
    ∀ {sites : List Site}, (∀ site ∈ sites, plan.IsSite first site) →
    (∀ site ∈ sites, plan.Enclosed first site) →
    sites.Pairwise (fun one other => one.names ≠ other.names) → ∀ {progress final : Progress},
    plan.Kept source output first progress.disk →
    sites.foldlM plan.visitSite progress = .ok final →
      ∀ site ∈ sites, plan.Rests final.disk site := by
  intro sites
  induction sites with
  | nil => intro _ _ _ _ _ _ _ site member; exact absurd member List.not_mem_nil
  | cons site rest ih =>
    intro areSites enclosed distinct progress final kept success other member
    rw [List.pairwise_cons] at distinct
    have isSite := areSites site List.mem_cons_self
    have restSites : ∀ next ∈ rest, plan.IsSite first next :=
      fun next inside => areSites next (List.mem_cons_of_mem _ inside)
    obtain ⟨middle, one, later⟩ := (foldlM_cons_eq_ok_iff plan.visitSite).1 success
    obtain ⟨decision, decided, _, leaves⟩ := visitSite_leaves separates begins real isSite kept one
    have onward := kept.of_leaves separates begins isSite leaves
    rcases List.mem_cons.1 member with rfl | inside
    · obtain ⟨again, redecided, none⟩ := rests_of_leaves separates begins templates pattern isSite
        (enclosed other List.mem_cons_self) kept decided leaves
      refine ⟨again, ?_, none⟩
      rw [decideSite_of_visits separates begins templates real isSite restSites distinct.1 onward
        later, redecided]
    · exact ih restSites (fun next member => enclosed next (List.mem_cons_of_mem _ member))
        distinct.2 onward later other inside

end Visit

/-! ## Templates -/

section Templates
variable (separates : plan.Separates source output) (begins : plan.Ready source output first)
include separates begins

/-- No visit writes the template of a rule. -/
theorem template_ne_target {rule : Rule} {location : Location}
    (loaded : (plan.templates.find? (first.key rule.template)).isSome = true)
    (located : first.locate rule.template = .ok location) (outside : ¬ output <+: location)
    {site : Site} (isSite : plan.IsSite first site) (kept : plan.Kept source output first disk)
    {decision : Decision} (decided : plan.decideSite disk site = .ok decision) {change : Change}
    (changes : decision.change = some change) : location ≠ plan.targetOf source output site := by
  rintro rfl
  have now := (isSite_iff_later begins.source kept.ready.source kept.noNewFiles site).1 isSite
  have decides := (decide_eq_ok_iff _ _ _ _ _ _).1 decided
  generalize marked : plan.markerOf site = marker at decides
  rcases decides_change_cases decides changes with ⟨rfl, _, _⟩ | ⟨rfl, _, region⟩
  · rw [targetOf_of_none marked, List.append_assoc] at outside
    exact outside (List.prefix_append _ _)
  · rw [targetOf_of_some marked] at located
    have same : disk.key change.file = first.key rule.template := by
      rw [Disk.key_of_locate (locate_marker separates kept.ready.source now marked).1,
        Disk.key_of_locate located]
    have other := region.other
    unfold TemplateStore.contains at other
    rw [same, loaded] at other
    cases other

/-- A file that no visit writes stays as it is. -/
theorem file_of_visits (real : plan.options.dryRun = false) {location : Location} {content : Bytes}
    (untouched : ∀ site, plan.IsSite first site → ∀ disk decision change,
      plan.Kept source output first disk → plan.decideSite disk site = .ok decision →
      decision.change = some change → location ≠ plan.targetOf source output site) :
    ∀ {sites : List Site}, (∀ site ∈ sites, plan.IsSite first site) → ∀ {progress final : Progress},
    plan.Kept source output first progress.disk →
    progress.disk.node? location = some (.file content) →
    sites.foldlM plan.visitSite progress = .ok final →
      final.disk.node? location = some (.file content) := by
  intro sites
  induction sites with
  | nil => intro _ progress final _ held success; cases success; exact held
  | cons site rest ih =>
    intro areSites progress final kept held success
    have isSite := areSites site List.mem_cons_self
    obtain ⟨middle, one, later⟩ := (foldlM_cons_eq_ok_iff plan.visitSite).1 success
    obtain ⟨decision, decided, _, leaves⟩ := visitSite_leaves separates begins real isSite kept one
    have onward := kept.of_leaves separates begins isSite leaves
    refine ih (fun next member => areSites next (List.mem_cons_of_mem _ member)) onward ?_ later
    rcases leaves with ⟨_, same⟩ | ⟨change, changes, spares, _⟩
    · rw [same, held]
    · have other := untouched site isSite _ decision change kept decided changes
      rcases spares.elsewhere location other with same | ⟨_, free, _⟩
      · rw [same, held]
      · rw [free] at held
        cases held

end Templates

end PackageDoc.Plan
