import PackageDoc.Proofs.Walk.Effect

/-! # Walks that write

A walk that writes lists the directories of the source tree as they were in the beginning, and at
each site it decides what would have been decided on the first disk: no visit reads what an earlier
one wrote. -/
set_option autoImplicit false

namespace PackageDoc.Plan
open PackageDoc.Text

variable {plan : Plan} {source output : Location} {first disk after : Disk}

/-- What a walk keeps of the first disk: below the source directory nothing changes but the content
of files. -/
structure Kept (plan : Plan) (source output : Location) (first later : Disk) : Prop where
  ready : plan.Ready source output later
  keeps : Disk.Keeps first later
  shapes : ∀ location, source <+: location →
    (later.node? location).map Node.shape = (first.node? location).map Node.shape

theorem Kept.refl (ready : plan.Ready source output first) : plan.Kept source output first first :=
  ⟨ready, Disk.Keeps.refl first, fun _ _ => rfl⟩

theorem Kept.noNewFiles (kept : plan.Kept source output first disk) :
    Disk.NoNewFiles source first disk := by
  refine ⟨kept.keeps, fun location content inside held => ?_⟩
  have shapes := kept.shapes location inside
  rw [held, Option.map_some] at shapes
  obtain ⟨node, found, shape⟩ := Option.map_eq_some_iff.1 shapes.symm
  obtain ⟨old, rfl⟩ := Node.shape_eq_file.1 shape
  exact ⟨old, found⟩

/-- What a visit of a site makes of a disk. -/
def Leaves (plan : Plan) (source output : Location) (site : Site) (decision : Decision)
    (before after : Disk) : Prop :=
  decision.change = none ∧ after = before ∨ ∃ change, decision.change = some change ∧
    Disk.Spares output (plan.targetOf source output site) before after ∧
    after.node? (plan.targetOf source output site) = some (.file (bytes change.content)) ∧
    after.find? change.file = some (.file (bytes change.content))

section Kinds
variable (begins : plan.Ready source output first) (kept : plan.Kept source output first disk)
include begins kept

omit begins in
theorem Kept.names_eq (names : List Name) :
    disk.names (source ++ names) = first.names (source ++ names) := by
  refine eq_of_ascending (fun _ _ => List.lt_asymm) (disk.names_ascending _)
    (first.names_ascending _) fun name => ?_
  have shapes := kept.shapes (source ++ names ++ [name]) (by
    rw [List.append_assoc]
    exact List.prefix_append _ _)
  rw [disk.mem_names, first.mem_names, ← Option.isSome_map, shapes, Option.isSome_map]

theorem Kept.isFile_eq {names : List Name} (proper : ∀ name ∈ names, Path.IsName name) :
    disk.isFile (plan.directoryAt names) = first.isFile (plan.directoryAt names) := by
  unfold directoryAt
  rw [Bool.eq_iff_iff, kept.ready.source.isFile_descend_iff proper,
    begins.source.isFile_descend_iff proper]
  refine and_congr_right fun _ => ⟨?_, ?_⟩
  · rintro ⟨content, held⟩
    exact kept.noNewFiles.files _ content (List.prefix_append _ _) held
  · rintro ⟨content, held⟩
    exact kept.keeps.file held

theorem Kept.isDirectory_eq {names : List Name} (proper : ∀ name ∈ names, Path.IsName name) :
    disk.isDirectory (plan.directoryAt names) = first.isDirectory (plan.directoryAt names) := by
  unfold directoryAt
  rw [Bool.eq_iff_iff, kept.ready.source.isDirectory_descend_iff proper,
    begins.source.isDirectory_descend_iff proper]
  refine and_congr_right fun _ => ⟨?_, kept.keeps.directory⟩
  intro held
  have shapes := kept.shapes _ (List.prefix_append source names)
  rw [held, Option.map_some] at shapes
  obtain ⟨node, found, shape⟩ := Option.map_eq_some_iff.1 shapes.symm
  rw [found, Node.shape_eq_directory.1 shape]

/-- As long as the first disk is kept, the walk goes on as foreseen. -/
theorem Kept.listsAs : plan.ListsAs first disk := by
  intro names listing visible listed
  have proper := visible.isName begins.source.tree
  obtain ⟨entries, read, rfl⟩ := (plan.list_eq_ok_iff _ _ _).1 listed
  obtain ⟨fits, held, rfl⟩ := (begins.source.list_descend_iff proper).1 read
  have reread := (kept.ready.source.list_descend_iff proper).2
    ⟨fits, kept.keeps.directory held, rfl⟩
  rw [kept.names_eq] at reread
  have child : ∀ name ∈ first.names (source ++ names),
      disk.isFile ((plan.directoryAt names).child name) =
        first.isFile ((plan.directoryAt names).child name) ∧
      disk.isDirectory ((plan.directoryAt names).child name) =
        first.isDirectory ((plan.directoryAt names).child name) := by
    intro name member
    have named := (begins.source.tree.parent ((first.mem_names _ _).1 member)).2
    have both := Path.isName_concat proper named
    have step : (plan.directoryAt names).child name = plan.directoryAt (names ++ [name]) :=
      (Path.descend_concat _ _ _).symm
    rw [step]
    exact ⟨kept.isFile_eq begins both, kept.isDirectory_eq begins both⟩
  refine ⟨(plan.list_eq_ok_iff _ _ _).2 ⟨_, reread, ?_⟩, ?_⟩
  · congr 1
    · exact List.filter_congr fun name member => by rw [(child name member).1]
    · exact List.filter_congr fun name member => by rw [(child name member).2]
  · obtain ⟨location, located, _⟩ := Disk.list_eq_ok_iff.1 read
    exact Disk.key_of_keeps kept.keeps located

end Kinds

section Visit
variable (separates : plan.Separates source output) (begins : plan.Ready source output first)
include separates begins

theorem Kept.of_leaves {site : Site} (isSite : plan.IsSite first site)
    (kept : plan.Kept source output first disk) {decision : Decision}
    (leaves : plan.Leaves source output site decision disk after) :
    plan.Kept source output first after := by
  rcases leaves with ⟨_, rfl⟩ | ⟨change, _, spares, written, _⟩
  · exact kept
  · refine ⟨kept.ready.later spares.tree spares.plain spares.keeps, kept.keeps.trans spares.keeps,
      fun location inside => ?_⟩
    by_cases target : location = plan.targetOf source output site
    · -- A target in the source tree is a marker file that was there.
      have present : ∃ content, disk.node? location = some (.file content) := by
        rw [target] at inside ⊢
        unfold targetOf at inside ⊢
        split at inside
        next member =>
          rw [if_pos member]
          have now := (isSite_iff_later begins.source kept.ready.source kept.noNewFiles site).1 isSite
          obtain ⟨listing, listed, files⟩ := now.listed
          rw [← files] at member
          exact ((mem_files_rooted kept.ready.source (now.visible.isName kept.ready.source.tree)
            listed _).1 member).2.1
        next =>
          refine absurd inside (fun both => separates.apart.outside both ?_)
          rw [List.append_assoc]
          exact List.prefix_append _ _
      obtain ⟨content, held⟩ := present
      rw [← kept.shapes location inside, target, written, ← target, held]
      rfl
    · rw [spares.node? target (separates.apart.outside inside), kept.shapes location inside]

/-- A visit of a site makes a decision and leaves what the decision says. -/
theorem visitSite_leaves (real : plan.options.dryRun = false) {site : Site}
    (isSite : plan.IsSite first site) {progress final : Progress}
    (kept : plan.Kept source output first progress.disk)
    (success : plan.visitSite progress site = .ok final) :
    ∃ decision, plan.decideSite progress.disk site = .ok decision ∧
      final = plan.told progress final.disk [site] [decision] ∧
      plan.Leaves source output site decision progress.disk final.disk := by
  obtain ⟨decision, disk, decided, written, rfl⟩ := visitSite_eq_ok_iff.1 success
  rw [real, if_neg Bool.false_ne_true] at written
  refine ⟨decision, decided, rfl, ?_⟩
  cases changes : decision.change with
  | none =>
    unfold commit at written
    rw [changes] at written
    exact Or.inl ⟨changes, (Prod.mk.inj written).1.symm⟩
  | some change =>
    have proper := isSite.visible.isName begins.source.tree
    exact Or.inr ⟨change, changes, commit_spares separates kept.ready proper decided changes written⟩

variable (templates : ∀ rule ∈ plan.rules, first.isFile rule.template = true)
include templates

theorem decideSite_of_leaves {site other : Site} (isSite : plan.IsSite first other)
    (different : other.names ≠ site.names) (kept : plan.Kept source output first disk)
    {decision : Decision} (leaves : plan.Leaves source output site decision disk after) :
    plan.decideSite after other = plan.decideSite disk other := by
  rcases leaves with ⟨_, rfl⟩ | ⟨change, _, spares, _⟩
  · rfl
  · exact decideSite_of_spares separates kept.ready
      (fun rule member => Disk.isFile_of_keeps kept.keeps (templates rule member))
      ((isSite_iff_later begins.source kept.ready.source kept.noNewFiles other).1 isSite) different
      spares

variable (real : plan.options.dryRun = false)
include real

/-- A walk that writes makes its decisions as if all were made on the first disk. -/
theorem decided_of_real : ∀ {sites : List Site}, (∀ site ∈ sites, plan.IsSite first site) →
    sites.Pairwise (fun one other => one.names ≠ other.names) → ∀ {progress final : Progress},
    plan.Kept source output first progress.disk →
    sites.foldlM plan.visitSite progress = .ok final →
      ∃ decisions, plan.Decided progress.disk sites decisions ∧
        final = plan.told progress final.disk sites decisions ∧
        plan.Kept source output first final.disk := by
  intro sites
  induction sites with
  | nil =>
    intro _ _ progress final kept success
    cases success
    refine ⟨[], .nil, ?_, kept⟩
    simp [told, changesOf]
  | cons site rest ih =>
    intro areSites distinct progress final kept success
    rw [List.pairwise_cons] at distinct
    have isSite := areSites site List.mem_cons_self
    have restSites : ∀ other ∈ rest, plan.IsSite first other :=
      fun other member => areSites other (List.mem_cons_of_mem _ member)
    obtain ⟨middle, one, later⟩ := (foldlM_cons_eq_ok_iff plan.visitSite).1 success
    obtain ⟨decision, decided, told_, leaves⟩ :=
      visitSite_leaves separates begins real isSite kept one
    obtain ⟨decisions, others, whole, finally_⟩ :=
      ih restSites distinct.2 (kept.of_leaves separates begins isSite leaves) later
    refine ⟨decision :: decisions, .cons decided ?_, ?_, finally_⟩
    · refine forall₂_imp_of_mem others fun other member otherDecision same => ?_
      rw [← same]
      exact (decideSite_of_leaves separates begins templates (restSites other member)
        (Ne.symm (distinct.1 other member)) kept leaves).symm
    · rw [whole, told_]
      exact told_told _ _ _ _ _ _ _

end Visit

end PackageDoc.Plan
