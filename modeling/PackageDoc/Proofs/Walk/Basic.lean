import PackageDoc.Generation
import PackageDoc.Proofs.Steps

/-! # Walks step by step

A walk that succeeds visits the directory and then enters the directories in it.  What every visit
preserves, a whole walk preserves, also when it fails; a dry run leaves the disk alone, and visits
and changes are only ever added. -/
set_option autoImplicit false

namespace PackageDoc
open PackageDoc.Text

namespace Plan

/-- The progress that is left, also by steps that fail. -/
def left : Except (Failure × Progress) Progress → Progress
  | .ok progress => progress
  | .error (_, progress) => progress

/-! ## The steps of a walk -/

def visitSources (plan : Plan) (directory output : Path) (package : String) (files : List Name)
    (progress : Progress) : Except (Failure × Progress) Progress :=
  if files.isEmpty then .ok progress else plan.visit directory output package files progress

def enter (plan : Plan) (fuel : Nat) (ancestors : List (List Path.Part)) (directory output : Path)
    (package : String) (progress : Progress) (name : Name) :
    Except (Failure × Progress) Progress :=
  match string? name with
  | none => .ok progress
  | some text =>
    plan.walk fuel ancestors (directory.child name) (output.child name) (subpackage package text)
      progress

theorem walk_succ (plan : Plan) (fuel : Nat) (ancestors : List (List Path.Part))
    (directory output : Path) (package : String) (progress : Progress) :
    plan.walk (fuel + 1) ancestors directory output package progress =
      if ancestors.contains (progress.disk.key directory) then
        .error (.symlinkCycle directory.display, progress)
      else
        match plan.list progress.disk directory with
        | .error failure => .error (failure, progress)
        | .ok listing =>
          plan.visitSources directory output package listing.files progress >>=
            listing.directories.foldlM
              (plan.enter fuel (progress.disk.key directory :: ancestors) directory output
                package) := by
  rw [walk]
  dsimp only
  split
  · rfl
  · cases plan.list progress.disk directory with
    | error failure => rfl
    | ok listing =>
      unfold visitSources
      dsimp only
      split <;> rfl

theorem walk_eq_ok_iff (plan : Plan) (fuel : Nat) (ancestors : List (List Path.Part))
    (directory output : Path) (package : String) (progress final : Progress) :
    plan.walk (fuel + 1) ancestors directory output package progress = .ok final ↔
      ancestors.contains (progress.disk.key directory) = false ∧
      ∃ listing visited, plan.list progress.disk directory = .ok listing ∧
        plan.visitSources directory output package listing.files progress = .ok visited ∧
        listing.directories.foldlM
          (plan.enter fuel (progress.disk.key directory :: ancestors) directory output package)
          visited = .ok final := by
  rw [walk_succ]
  split
  next cycle => simp only [cycle, Bool.true_eq_false, false_and, reduceCtorEq]
  next open_ =>
    rw [Bool.not_eq_true] at open_
    cases plan.list progress.disk directory with
    | error failure => simp
    | ok listing =>
      simp only [open_, true_and, Except.ok.injEq, exists_and_left, exists_eq_left']
      cases plan.visitSources directory output package listing.files progress with
      | error failed => simp [bind, Except.bind]
      | ok visited => simp [bind, Except.bind]

theorem visit_eq_ok_iff (plan : Plan) (directory output : Path) (package : String)
    (files : List Name) (progress final : Progress) :
    plan.visit directory output package files progress = .ok final ↔
      ∃ decision disk, plan.decide progress.disk package
          ((files.find? (· = bytes plan.options.markerFile)).map directory.child) output =
            .ok decision ∧
        (if plan.options.dryRun then (progress.disk, none)
          else commit progress.disk output decision) = (disk, none) ∧
        final = ⟨disk, progress.visits ++ [⟨directory, package, decision.rule, decision.outcome⟩],
          progress.changes ++ decision.change.toList⟩ := by
  unfold visit
  dsimp only
  constructor
  · intro success
    split at success
    · cases success
    next decision decided =>
      split at success
      · cases success
      next disk written => exact ⟨decision, disk, decided, written, (Except.ok.inj success).symm⟩
  · rintro ⟨decision, disk, decided, written, rfl⟩
    rw [decided]
    dsimp only
    rw [written]

/-- The marker file among the source files of a directory. -/
def markerAmong (plan : Plan) (directory : Path) (files : List Name) : Option Path :=
  (files.find? (· = bytes plan.options.markerFile)).map directory.child

theorem markerAmong_cases (plan : Plan) (directory : Path) (files : List Name) :
    (bytes plan.options.markerFile ∉ files ∧ plan.markerAmong directory files = none) ∨
      bytes plan.options.markerFile ∈ files ∧ plan.markerAmong directory files =
        some (directory.child (bytes plan.options.markerFile)) := by
  unfold markerAmong
  cases found : files.find? (· = bytes plan.options.markerFile) with
  | none =>
    refine Or.inl ⟨fun member => ?_, rfl⟩
    have other := List.find?_eq_none.1 found _ member
    simp at other
  | some name =>
    have same : name = bytes plan.options.markerFile := by simpa using List.find?_some found
    subst same
    exact Or.inr ⟨List.mem_of_find?_eq_some found, rfl⟩

/-! ## What a whole walk preserves -/

section Preserve
variable (plan : Plan) (Relates : Progress → Progress → Prop)
  (refl : ∀ progress, Relates progress progress)
  (trans : ∀ {first second third}, Relates first second → Relates second third →
    Relates first third)

include trans in
theorem left_bind {first : Except (Failure × Progress) Progress}
    {next : Progress → Except (Failure × Progress) Progress} {progress : Progress}
    (begins : Relates progress (left first)) (goesOn : ∀ middle, Relates middle (left (next middle))) :
    Relates progress (left (first >>= next)) := by
  cases first with
  | error failed => exact begins
  | ok middle => exact trans begins (goesOn middle)

include refl trans

theorem left_foldlM (step : Progress → Name → Except (Failure × Progress) Progress)
    (each : ∀ progress name, Relates progress (left (step progress name))) :
    ∀ (names : List Name) (progress : Progress),
      Relates progress (left (names.foldlM step progress)) := by
  intro names
  induction names with
  | nil => intro progress; exact refl progress
  | cons name rest ih =>
    intro progress
    rw [List.foldlM_cons]
    exact left_bind Relates trans (each progress name) ih

/-- What each visit preserves is preserved by a walk. -/
theorem left_walk (visits : ∀ directory output package files progress,
      Relates progress (left (plan.visit directory output package files progress))) :
    ∀ (fuel : Nat) (ancestors : List (List Path.Part)) (directory output : Path)
      (package : String) (progress : Progress),
      Relates progress (left (plan.walk fuel ancestors directory output package progress)) := by
  intro fuel
  induction fuel with
  | zero => intro _ _ _ _ progress; exact refl progress
  | succ fuel ih =>
    intro ancestors directory output package progress
    rw [walk_succ]
    split
    · exact refl progress
    · split
      · exact refl progress
      next listing _ =>
        have visited : Relates progress
            (left (plan.visitSources directory output package listing.files progress)) := by
          unfold visitSources
          split
          · exact refl progress
          · exact visits directory output package listing.files progress
        refine left_bind Relates trans visited fun middle => ?_
        refine left_foldlM Relates refl trans _ (fun progress name => ?_) _ middle
        unfold enter
        split
        · exact refl progress
        · exact ih _ _ _ _ progress

end Preserve

/-! ## Dry runs -/

theorem visit_dry_disk (plan : Plan) (dry : plan.options.dryRun = true) (directory output : Path)
    (package : String) (files : List Name) (progress : Progress) :
    (left (plan.visit directory output package files progress)).disk = progress.disk := by
  unfold visit
  dsimp only
  split
  · rfl
  · rw [if_pos dry]
    rfl

theorem visitSources_dry_disk (plan : Plan) (dry : plan.options.dryRun = true)
    (directory output : Path) (package : String) (files : List Name) (progress : Progress) :
    (left (plan.visitSources directory output package files progress)).disk = progress.disk := by
  unfold visitSources
  split
  · rfl
  · exact visit_dry_disk plan dry directory output package files progress

/-- A dry run leaves the disk as it is. -/
theorem walk_dry_disk (plan : Plan) (dry : plan.options.dryRun = true) (fuel : Nat)
    (ancestors : List (List Path.Part)) (directory output : Path) (package : String)
    (progress : Progress) :
    (left (plan.walk fuel ancestors directory output package progress)).disk = progress.disk :=
  left_walk plan (fun before after => after.disk = before.disk) (fun _ => rfl)
    (fun first second => second.trans first) (visit_dry_disk plan dry) fuel ancestors directory
    output package progress

/-! ## Growing reports -/

/-- Later progress has the visits and changes of earlier progress first. -/
structure Extends (before after : Progress) : Prop where
  visits : before.visits <+: after.visits
  changes : before.changes <+: after.changes

theorem Extends.refl (progress : Progress) : Extends progress progress :=
  ⟨List.prefix_rfl, List.prefix_rfl⟩

theorem Extends.trans {first second third : Progress} (one : Extends first second)
    (other : Extends second third) : Extends first third :=
  ⟨one.visits.trans other.visits, one.changes.trans other.changes⟩

theorem visit_extends (plan : Plan) (directory output : Path) (package : String)
    (files : List Name) (progress : Progress) :
    Extends progress (left (plan.visit directory output package files progress)) := by
  unfold visit
  dsimp only
  split
  · exact Extends.refl progress
  · split
    · exact ⟨List.prefix_rfl, List.prefix_rfl⟩
    · exact ⟨List.prefix_append _ _, List.prefix_append _ _⟩

theorem walk_extends (plan : Plan) (fuel : Nat) (ancestors : List (List Path.Part))
    (directory output : Path) (package : String) (progress : Progress) :
    Extends progress (left (plan.walk fuel ancestors directory output package progress)) :=
  left_walk plan Extends Extends.refl Extends.trans (visit_extends plan) fuel ancestors directory
    output package progress

end Plan
end PackageDoc
