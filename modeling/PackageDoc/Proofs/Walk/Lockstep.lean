import PackageDoc.Proofs.Run.Basic
import PackageDoc.Proofs.Walk.Decision

/-! # A dry run and a real run in lockstep

Up to the first change a dry run and a real run see the same disk, so they do the same.  From there
on they may part, but the visits and changes that are already there stay first.  A dry run without
changes is therefore a real run that writes nothing, and a dry run with changes names the first
change of the real run. -/
set_option autoImplicit false

namespace PackageDoc
open PackageDoc.Text

namespace Plan

/-- Nothing has been written so far. -/
structure Quiet (progress : Progress) : Prop where
  changes : progress.changes = []
  visits : ∀ visit ∈ progress.visits, visit.outcome.isWrite = false

/-- The visits up to the first one that writes, and the change that it makes. -/
structure FirstWrite (seen : List Visit) (visit : Visit) (change : Change) : Prop where
  quiet : ∀ earlier ∈ seen, earlier.outcome.isWrite = false
  announces : Announces visit change

/-- A progress begins with the given visits and the given change. -/
structure Opens (seen : List Visit) (visit : Visit) (change : Change) (progress : Progress) :
    Prop where
  visits : seen ++ [visit] <+: progress.visits
  changes : [change] <+: progress.changes

theorem Opens.extends {seen : List Visit} {visit : Visit} {change : Change}
    {before after : Progress} (opens : Opens seen visit change before)
    (later : Extends before after) : Opens seen visit change after :=
  ⟨opens.visits.trans later.visits, opens.changes.trans later.changes⟩

/-- What becomes of the two runs once the dry one has succeeded: they are still together and quiet,
or both begin with the same first write, unless the real one fails. -/
def Together (dryEnd : Progress) (real : Except (Failure × Progress) Progress) : Prop :=
  (Quiet dryEnd ∧ real = .ok dryEnd) ∨
    ∃ seen visit change, FirstWrite seen visit change ∧ Opens seen visit change dryEnd ∧
      ∀ realEnd, real = .ok realEnd → Opens seen visit change realEnd

theorem Together.bind {middle dryEnd : Progress} {real : Except (Failure × Progress) Progress}
    (dryNext realNext : Progress → Except (Failure × Progress) Progress)
    (so_far : Together middle real) (dry : dryNext middle = .ok dryEnd)
    (dryExtends : ∀ progress, Extends progress (left (dryNext progress)))
    (realExtends : ∀ progress, Extends progress (left (realNext progress)))
    (onward : Quiet middle → Together dryEnd (realNext middle)) :
    Together dryEnd (real >>= realNext) := by
  rcases so_far with ⟨quiet, same⟩ | ⟨seen, visit, change, first, opens, realOpens⟩
  · rw [same]
    exact onward quiet
  · refine Or.inr ⟨seen, visit, change, first, ?_, ?_⟩
    · have later := dryExtends middle
      rw [dry] at later
      exact opens.extends later
    · intro realEnd success
      cases real with
      | error failed => cases success
      | ok realMiddle =>
        have later := realExtends realMiddle
        have ran : realNext realMiddle = .ok realEnd := success
        rw [ran] at later
        exact (realOpens realMiddle rfl).extends later

section Foldl
variable {dryStep realStep : Progress → Name → Except (Failure × Progress) Progress}
  (dryExtends : ∀ progress name, Extends progress (left (dryStep progress name)))
  (realExtends : ∀ progress name, Extends progress (left (realStep progress name)))
  (each : ∀ progress name dryEnd, Quiet progress → dryStep progress name = .ok dryEnd →
    Together dryEnd (realStep progress name))
include dryExtends realExtends each

theorem foldlM_together : ∀ (names : List Name) (progress dryEnd : Progress), Quiet progress →
    names.foldlM dryStep progress = .ok dryEnd →
      Together dryEnd (names.foldlM realStep progress) := by
  intro names
  induction names with
  | nil =>
    intro progress dryEnd quiet success
    cases success
    exact Or.inl ⟨quiet, rfl⟩
  | cons name rest ih =>
    intro progress dryEnd quiet success
    obtain ⟨middle, first, later⟩ := (foldlM_cons_eq_ok_iff dryStep).1 success
    rw [List.foldlM_cons]
    exact Together.bind (rest.foldlM dryStep) (rest.foldlM realStep)
      (each progress name middle quiet first) later
      (left_foldlM Extends Extends.refl Extends.trans dryStep dryExtends rest)
      (left_foldlM Extends Extends.refl Extends.trans realStep realExtends rest)
      (fun quiet => ih middle dryEnd quiet later)

end Foldl

variable (plan : Plan)

/-- Two visits of the same quiet progress are quiet together or write the same first change. -/
theorem visit_together (directory output : Path) (package : String) (files : List Name)
    (progress dryEnd : Progress) (quiet : Quiet progress)
    (success : (plan.withDryRun true).visit directory output package files progress = .ok dryEnd) :
    Together dryEnd ((plan.withDryRun false).visit directory output package files progress) := by
  obtain ⟨decision, disk, decided, written, rfl⟩ := (visit_eq_ok_iff _ _ _ _ _ _ _).1 success
  have same : disk = progress.disk := by
    have pair : (progress.disk, none) = (disk, (none : Option Failure)) := written
    exact (Prod.mk.inj pair).1.symm
  subst same
  rcases decides_change ((decide_eq_ok_iff _ _ _ _ _ _).1 decided) directory with
    ⟨none, silent⟩ | ⟨change, some, announces⟩
  · refine Or.inl ⟨⟨?_, ?_⟩, ?_⟩
    · simp [quiet.changes, none]
    · intro visit member
      rcases List.mem_append.1 member with earlier | last
      · exact quiet.visits visit earlier
      · rw [List.mem_singleton.1 last]
        exact silent
    · rw [visit_eq_ok_iff]
      refine ⟨decision, progress.disk, decided, ?_, rfl⟩
      rw [if_neg (by simp [withDryRun])]
      unfold commit
      rw [none]
  · refine Or.inr ⟨progress.visits, _, change, ⟨quiet.visits, announces⟩, ⟨?_, ?_⟩, ?_⟩
    · exact List.prefix_rfl
    · simp [quiet.changes, some]
    · intro realEnd realSuccess
      obtain ⟨other, after, otherDecided, _, rfl⟩ :=
        (visit_eq_ok_iff _ _ _ _ _ _ _).1 realSuccess
      have equal : other = decision := by
        have both : Except.ok other = Except.ok decision := otherDecided.symm.trans decided
        exact Except.ok.inj both
      subst equal
      exact ⟨List.prefix_rfl, by simp [quiet.changes, some]⟩

theorem walk_together : ∀ (fuel : Nat) (ancestors : List (List Path.Part))
    (directory output : Path) (package : String) (progress dryEnd : Progress), Quiet progress →
    (plan.withDryRun true).walk fuel ancestors directory output package progress = .ok dryEnd →
      Together dryEnd
        ((plan.withDryRun false).walk fuel ancestors directory output package progress) := by
  intro fuel
  induction fuel with
  | zero =>
    intro ancestors directory output package progress dryEnd quiet success
    cases success
    exact Or.inl ⟨quiet, rfl⟩
  | succ fuel ih =>
    intro ancestors directory output package progress dryEnd quiet success
    obtain ⟨open_, listing, visited, listed, sources, entered⟩ :=
      (walk_eq_ok_iff _ _ _ _ _ _ _ _).1 success
    have realListed : (plan.withDryRun false).list progress.disk directory = .ok listing := listed
    rw [walk_succ, if_neg (by rw [open_]; exact Bool.false_ne_true), realListed]
    dsimp only
    have sourcesTogether : Together visited
        ((plan.withDryRun false).visitSources directory output package listing.files progress) := by
      unfold visitSources at sources ⊢
      split at sources
      next none =>
        cases sources
        rw [if_pos none]
        exact Or.inl ⟨quiet, rfl⟩
      next some =>
        rw [if_neg some]
        exact visit_together plan directory output package listing.files progress visited quiet
          sources
    have enterExtends : ∀ (dry : Bool) (progress' : Progress) (name : Name),
        Extends progress' (left ((plan.withDryRun dry).enter fuel
          (progress.disk.key directory :: ancestors) directory output package progress' name)) := by
      intro dry progress' name
      unfold enter
      split
      · exact Extends.refl progress'
      · exact walk_extends _ _ _ _ _ _ _
    refine Together.bind (listing.directories.foldlM _) _ sourcesTogether entered ?_ ?_ ?_
    · exact left_foldlM Extends Extends.refl Extends.trans _ (enterExtends true) _
    · exact left_foldlM Extends Extends.refl Extends.trans _ (enterExtends false) _
    · intro visitedQuiet
      refine foldlM_together (enterExtends true) (enterExtends false) ?_ _ _ _ visitedQuiet entered
      intro progress' name end_ quiet' success'
      unfold enter at success' ⊢
      split at success'
      next undecoded =>
        cases success'
        exact Or.inl ⟨quiet', rfl⟩
      next text decoded =>
        exact ih _ _ _ _ _ _ quiet' success'

end Plan
end PackageDoc
