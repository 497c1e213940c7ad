import Mathlib.Data.List.Forall2
import PackageDoc.Proofs.Walk.Visible

/-! # The sites of a walk

What a walk visits can be read off the disk it begins with: the sites are the directories with source
files, each before those below it.  As long as the directories look as they did in the beginning, a
walk is nothing but a visit of each site in turn. -/
set_option autoImplicit false

namespace PackageDoc
open PackageDoc.Text

namespace Plan

/-! ## Sites -/

/-- The package of the directory under some names. -/
def packageOf (names : List Name) : String :=
  names.foldl (fun package name =>
    match string? name with
    | none => package
    | some text => subpackage package text) ""

theorem packageOf_concat (names : List Name) {name : Name} {text : String}
    (decoded : string? name = some text) :
    packageOf (names ++ [name]) = subpackage (packageOf names) text := by
  unfold packageOf
  rw [List.foldl_append]
  simp only [List.foldl_cons, List.foldl_nil, decoded]

/-- The names that lead to a directory with source files, and these. -/
structure Site where
  names : List Name
  files : List Name

def visitSite (plan : Plan) (progress : Progress) (site : Site) :
    Except (Failure × Progress) Progress :=
  plan.visit (plan.directoryAt site.names) (plan.outputAt site.names) (packageOf site.names)
    site.files progress

def sitesAt (names files : List Name) : List Site := if files.isEmpty then [] else [⟨names, files⟩]

/-- What a walk of a disk that stays as it is finds. -/
def Scans (plan : Plan) (disk : Disk) :
    Nat → List (List Path.Part) → List Name → List Site → Prop
  | 0, _, _, sites => sites = []
  | fuel + 1, ancestors, names, sites =>
    ancestors.contains (disk.key (plan.directoryAt names)) = false ∧
    ∃ listing below, plan.list disk (plan.directoryAt names) = .ok listing ∧
      List.Forall₂ (fun name found =>
          match string? name with
          | none => found = []
          | some _ =>
            Scans plan disk fuel (disk.key (plan.directoryAt names) :: ancestors) (names ++ [name])
              found) listing.directories below ∧
      sites = sitesAt names listing.files ++ below.flatten

/-- What a scan finds below one entry of a directory. -/
def Branches (plan : Plan) (disk : Disk) (fuel : Nat) (ancestors : List (List Path.Part))
    (names : List Name) (name : Name) (found : List Site) : Prop :=
  match string? name with
  | none => found = []
  | some _ => plan.Scans disk fuel ancestors (names ++ [name]) found

/-- A disk on which every visible directory is listed as before. -/
def ListsAs (plan : Plan) (before after : Disk) : Prop :=
  ∀ names listing, Visible before plan.options.source names →
    plan.list before (plan.directoryAt names) = .ok listing →
      plan.list after (plan.directoryAt names) = .ok listing ∧
        after.key (plan.directoryAt names) = before.key (plan.directoryAt names)

theorem ListsAs.refl (plan : Plan) (disk : Disk) : plan.ListsAs disk disk :=
  fun _ _ _ listed => ⟨listed, rfl⟩

/-! ## A walk visits the sites -/

section Visits
variable (plan : Plan) {disk : Disk} (Stable : Disk → Prop)

/-- Visiting a site leaves a disk on which the walk goes on as foreseen. -/
def Settles (site : Site) : Prop :=
  ∀ progress after, Stable progress.disk → plan.visitSite progress site = .ok after →
    Stable after.disk

theorem settles_foldlM : ∀ (sites : List Site), (∀ site ∈ sites, plan.Settles Stable site) →
    ∀ (progress after : Progress), Stable progress.disk →
      sites.foldlM plan.visitSite progress = .ok after → Stable after.disk := by
  intro sites
  induction sites with
  | nil =>
    intro _ progress after stable success
    cases success
    exact stable
  | cons site rest ih =>
    intro settles progress after stable success
    obtain ⟨middle, first, later⟩ := (foldlM_cons_eq_ok_iff plan.visitSite).1 success
    exact ih (fun site member => settles site (List.mem_cons_of_mem _ member)) middle after
      (settles site List.mem_cons_self progress middle stable first) later

theorem bind_congr_stable {first : Except (Failure × Progress) Progress}
    {next other : Progress → Except (Failure × Progress) Progress}
    (stable : ∀ middle, first = .ok middle → Stable middle.disk)
    (same : ∀ middle, Stable middle.disk → next middle = other middle) :
    first >>= next = first >>= other := by
  cases first with
  | error failed => rfl
  | ok middle => exact same middle (stable middle rfl)

theorem visitSources_eq_foldlM (names files : List Name) (progress : Progress) :
    plan.visitSources (plan.directoryAt names) (plan.outputAt names) (packageOf names) files
      progress = (sitesAt names files).foldlM plan.visitSite progress := by
  unfold visitSources sitesAt
  split
  · rfl
  · rw [List.foldlM_cons]
    exact (bind_pure _).symm

/-- Steps that each visit the sites of a branch visit the sites of all branches. -/
theorem foldlM_flatten {Found : Name → List Site → Prop}
    {step : Progress → Name → Except (Failure × Progress) Progress} {names : List Name}
    {below : List (List Site)} (found : List.Forall₂ Found names below) :
    (∀ name ∈ names, ∀ sites, Found name sites → (∀ site ∈ sites, plan.Settles Stable site) →
      ∀ progress, Stable progress.disk → step progress name = sites.foldlM plan.visitSite progress) →
    (∀ site ∈ below.flatten, plan.Settles Stable site) → ∀ progress, Stable progress.disk →
      names.foldlM step progress = below.flatten.foldlM plan.visitSite progress := by
  induction found with
  | nil => intro _ _ progress _; rfl
  | @cons name sites names below one rest ih =>
    intro each settles progress stable
    rw [List.flatten_cons, List.forall_mem_append] at settles
    rw [List.foldlM_cons, List.flatten_cons, List.foldlM_append,
      each name List.mem_cons_self sites one settles.1 progress stable]
    exact bind_congr_stable Stable
      (fun middle success => settles_foldlM plan Stable sites settles.1 progress middle stable success)
      (ih (fun name member => each name (List.mem_cons_of_mem _ member)) settles.2)

/-- A walk visits the sites that a scan of the first disk finds, one after another. -/
theorem walk_eq_foldlM (listsAs : ∀ later, Stable later → plan.ListsAs disk later) :
    ∀ (fuel : Nat) (ancestors : List (List Path.Part)) (names : List Name) (sites : List Site),
      plan.Scans disk fuel ancestors names sites → Visible disk plan.options.source names →
      (∀ site ∈ sites, plan.Settles Stable site) → ∀ progress, Stable progress.disk →
        plan.walk fuel ancestors (plan.directoryAt names) (plan.outputAt names) (packageOf names)
          progress = sites.foldlM plan.visitSite progress := by
  intro fuel
  induction fuel with
  | zero =>
    intro ancestors names sites scans _ _ progress _
    rw [show sites = [] from scans]
    rfl
  | succ fuel ih =>
    intro ancestors names sites scans visible settles progress stable
    obtain ⟨fresh, listing, below, listed, branches, rfl⟩ := scans
    obtain ⟨nowListed, sameKey⟩ := listsAs _ stable names listing visible listed
    rw [List.forall_mem_append] at settles
    rw [walk_succ, sameKey, if_neg (by rw [fresh]; exact Bool.false_ne_true), nowListed,
      List.foldlM_append]
    dsimp only
    rw [visitSources_eq_foldlM]
    refine bind_congr_stable Stable
      (fun middle success => settles_foldlM plan Stable _ settles.1 progress middle stable success)
      (foldlM_flatten plan Stable branches ?_ settles.2)
    intro name member found branch branchSettles middle middleStable
    unfold enter
    cases decoded : string? name with
    | none =>
      rw [decoded] at branch
      rw [show found = [] from branch]
      rfl
    | some text =>
      rw [decoded] at branch
      have deeper := visible_child visible listed member (by rw [decoded]; rfl)
      have onward := ih _ _ _ branch deeper branchSettles middle middleStable
      unfold directoryAt outputAt at onward
      rw [Path.descend_concat, Path.descend_concat, packageOf_concat names decoded] at onward
      exact onward

end Visits

/-! ## A dry walk scans -/

theorem exists_forall₂ {First Second : Type} {Related : First → Second → Prop} :
    ∀ {items : List First}, (∀ item ∈ items, ∃ other, Related item other) →
      ∃ others, List.Forall₂ Related items others := by
  intro items
  induction items with
  | nil => intro _; exact ⟨[], .nil⟩
  | cons item rest ih =>
    intro each
    obtain ⟨other, related⟩ := each item List.mem_cons_self
    obtain ⟨others, relateds⟩ := ih fun item member => each item (List.mem_cons_of_mem _ member)
    exact ⟨other :: others, .cons related relateds⟩

/-- If steps leave the disk alone and all succeed, each succeeds on the first disk. -/
theorem each_of_foldlM {step : Progress → Name → Except (Failure × Progress) Progress}
    (still : ∀ progress name, (left (step progress name)).disk = progress.disk) :
    ∀ {names : List Name} {progress final : Progress}, names.foldlM step progress = .ok final →
      ∀ name ∈ names, ∃ before after, before.disk = progress.disk ∧ step before name = .ok after := by
  intro names
  induction names with
  | nil => intro _ _ _ name member; exact absurd member List.not_mem_nil
  | cons first rest ih =>
    intro progress final success name member
    obtain ⟨middle, one, later⟩ := (foldlM_cons_eq_ok_iff step).1 success
    rcases List.mem_cons.1 member with rfl | inRest
    · exact ⟨progress, middle, rfl, one⟩
    · obtain ⟨before, after, same, success⟩ := ih later name inRest
      have kept := still progress first
      rw [one] at kept
      exact ⟨before, after, same.trans kept, success⟩

theorem enter_dry_disk (plan : Plan) (dry : plan.options.dryRun = true) (fuel : Nat)
    (ancestors : List (List Path.Part)) (directory output : Path) (package : String)
    (progress : Progress) (name : Name) :
    (left (plan.enter fuel ancestors directory output package progress name)).disk =
      progress.disk := by
  unfold enter
  split
  · rfl
  · exact walk_dry_disk plan dry _ _ _ _ _ _

theorem scans_of_dry_walk (plan : Plan) (dry : plan.options.dryRun = true) :
    ∀ (fuel : Nat) (ancestors : List (List Path.Part)) (names : List Name)
      (progress final : Progress),
      plan.walk fuel ancestors (plan.directoryAt names) (plan.outputAt names) (packageOf names)
        progress = .ok final →
      ∃ sites, plan.Scans progress.disk fuel ancestors names sites := by
  intro fuel
  induction fuel with
  | zero => intro ancestors names progress final _; exact ⟨[], rfl⟩
  | succ fuel ih =>
    intro ancestors names progress final success
    obtain ⟨fresh, listing, visited, listed, sources, entered⟩ :=
      (walk_eq_ok_iff _ _ _ _ _ _ _ _).1 success
    have kept : visited.disk = progress.disk := by
      have disks := visitSources_dry_disk plan dry (plan.directoryAt names) (plan.outputAt names)
        (packageOf names) listing.files progress
      rw [sources] at disks
      exact disks
    have each : ∀ name ∈ listing.directories, ∃ found, plan.Branches progress.disk fuel
        (progress.disk.key (plan.directoryAt names) :: ancestors) names name found := by
      intro name member
      obtain ⟨before, after, same, step⟩ := each_of_foldlM
        (enter_dry_disk plan dry fuel _ _ _ _) entered name member
      rw [kept] at same
      unfold enter at step
      unfold Branches
      cases decoded : string? name with
      | none => exact ⟨[], rfl⟩
      | some text =>
        rw [decoded] at step
        have deeper := ih (progress.disk.key (plan.directoryAt names) :: ancestors)
          (names ++ [name]) before after
        unfold directoryAt outputAt at deeper
        rw [Path.descend_concat, Path.descend_concat, packageOf_concat names decoded, same]
          at deeper
        exact deeper step
    obtain ⟨below, branches⟩ := exists_forall₂ each
    exact ⟨_, fresh, listing, below, listed, branches, rfl⟩

end Plan
end PackageDoc
