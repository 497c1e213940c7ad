import PackageDoc.Proofs.Walk.Found
import PackageDoc.Proofs.Walk.Writes

/-! # The order of visits

A walk that succeeds adds its visits in ascending order of their names, whatever it writes on the
way: each directory is listed before anything below it is visited, and no visit touches the list.
So no directory is visited twice. -/
set_option autoImplicit false

namespace PackageDoc
open PackageDoc.Text

/-- The file in the output tree that an outcome speaks of. -/
def Outcome.fresh? : Outcome → Option Path
  | .generated file | .generatedUpToDate file => some file
  | _ => none

/-- Whether the file of the output tree that a visit speaks of is there. -/
def FreshFound (disk : Disk) (visit : Visit) : Prop :=
  ∀ file, visit.outcome.fresh? = some file → ∃ location, disk.locate file = .ok location

theorem FreshFound.of_keeps {before after : Disk} (keeps : Disk.Keeps before after)
    {visit : Visit} (found : FreshFound before visit) : FreshFound after visit := by
  intro file fresh
  obtain ⟨location, located⟩ := found file fresh
  exact ⟨location, Disk.locate_of_keeps keeps located⟩

namespace Plan
variable {plan : Plan}

/-- A visit of the directory under some names. -/
structure VisitedAt (plan : Plan) (names : List Name) (visit : Visit) : Prop where
  components : ∀ name ∈ names, IsComponent name
  directory : visit.directory = plan.directoryAt names
  package : visit.package = packageOf names
  fresh : ∀ file, visit.outcome.fresh? = some file →
    file = plan.freshFile (plan.outputAt names)

theorem fresh?_of_decides {disk : Disk} {package : String} {output : Path} {marker : Option Path}
    {decision : Decision} (decides : plan.Decides disk package output marker decision)
    {file : Path} (fresh : decision.outcome.fresh? = some file) : file = plan.freshFile output := by
  cases decides with
  | generated => exact (Option.some.inj fresh).symm
  | generatedUpToDate => exact (Option.some.inj fresh).symm
  | _ => cases fresh

/-! ## Ascending visits -/

/-- Visits that are added, under ascending names of which something is known. -/
def Adds (plan : Plan) (Under : List Name → Prop) (before after : Progress) : Prop :=
  ∃ found visits, after.visits = before.visits ++ visits ∧
    List.Forall₂ plan.VisitedAt found visits ∧ found.Pairwise (· < ·) ∧
    ∀ names ∈ found, Under names

namespace Adds
variable {Under Here Below : List Name → Prop} {before middle after : Progress}

theorem none (same : after.visits = before.visits) : plan.Adds Under before after :=
  ⟨[], [], by rw [same, List.append_nil], .nil, List.Pairwise.nil,
    fun _ member => nomatch member⟩

theorem single {names : List Name} {visit : Visit} (under : Under names)
    (visited : plan.VisitedAt names visit)
    (grown : after.visits = before.visits ++ [visit]) : plan.Adds Under before after :=
  ⟨[names], [visit], grown, .cons visited .nil, List.pairwise_singleton _ _,
    List.forall_mem_singleton.2 under⟩

theorem append (first : plan.Adds Here before middle) (second : plan.Adds Below middle after)
    (less : ∀ one other, Here one → Below other → one < other)
    (here : ∀ names, Here names → Under names) (below : ∀ names, Below names → Under names) :
    plan.Adds Under before after := by
  obtain ⟨found, visits, grown, visited, ascending, known⟩ := first
  obtain ⟨others, later, grows, visitedLater, ascends, knownLater⟩ := second
  refine ⟨found ++ others, visits ++ later, ?_, List.rel_append visited visitedLater, ?_, ?_⟩
  · rw [grows, grown, List.append_assoc]
  · rw [List.pairwise_append]
    exact ⟨ascending, ascends, fun one member other otherMember =>
      less one other (known one member) (knownLater other otherMember)⟩
  · exact List.forall_mem_append.2 ⟨fun names member => here names (known names member),
      fun names member => below names (knownLater names member)⟩

end Adds

/-- Under one of some names below a directory. -/
def UnderOneOf (above names : List Name) (other : List Name) : Prop :=
  ∃ name ∈ names, above ++ [name] <+: other

theorem adds_foldlM {above : List Name}
    {step : Progress → Name → Except (Failure × Progress) Progress} : ∀ {names : List Name},
    names.Pairwise (· < ·) →
    (∀ name ∈ names, ∀ progress final, progress.disk.IsTree → step progress name = .ok final →
      final.disk.IsTree ∧ plan.Adds (above ++ [name] <+: ·) progress final) →
    ∀ {progress final : Progress}, progress.disk.IsTree → names.foldlM step progress = .ok final →
      plan.Adds (UnderOneOf above names) progress final := by
  intro names
  induction names with
  | nil =>
    intro _ _ progress final _ success
    cases success
    exact .none rfl
  | cons name rest ih =>
    intro ascending each progress final tree success
    rw [List.pairwise_cons] at ascending
    obtain ⟨middle, one, later⟩ := (foldlM_cons_eq_ok_iff step).1 success
    obtain ⟨stays, first⟩ := each name List.mem_cons_self progress middle tree one
    have second := ih ascending.2 (fun other member => each other (List.mem_cons_of_mem _ member))
      stays later
    refine first.append second ?_ ?_ ?_
    · rintro _ _ ⟨left, rfl⟩ ⟨other, member, right, rfl⟩
      rw [List.append_assoc, List.append_assoc]
      exact append_lt_append above (ascending.1 other member) left right
    · intro names under
      exact ⟨name, List.mem_cons_self, under⟩
    · rintro names ⟨other, member, under⟩
      exact ⟨other, List.mem_cons_of_mem _ member, under⟩

/-! ## Walks -/

theorem tree_of_left {progress final : Progress}
    {result : Except (Failure × Progress) Progress} (tree : progress.disk.IsTree)
    (becomes : progress.disk.Becomes (left result).disk) (success : result = .ok final) :
    final.disk.IsTree := by
  rw [success] at becomes
  exact (becomes.kept tree).1

theorem visit_adds {names : List Name} (components : ∀ name ∈ names, IsComponent name)
    {files : List Name} {progress final : Progress}
    (visited : plan.visit (plan.directoryAt names) (plan.outputAt names) (packageOf names) files
      progress = .ok final) : plan.Adds (· = names) progress final := by
  obtain ⟨decision, disk, decided, _, rfl⟩ := (plan.visit_eq_ok_iff _ _ _ _ _ _).1 visited
  have decides := (plan.decide_eq_ok_iff _ _ _ _ _).1 decided
  exact .single rfl ⟨components, rfl, rfl, fun _ => fresh?_of_decides decides⟩ rfl

theorem walk_adds : ∀ (fuel : Nat) (ancestors : List (List Path.Part)) (names : List Name)
    (progress final : Progress), progress.disk.IsTree → (∀ name ∈ names, IsComponent name) →
      plan.walk fuel ancestors (plan.directoryAt names) (plan.outputAt names) (packageOf names)
        progress = .ok final → plan.Adds (names <+: ·) progress final := by
  intro fuel
  induction fuel with
  | zero =>
    intro ancestors names progress final _ _ success
    cases success
    exact .none rfl
  | succ fuel ih =>
    intro ancestors names progress final tree components success
    obtain ⟨_, listing, visited, listed, sources, entered⟩ :=
      (walk_eq_ok_iff _ _ _ _ _ _ _ _).1 success
    have here : visited.disk.IsTree ∧ plan.Adds (· = names) progress visited := by
      unfold visitSources at sources
      split at sources
      · cases sources
        exact ⟨tree, .none rfl⟩
      · exact ⟨tree_of_left tree (plan.visit_becomes _ _ _ _ _) sources,
          visit_adds components sources⟩
    have below : plan.Adds (UnderOneOf names listing.directories) visited final :=
      adds_foldlM (directories_ascending listed) ?_ here.1 entered
    · refine here.2.append below ?_ ?_ ?_
      · rintro one _ same ⟨name, _, rest, rfl⟩
        rw [same, List.append_assoc]
        exact lt_append_cons names name rest
      · rintro one same
        exact same ▸ List.prefix_rfl
      · rintro _ ⟨name, _, under⟩
        exact (List.prefix_append names [name]).trans under
    · -- A name that is no text is passed over; any other one is a component.
      intro name member before after beforeTree step
      have proper := isName_of_directories tree listed member
      unfold enter at step
      cases decoded : string? name with
      | none =>
        rw [decoded] at step
        cases step
        exact ⟨beforeTree, .none rfl⟩
      | some text =>
        rw [decoded] at step
        dsimp only at step
        refine ⟨tree_of_left beforeTree (plan.walk_becomes _ _ _ _ _ _) step, ?_⟩
        have deeper := ih (progress.disk.key (plan.directoryAt names) :: ancestors)
          (names ++ [name]) before after beforeTree
          (List.forall_mem_append.2 ⟨components, List.forall_mem_singleton.2
            ⟨proper, by rw [decoded]; rfl⟩⟩)
        unfold directoryAt outputAt at deeper
        rw [Path.descend_concat, Path.descend_concat, packageOf_concat names decoded] at deeper
        exact deeper step

/-! ## Files that are there -/

theorem freshFound_of_decides {disk after : Disk} (tree : disk.IsTree) {output : Path}
    {package : String} {marker : Option Path} {decision : Decision}
    (decides : plan.Decides disk package output marker decision)
    (committed : commit disk output decision = (after, none)) (directory : Path) :
    FreshFound after ⟨directory, package, decision.rule, decision.outcome⟩ := by
  intro file fresh
  cases decides with
  | generatedUpToDate _ _ _ same =>
    cases fresh
    cases committed
    cases located : disk.locate (plan.freshFile output) with
    | ok location => exact ⟨location, rfl⟩
    | error cause =>
      unfold previous Disk.isFile Disk.find? at same
      rw [located] at same
      cases same
  | generated =>
    cases fresh
    obtain ⟨middle, extended, _, write⟩ := commit_written tree rfl committed
    obtain ⟨location, _, located, _⟩ := Disk.locate_of_write extended.tree write
    exact ⟨location, located⟩
  | _ => cases fresh

/-- The files of the output tree that a walk tells of are there when it ends. -/
theorem walk_freshFound (real : plan.options.dryRun = false) (fuel : Nat)
    (ancestors : List (List Path.Part)) (directory output : Path) (package : String)
    {progress : Progress} (tree : progress.disk.IsTree) :
    let after := left (plan.walk fuel ancestors directory output package progress)
    ∀ visit ∈ after.visits, visit ∈ progress.visits ∨ FreshFound after.disk visit := by
  have relates := left_walk plan (fun before after => before.disk.IsTree →
    before.disk.Becomes after.disk ∧ ∀ visit ∈ after.visits,
      visit ∈ before.visits ∨ FreshFound after.disk visit)
    (fun _ _ => ⟨.refl, fun _ => Or.inl⟩) ?_ ?_ fuel ancestors directory output package progress
  · exact (relates tree).2
  · intro first second third one other tree
    obtain ⟨begins, early⟩ := one tree
    obtain ⟨goesOn, late⟩ := other (begins.kept tree).1
    refine ⟨begins.trans goesOn, fun visit member => ?_⟩
    rcases late visit member with before | found
    · refine (early visit before).imp_right fun found => ?_
      exact found.of_keeps (goesOn.kept (begins.kept tree).1).2
    · exact Or.inr found
  · intro directory output package files progress tree
    refine ⟨plan.visit_becomes directory output package files progress, fun visit member => ?_⟩
    refine (mem_visits_of_visit member).imp_right ?_
    rintro ⟨marker, decision, decides, committed, rfl⟩
    exact freshFound_of_decides tree decides (committed real) directory

end Plan
end PackageDoc
