import PackageDoc.Proofs.Walk.Writes

/-! # How visits come about

Each visit that a walk tells of was decided on a disk that the walk had come to by writing, from the
list that its directory had there.  So what holds of every decision on such a disk holds of every
visit. -/
set_option autoImplicit false

namespace PackageDoc.Plan
open PackageDoc.Text

/-- A visit that tells what was decided from the list of its directory, on a disk that has come
about since. -/
def Arises (plan : Plan) (disk : Disk) (visit : Visit) : Prop :=
  ∃ later listing output change, disk.Becomes later ∧
    plan.list later visit.directory = .ok listing ∧
    plan.Decides later visit.package output
      (plan.markerAmong visit.directory listing.files) ⟨visit.rule, visit.outcome, change⟩

variable {plan : Plan} {disk : Disk}

theorem arises_of_visit {call : Call} {progress final : Progress} {listing : Listing}
    (becomes : disk.Becomes progress.disk)
    (listed : plan.list progress.disk call.directory = .ok listing)
    (visited : plan.visit call.directory call.output call.package listing.files progress =
      .ok final) :
    ∀ visit ∈ final.visits, visit ∈ progress.visits ∨ plan.Arises disk visit := by
  intro visit member
  obtain ⟨decision, after, decided, _, rfl⟩ := (plan.visit_eq_ok_iff _ _ _ _ _ _).1 visited
  have decides := (plan.decide_eq_ok_iff _ _ _ _ _).1 decided
  cases List.mem_append.1 member with
  | inl earlier => exact Or.inl earlier
  | inr new =>
    have same := List.mem_singleton.1 new
    subst same
    exact Or.inr ⟨progress.disk, listing, call.output, decision.change, becomes, listed, decides⟩

theorem traces_arises (plan : Plan) (disk : Disk) :
    plan.Traces (fun _ => True) (fun progress => disk.Becomes progress.disk)
      (fun before after => before.disk.Becomes after.disk ∧
        ∀ visit ∈ after.visits, visit ∈ before.visits ∨ plan.Arises disk visit)
      (fun _ _ _ => True) where
  refl _ := ⟨.refl, fun _ => Or.inl⟩
  trans first second third one other := by
    refine ⟨one.1.trans other.1, fun visit member => ?_⟩
    cases other.2 visit member with
    | inl earlier => exact one.2 visit earlier
    | inr arises => exact Or.inr arises
  keeps _ _ step becomes := becomes.trans step.1
  child _ _ _ _ _ _ := trivial
  cycle _ _ _ := trivial
  listing _ _ _ := trivial
  visit := by
    intro call progress listing _ becomes listed
    have later := plan.visit_becomes call.directory call.output call.package listing.files progress
    cases visited : plan.visit call.directory call.output call.package listing.files progress with
    | ok final =>
      rw [visited] at later
      exact ⟨later, arises_of_visit becomes listed visited⟩
    | error failed => exact ⟨progress, ⟨.refl, fun _ => Or.inl⟩, trivial⟩

/-- Every visit of a walk that succeeds was told before or comes about in the walk. -/
theorem walk_arises (fuel : Nat) (ancestors : List (List Path.Part)) (directory output : Path)
    (package : String) {progress final : Progress} (becomes : disk.Becomes progress.disk)
    (walked : plan.walk fuel ancestors directory output package progress = .ok final) :
    ∀ visit ∈ final.visits, visit ∈ progress.visits ∨ plan.Arises disk visit := by
  have ends := (plan.traces_arises disk).walk_ends fuel ⟨ancestors, directory, output, package⟩
    progress trivial becomes
  unfold walkFrom at ends
  rw [walked] at ends
  exact ends.2

end PackageDoc.Plan
