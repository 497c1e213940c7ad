import PackageDoc.Proofs.Run.Prepared
import PackageDoc.Proofs.Run.Validation
import PackageDoc.Proofs.Walk.Writes

/-! # Templates stay loaded

A run only writes files and makes directories, so on every disk that it comes to, the template of
each rule is found where it was found in planning, and the store has it.  No run fails for want of a
template. -/
set_option autoImplicit false

namespace PackageDoc
open PackageDoc.Text

theorem prepareOutput_becomes (options : Options) (disk : Disk) :
    disk.Becomes (options.prepareOutput disk).1 := by
  unfold Options.prepareOutput
  split
  · exact Plan.ensureDirectory_becomes disk options.output
  · exact .refl

theorem generate_becomes (options : Options) (disk : Disk) :
    disk.Becomes (generate options disk).2 := by
  unfold generate
  split
  · exact .refl
  · split
    · exact .refl
    next plan _ =>
      have prepared := prepareOutput_becomes options disk
      split
      next ready => rw [ready] at prepared; exact prepared
      next start ready =>
        rw [ready] at prepared
        have walks := plan.walk_becomes Disk.pathLimit [] options.source options.output ""
          { disk := start }
        split
        next walked => rw [walked] at walks; exact prepared.trans walks
        next walked => rw [walked] at walks; exact prepared.trans walks

/-! ## Templates on a later disk -/

/-- The template of a rule is where it was in planning, and the store has what it held then. -/
structure Plan.Has (plan : Plan) (disk later : Disk) (rule : Rule) : Prop where
  place : ∃ location, disk.locate rule.template = .ok location ∧
    later.locate rule.template = .ok location
  file : later.isFile rule.template = true
  text : ∃ text, disk.readText rule.template = .ok text ∧
    plan.templates.get later rule.template = .ok text

section Planned
variable {options : Options} {disk : Disk} {plan : Plan} (tree : disk.IsTree)
  (planned : options.plan disk = .ok plan)
include tree planned

theorem has_of_becomes {later : Disk} (becomes : disk.Becomes later) {rule : Rule}
    (member : rule ∈ plan.rules) : plan.Has disk later rule := by
  have files := isFile_of_planned planned
  obtain ⟨rules, templates, _, loaded, rfl⟩ := (plan_eq_ok_iff _ _ _).1 planned
  have keeps := (becomes.kept tree).2
  obtain ⟨location, _, located, _⟩ := Disk.locate_of_isFile (files rule member)
  obtain ⟨text, got, read⟩ := TemplateStore.get_eq_readText loaded member (files rule member)
  refine ⟨⟨location, located, Disk.locate_of_keeps keeps located⟩,
    Disk.isFile_of_keeps keeps (files rule member), text, read, ?_⟩
  unfold TemplateStore.get at got ⊢
  rw [Disk.key_of_keeps keeps located]
  exact got

theorem traces_loaded : plan.Traces (fun _ => True) (fun progress => disk.Becomes progress.disk)
    (fun before after => before.disk.Becomes after.disk)
    (fun before failure after => before.disk.Becomes after.disk ∧
      ∀ path, failure ≠ .templateNotLoaded path) where
  refl _ := .refl
  trans _ _ _ := Disk.Becomes.trans
  keeps _ _ later earlier := earlier.trans later
  child _ _ _ _ _ _ := trivial
  cycle _ _ _ := ⟨.refl, fun _ => Failure.noConfusion⟩
  listing _ _ failed := by
    obtain ⟨cause, rfl⟩ := Plan.list_eq_error failed
    exact ⟨.refl, fun _ => Failure.noConfusion⟩
  visit := by
    intro call progress listing _ becomes _
    have after := plan.visit_becomes call.directory call.output call.package listing.files progress
    cases visited : plan.visit call.directory call.output call.package listing.files progress with
    | ok final => rw [visited] at after; exact after
    | error failed =>
      rw [visited] at after
      refine ⟨progress, .refl, after, ?_⟩
      rintro path missing
      have fails := Plan.visit_eq_error visited
      rw [missing] at fails
      rcases fails with ⟨undecided, _⟩ | ⟨_, _, _, _, unwritten, _⟩
      · rcases Plan.decide_eq_error undecided with ⟨_, _, other⟩ | ⟨rule, member, absent⟩
        · cases other
        · obtain ⟨text, _, got⟩ := (has_of_becomes tree planned becomes member).text
          rw [got] at absent
          cases absent
      · rcases Plan.commit_eq_error unwritten with ⟨_, other⟩ | ⟨_, _, other⟩
        · cases other
        · cases other

theorem walk_ne_templateNotLoaded (fuel : Nat) (ancestors : List (List Path.Part))
    (directory output : Path) (package : String) {progress : Progress}
    (becomes : disk.Becomes progress.disk) (path : String) (after : Progress) :
    plan.walk fuel ancestors directory output package progress ≠
      .error (.templateNotLoaded path, after) := by
  intro failed
  have ends := (traces_loaded tree planned).walk_ends fuel ⟨ancestors, directory, output, package⟩
    progress trivial becomes
  unfold Plan.walkFrom at ends
  rw [failed] at ends
  obtain ⟨_, _, _, other⟩ := ends
  exact other path rfl

end Planned

/-- No run fails for want of a template: on each disk that it can come to, every template is found
where it was and is in the store. -/
theorem templates_stay_loaded (options : Options) (disk : Disk) (tree : disk.IsTree) :
    (∀ path after, generate options disk ≠ (.error (.templateNotLoaded path), after)) ∧
    ∀ plan, options.plan disk = .ok plan →
      disk.Becomes (options.prepareOutput disk).1 ∧
      (∀ (fuel : Nat) (ancestors : List (List Path.Part)) (directory output : Path)
        (package : String) (progress : Progress), disk.Becomes progress.disk →
          disk.Becomes
            (Plan.left (plan.walk fuel ancestors directory output package progress)).disk ∧
          ∀ path after, plan.walk fuel ancestors directory output package progress ≠
            .error (.templateNotLoaded path, after)) ∧
      ∀ later, disk.Becomes later → ∀ rule ∈ plan.rules, plan.Has disk later rule := by
  refine ⟨?_, ?_⟩
  · intro path after failed
    rcases generate_eq_error failed with ⟨unplanned, _⟩ | ⟨plan, planned, ended⟩
    · have early := isConfiguration_of_unplanned unplanned
      cases early
    · cases ended with
      | unprepared _ unready =>
        obtain ⟨cause, other⟩ := prepareOutput_eq_error unready
        cases other
      | @stopped prepared progress _ _ ready stopped =>
        have becomes := prepareOutput_becomes options disk
        rw [ready] at becomes
        exact walk_ne_templateNotLoaded tree planned _ _ _ _ _ becomes path progress stopped
  · intro plan planned
    refine ⟨prepareOutput_becomes options disk, ?_, fun later becomes rule member =>
      has_of_becomes tree planned becomes member⟩
    intro fuel ancestors directory output package progress becomes
    exact ⟨becomes.trans (plan.walk_becomes _ _ _ _ _ _), fun path after =>
      walk_ne_templateNotLoaded tree planned _ _ _ _ _ becomes path after⟩

namespace Sample

/-- The template is a link into the output tree. -/
def linked : Disk where
  entries := [([bytes "out"], .directory), ([bytes "out", bytes "t"], .file (bytes "package q;")),
    ([bytes "src"], .directory), ([bytes "src", bytes "a"], .directory),
    ([bytes "src", bytes "a", bytes "A.java"], .file []), ([bytes "t"], .link (.ofString "out/t"))]
  current := []
  ordered := by unfold Ordered; decide

end Sample

theorem templates_stay_loaded_sample :
    (∀ path after, generate Sample.plain Sample.linked ≠
        (.error (.templateNotLoaded path), after)) ∧
      ∃ plan, Sample.plain.plan Sample.linked = .ok plan ∧ plan.rules.length = 1 ∧
        (generate Sample.plain Sample.linked).2.isFile Sample.fileOfA = true ∧
        ∀ rule ∈ plan.rules, plan.Has Sample.linked (generate Sample.plain Sample.linked).2 rule :=
  have stays := templates_stay_loaded Sample.plain Sample.linked (by decide)
  ⟨stays.1, _, rfl, rfl, by decide +kernel,
    (stays.2 _ rfl).2.2 _ (generate_becomes Sample.plain Sample.linked)⟩

end PackageDoc
