import PackageDoc.Proofs.Disk.Writing
import PackageDoc.Proofs.Walk.Decision
import PackageDoc.Proofs.Walk.Basic

/-! # The calls of a walk

A walk makes one call for each directory that it enters.  `Traces` collects what has to be known of a
single call: how the calls below it come about, what a visit does, and what a failure means.  From
that, `walk_ends` tells what a whole walk does, whether it succeeds or fails on the way. -/
set_option autoImplicit false

namespace PackageDoc.Plan
open PackageDoc.Text

structure Call where
  ancestors : List (List Path.Part)
  directory : Path
  output : Path
  package : String

namespace Call

def child (call : Call) (disk : Disk) (name : Name) (text : String) : Call :=
  ⟨disk.key call.directory :: call.ancestors, call.directory.child name, call.output.child name,
    subpackage call.package text⟩

def isCyclic (call : Call) (disk : Disk) : Bool :=
  call.ancestors.contains (disk.key call.directory)

end Call

def sourceCall (plan : Plan) : Call := ⟨[], plan.options.source, plan.options.output, ""⟩

def walkFrom (plan : Plan) (fuel : Nat) (call : Call) (progress : Progress) :
    Except (Failure × Progress) Progress :=
  plan.walk fuel call.ancestors call.directory call.output call.package progress

def visitCall (plan : Plan) (call : Call) (listing : Listing) (progress : Progress) :
    Except (Failure × Progress) Progress :=
  plan.visitSources call.directory call.output call.package listing.files progress

/-- What a call does about one entry of its directory; `disk` is the one with which it began. -/
def enterCall (plan : Plan) (fuel : Nat) (call : Call) (disk : Disk) (progress : Progress)
    (name : Name) : Except (Failure × Progress) Progress :=
  match string? name with
  | none => .ok progress
  | some text => plan.walkFrom fuel (call.child disk name text) progress

theorem walkFrom_succ (plan : Plan) (fuel : Nat) (call : Call) (progress : Progress) :
    plan.walkFrom (fuel + 1) call progress =
      if call.isCyclic progress.disk then
        .error (.symlinkCycle call.directory.display, progress)
      else
        match plan.list progress.disk call.directory with
        | .error failure => .error (failure, progress)
        | .ok listing =>
          plan.visitCall call listing progress >>=
            listing.directories.foldlM (plan.enterCall fuel call progress.disk) :=
  walk_succ plan fuel call.ancestors call.directory call.output call.package progress

/-! ## Steps that end a walk -/

section Ends
variable (Step : Progress → Progress → Prop) (Stop : Progress → Failure → Progress → Prop)

/-- Steps were made up to the end, or up to a progress at which the walk stopped. -/
def Ends (progress : Progress) : Except (Failure × Progress) Progress → Prop
  | .ok final => Step progress final
  | .error (failure, after) => ∃ middle, Step progress middle ∧ Stop middle failure after

variable {Step Stop} (trans : ∀ first second third : Progress, Step first second →
  Step second third → Step first third)
include trans

theorem Ends.bind {progress : Progress} {first : Except (Failure × Progress) Progress}
    {next : Progress → Except (Failure × Progress) Progress} (begins : Ends Step Stop progress first)
    (goesOn : ∀ middle, Step progress middle → Ends Step Stop middle (next middle)) :
    Ends Step Stop progress (first >>= next) := by
  cases first with
  | error failed => exact begins
  | ok middle =>
    have later := goesOn middle begins
    change Ends Step Stop progress (next middle)
    cases ended : next middle with
    | ok final =>
      rw [ended] at later
      exact trans _ _ _ begins later
    | error failed =>
      rw [ended] at later
      obtain ⟨last, steps, stops⟩ := later
      exact ⟨last, trans _ _ _ begins steps, stops⟩

theorem ends_foldlM (refl : ∀ progress, Step progress progress) {Good : Progress → Prop}
    (keeps : ∀ before after, Step before after → Good before → Good after)
    {step : Progress → Name → Except (Failure × Progress) Progress} : ∀ (names : List Name),
    (∀ name ∈ names, ∀ progress, Good progress → Ends Step Stop progress (step progress name)) →
      ∀ progress, Good progress → Ends Step Stop progress (names.foldlM step progress) := by
  intro names
  induction names with
  | nil => intro _ progress _; exact refl progress
  | cons name rest ih =>
    intro each progress good
    rw [List.foldlM_cons]
    refine Ends.bind trans (each name List.mem_cons_self progress good) fun middle steps => ?_
    exact ih (fun name member => each name (List.mem_cons_of_mem _ member)) middle
      (keeps _ _ steps good)

end Ends

/-! ## What a walk does -/

/-- What the calls of a walk have in common.  `At` says which calls there are and `Good` with which
progress they begin. -/
structure Traces (plan : Plan) (At : Call → Prop) (Good : Progress → Prop)
    (Step : Progress → Progress → Prop) (Stop : Progress → Failure → Progress → Prop) : Prop where
  refl : ∀ progress, Step progress progress
  trans : ∀ first second third, Step first second → Step second third → Step first third
  keeps : ∀ before after, Step before after → Good before → Good after
  child : ∀ {call progress listing name text}, At call → Good progress →
    call.isCyclic progress.disk = false →
    plan.list progress.disk call.directory = .ok listing → name ∈ listing.directories →
    string? name = some text → At (call.child progress.disk name text)
  cycle : ∀ {call progress}, At call → Good progress → call.isCyclic progress.disk = true →
    Stop progress (.symlinkCycle call.directory.display) progress
  listing : ∀ {call progress failure}, At call → Good progress →
    plan.list progress.disk call.directory = .error failure → Stop progress failure progress
  visit : ∀ {call progress listing}, At call → Good progress →
    plan.list progress.disk call.directory = .ok listing →
    Ends Step Stop progress
      (plan.visit call.directory call.output call.package listing.files progress)

theorem Traces.walk_ends {plan : Plan} {At : Call → Prop} {Good : Progress → Prop}
    {Step : Progress → Progress → Prop} {Stop : Progress → Failure → Progress → Prop}
    (traces : plan.Traces At Good Step Stop) : ∀ (fuel : Nat) (call : Call) (progress : Progress),
      At call → Good progress → Ends Step Stop progress (plan.walkFrom fuel call progress) := by
  intro fuel
  induction fuel with
  | zero => intro call progress _ _; exact traces.refl progress
  | succ fuel ih =>
    intro call progress at_ good
    rw [walkFrom_succ]
    split
    next cyclic => exact ⟨progress, traces.refl progress, traces.cycle at_ good cyclic⟩
    next open_ =>
      rw [Bool.not_eq_true] at open_
      split
      next failure failed => exact ⟨progress, traces.refl progress, traces.listing at_ good failed⟩
      next listing listed =>
        have visited : Ends Step Stop progress (plan.visitCall call listing progress) := by
          unfold visitCall visitSources
          split
          · exact traces.refl progress
          · exact traces.visit at_ good listed
        refine visited.bind traces.trans fun middle steps => ?_
        refine ends_foldlM traces.trans traces.refl traces.keeps _ ?_ middle (traces.keeps _ _ steps good)
        intro name member later laterGood
        unfold enterCall
        cases decoded : string? name with
        | none => exact traces.refl later
        | some text => exact ih _ later (traces.child at_ good open_ listed member decoded) laterGood

/-! ## How a visit fails -/

theorem visit_eq_error {plan : Plan} {directory output : Path} {package : String}
    {files : List Name} {progress after : Progress} {failure : Failure}
    (failed : plan.visit directory output package files progress = .error (failure, after)) :
    plan.decide progress.disk package
        ((files.find? (· = bytes plan.options.markerFile)).map directory.child) output =
          .error failure ∧ after = progress ∨
      ∃ decision disk, plan.decide progress.disk package
          ((files.find? (· = bytes plan.options.markerFile)).map directory.child) output =
            .ok decision ∧
        plan.options.dryRun = false ∧ commit progress.disk output decision = (disk, some failure) ∧
        after = { progress with disk := disk } := by
  unfold visit at failed
  dsimp only at failed
  split at failed
  next cause decided =>
    cases failed
    exact Or.inl ⟨decided, rfl⟩
  next decision decided =>
    split at failed
    next disk cause written =>
      cases failed
      split at written
      · cases written
      next real => exact Or.inr ⟨decision, disk, decided, by simpa using real, written, rfl⟩
    next => cases failed

theorem previous_eq_error {disk : Disk} {file : Path} {failure : Failure}
    (failed : previous disk file = .error failure) :
    ∃ path cause, failure = .reading path cause := by
  unfold previous at failed
  split at failed
  · cases failed
  · split at failed
    · cases failed
    · cases failed
      exact ⟨_, _, rfl⟩

/-- A decision fails if a file cannot be read, or for want of a template. -/
theorem decide_eq_error {plan : Plan} {disk : Disk} {package : String} {marker : Option Path}
    {output : Path} {failure : Failure}
    (failed : plan.decide disk package marker output = .error failure) :
    (∃ path cause, failure = .reading path cause) ∨
      ∃ rule ∈ plan.rules, plan.templates.get disk rule.template = .error failure := by
  unfold decide at failed
  split at failed
  · cases failed
  next rule claimed =>
    have member := List.mem_of_find?_eq_some claimed
    split at failed
    · split at failed
      next =>
        unfold decideNew render at failed
        cases loaded : plan.templates.get disk rule.template with
        | error cause =>
          rw [loaded] at failed
          cases failed
          exact Or.inr ⟨rule, member, loaded⟩
        | ok template =>
          rw [loaded] at failed
          simp only [bind, Except.bind, pure, Except.pure] at failed
          split at failed
          next found =>
            cases failed
            exact Or.inl (previous_eq_error found)
          next => split at failed <;> cases failed
      next => cases failed
    · split at failed
      next =>
        unfold decideRegion render at failed
        split at failed
        · cases failed
        · split at failed
          · cases failed
            exact Or.inl ⟨_, _, rfl⟩
          · cases loaded : plan.templates.get disk rule.template with
            | error cause =>
              rw [loaded] at failed
              cases failed
              exact Or.inr ⟨rule, member, loaded⟩
            | ok template =>
              rw [loaded] at failed
              simp only [bind, Except.bind, pure, Except.pure] at failed
              split at failed
              · cases failed
              · split at failed <;> cases failed
      next => cases failed

theorem ensureDirectory_eq_error {disk after : Disk} {path : Path} {failure : Failure}
    (failed : ensureDirectory disk path = (after, some failure)) :
    disk.holds path = false ∧ ∃ cause, disk.createDirectories path = (after, some cause) ∧
      failure = .creating path.display cause := by
  unfold ensureDirectory at failed
  split at failed
  · cases failed
  next missing =>
    split at failed
    · cases failed
    next cause created =>
      cases failed
      exact ⟨by simpa using missing, cause, created, rfl⟩

theorem writeChange_eq_error {disk after : Disk} {change : Change} {failure : Failure}
    (failed : writeChange disk change = (after, some failure)) :
    after = disk ∧ ∃ cause, failure = .writing change.file.display cause := by
  unfold writeChange at failed
  split at failed
  · cases failed
  next cause written =>
    cases failed
    exact ⟨Disk.write_eq_error written, cause, rfl⟩

theorem commit_eq_error {disk after : Disk} {output : Path} {decision : Decision}
    {failure : Failure} (failed : commit disk output decision = (after, some failure)) :
    (∃ cause, failure = .creating output.display cause) ∨
      ∃ path cause, failure = .writing path cause := by
  unfold commit at failed
  split at failed
  · cases failed
  · split at failed
    · split at failed
      next made =>
        cases failed
        obtain ⟨_, cause, _, rfl⟩ := ensureDirectory_eq_error made
        exact Or.inl ⟨cause, rfl⟩
      next =>
        obtain ⟨_, cause, rfl⟩ := writeChange_eq_error failed
        exact Or.inr ⟨_, cause, rfl⟩
    · obtain ⟨_, cause, rfl⟩ := writeChange_eq_error failed
      exact Or.inr ⟨_, cause, rfl⟩

inductive VisitFails : Failure → Prop
  | notLoaded (path : String) : VisitFails (.templateNotLoaded path)
  | reading (path : String) (cause : DiskError) : VisitFails (.reading path cause)
  | creating (path : String) (cause : DiskError) : VisitFails (.creating path cause)
  | writing (path : String) (cause : DiskError) : VisitFails (.writing path cause)

theorem visitFails_of_visit {plan : Plan} {directory output : Path} {package : String}
    {files : List Name} {progress after : Progress} {failure : Failure}
    (failed : plan.visit directory output package files progress = .error (failure, after)) :
    VisitFails failure := by
  rcases visit_eq_error failed with ⟨undecided, _⟩ | ⟨_, _, _, _, unwritten, _⟩
  · rcases decide_eq_error undecided with ⟨path, cause, rfl⟩ | ⟨rule, _, missing⟩
    · exact .reading path cause
    · unfold TemplateStore.get at missing
      split at missing <;> cases missing
      exact .notLoaded _
  · rcases commit_eq_error unwritten with ⟨cause, rfl⟩ | ⟨path, cause, rfl⟩
    · exact .creating _ cause
    · exact .writing path cause

theorem list_eq_error {plan : Plan} {disk : Disk} {directory : Path} {failure : Failure}
    (failed : plan.list disk directory = .error failure) :
    ∃ cause, failure = .listing directory.display cause := by
  unfold list at failed
  split at failed
  · cases failed
    exact ⟨_, rfl⟩
  · cases failed

end PackageDoc.Plan
