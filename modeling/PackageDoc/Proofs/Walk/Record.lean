import PackageDoc.Proofs.Marker.Basic
import PackageDoc.Proofs.Walk.Effect
import PackageDoc.Proofs.Walk.Writes

/-! # What changes tell of the disk before

Each change of a walk was decided on the disk that the changes before it left, and tells what its
file held there.  Between the beginning of the walk and that disk, nothing was written but at the
places of these earlier changes.  So a change at a new place tells what was there in the beginning. -/
set_option autoImplicit false

namespace PackageDoc
open PackageDoc.Text

namespace Disk

/-! ## What a place holds -/

theorem SparedAt.contentAt {before after : Disk} {location : Location}
    (spared : SparedAt before after location) :
    after.contentAt location = before.contentAt location := by
  unfold Disk.contentAt
  rcases spared with same | ⟨free, made⟩
  · rw [same]
  · rw [free, made]

/-- What a file held before, at the place to which its path leads afterwards. -/
def HeldAt (before after : Disk) (file : Path) (content : Bytes) : Prop :=
  ∃ location, after.locate file = .ok location ∧ before.contentAt location = some content

theorem contentAt_eq_some_iff {disk : Disk} {location : Location} {content : Bytes} :
    disk.contentAt location = some content ↔ disk.node? location = some (.file content) := by
  unfold contentAt
  split <;> simp_all

/-- On one disk, a file holds what its path leads to. -/
theorem heldAt_self_iff {disk : Disk} {file : Path} {content : Bytes} :
    disk.HeldAt disk file content ↔ disk.find? file = some (.file content) := by
  simp only [HeldAt, contentAt_eq_some_iff, find?_eq_some_iff]

end Disk

namespace Plan
variable {plan : Plan}

/-! ## Changes one after another -/

/-- What is done about a decision, unless the run only tells. -/
def performed (plan : Plan) (disk : Disk) (output : Path) (decision : Decision) :
    Disk × Option Failure :=
  if plan.options.dryRun then (disk, none) else commit disk output decision

/-- A log whose changes were decided and made one after another, each on the disk that those before
it left. -/
inductive Records (plan : Plan) : Disk → List (Visit × Change) → Disk → Prop
  | nil {disk : Disk} : Records plan disk [] disk
  | cons {disk middle after : Disk} {visit : Visit} {change : Change}
      {entries : List (Visit × Change)} {output : Path} {marker : Option Path}
      (decides : plan.Decides disk visit.package output marker
        ⟨visit.rule, visit.outcome, some change⟩)
      (written : plan.performed disk output ⟨visit.rule, visit.outcome, some change⟩ =
        (middle, none))
      (rest : Records plan middle entries after) : Records plan disk ((visit, change) :: entries) after

namespace Records
variable {disk middle after : Disk} {front back : List (Visit × Change)}

theorem append (first : plan.Records disk front middle) (second : plan.Records middle back after) :
    plan.Records disk (front ++ back) after := by
  induction first with
  | nil => exact second
  | cons decides written _ ih => exact .cons decides written (ih second)

theorem split (records : plan.Records disk (front ++ back) after) :
    ∃ middle, plan.Records disk front middle ∧ plan.Records middle back after := by
  induction front generalizing disk with
  | nil => exact ⟨disk, .nil, records⟩
  | cons entry front ih =>
    cases records with
    | cons decides written rest =>
      obtain ⟨middle, first, second⟩ := ih rest
      exact ⟨middle, .cons decides written first, second⟩

end Records

/-- A walk has added visits, and changes that were made one after another. -/
def Recorded (plan : Plan) (before after : Progress) : Prop :=
  ∃ visits changes, after.visits = before.visits ++ visits ∧
    after.changes = before.changes ++ changes ∧
    List.Forall₂ Announces (writing visits) changes ∧
    plan.Records before.disk (log visits changes) after.disk

theorem Recorded.refl (progress : Progress) : plan.Recorded progress progress :=
  ⟨[], [], by simp, by simp, .nil, .nil⟩

theorem Recorded.trans {first second third : Progress} (one : plan.Recorded first second)
    (other : plan.Recorded second third) : plan.Recorded first third := by
  obtain ⟨visits, changes, grown, more, announced, records⟩ := one
  obtain ⟨later, others, growing, further, announces, recorded⟩ := other
  refine ⟨visits ++ later, changes ++ others, ?_, ?_, ?_, ?_⟩
  · rw [growing, grown, List.append_assoc]
  · rw [further, more, List.append_assoc]
  · exact announced_append announced announces
  · rw [log_append announced]
    exact records.append recorded

theorem visit_recorded {directory output : Path} {package : String} {files : List Name}
    {progress final : Progress}
    (visited : plan.visit directory output package files progress = .ok final) :
    plan.Recorded progress final := by
  obtain ⟨⟨rule, outcome, changed⟩, disk, decided, written, rfl⟩ :=
    (plan.visit_eq_ok_iff _ _ _ _ _ _).1 visited
  have decides := (plan.decide_eq_ok_iff _ _ _ _ _).1 decided
  rcases decides_change decides directory with ⟨none, reads⟩ | ⟨change, changes, announces⟩
  · dsimp only at none reads
    subst none
    have same : disk = progress.disk := by
      split at written
      · exact (Prod.mk.inj written).1.symm
      · exact (Prod.mk.inj written).1.symm
    subst same
    refine ⟨[_], [], rfl, rfl, by simp [writing, reads], ?_⟩
    simpa [log, writing, reads] using .nil
  · dsimp only at changes
    subst changes
    refine ⟨[_], [change], rfl, rfl, ?_, ?_⟩
    · simpa [writing, announces.writes] using announces
    · have told : log [⟨directory, package, rule, outcome⟩] [change] =
          [(⟨directory, package, rule, outcome⟩, change)] := by
        simp [log, writing, announces.writes]
      dsimp only
      rw [told]
      exact .cons decides written .nil

theorem traces_recorded (plan : Plan) : plan.Traces (fun _ => True) (fun _ => True) plan.Recorded
    (fun _ _ _ => True) where
  refl := Recorded.refl
  trans _ _ _ := Recorded.trans
  keeps _ _ _ _ := trivial
  child _ _ _ _ _ _ := trivial
  cycle _ _ _ := trivial
  listing _ _ _ := trivial
  visit := by
    intro call progress listing _ _ _
    cases visited : plan.visit call.directory call.output call.package listing.files progress with
    | ok final => exact visit_recorded visited
    | error failed => exact ⟨progress, Recorded.refl progress, trivial⟩

theorem walk_recorded (plan : Plan) (fuel : Nat) (ancestors : List (List Path.Part))
    (directory output : Path) (package : String) {progress final : Progress}
    (walked : plan.walk fuel ancestors directory output package progress = .ok final) :
    plan.Recorded progress final := by
  have ends := plan.traces_recorded.walk_ends fuel ⟨ancestors, directory, output, package⟩
    progress trivial trivial
  unfold walkFrom at ends
  rw [walked] at ends
  exact ends

/-! ## What one change tells -/

/-- A change that was decided on a disk tells whether its file was there, and with which content. -/
theorem previous_of_decides {disk : Disk} {package : String} {output : Path} {marker : Option Path}
    {rule : Option Nat} {outcome : Outcome} {change : Change}
    (decides : plan.Decides disk package output marker ⟨rule, outcome, some change⟩) :
    change.previous = none ∧ disk.isFile change.file = false ∨
      ∃ content, disk.find? change.file = some (.file content) ∧
        change.previous = some (lossyString content) ∧ content ≠ bytes change.content ∧
        (string? content = none → outcome = .generated change.file) := by
  cases decides with
  | @generated _ _ old _ _ _ found differs =>
    rw [previous_eq] at found
    dsimp only
    cases held : disk.find? (plan.freshFile output) with
    | none =>
      rw [held] at found
      cases found
      exact Or.inl ⟨rfl, by simp [Disk.isFile, held]⟩
    | some node =>
      rw [held] at found
      cases node with
      | file content =>
        cases found
        exact Or.inr ⟨content, rfl, rfl, fun same => differs (by rw [same]), fun _ => rfl⟩
      | directory => cases found; exact Or.inl ⟨rfl, by simp [Disk.isFile, held]⟩
      | link target => cases found; exact Or.inl ⟨rfl, by simp [Disk.isFile, held]⟩
  | @replaced _ file template source _ _ _ read _ _ differs =>
    refine Or.inr ⟨bytes source, Disk.readText_eq_ok_iff.1 read, ?_, fun same => ?_, ?_⟩
    · rw [lossyString_bytes]
    · have apart := (MarkerPattern.changed_iff plan.options.markerPattern source
        (body template package)).1 differs
      exact apart (bytes_injective same).symm
    · rw [string?_bytes]
      exact fun none => nomatch none

/-! ## What a log leaves -/

theorem performed_becomes (plan : Plan) (disk : Disk) (output : Path) (decision : Decision) :
    disk.Becomes (plan.performed disk output decision).1 := by
  unfold performed
  split
  · exact .refl
  · exact commit_becomes disk output decision

/-- A change that is made leaves its file at one place and spares all others. -/
theorem performed_spares {disk after : Disk} (tree : disk.IsTree)
    (real : plan.options.dryRun = false) {output : Path} {decision : Decision} {change : Change}
    (changes : decision.change = some change)
    (written : plan.performed disk output decision = (after, none)) :
    ∃ place, after.locate change.file = .ok place ∧
      ∀ location, location ≠ place → Disk.SparedAt disk after location := by
  unfold performed at written
  rw [real, if_neg Bool.false_ne_true] at written
  obtain ⟨middle, extended, _, write⟩ := commit_written tree changes written
  obtain ⟨place, target, located, rfl⟩ := Disk.locate_of_write extended.tree write
  refine ⟨place, located, fun location other => ?_⟩
  have writable := Disk.target_writable extended.tree target
  have paved : Disk.SparedAt disk middle location := extended.paved.node location
  exact paved.trans (Or.inl (Disk.node?_put_of_ne middle writable.below _ other))

namespace Records
variable {disk after : Disk} {entries : List (Visit × Change)}

theorem becomes (records : plan.Records disk entries after) : disk.Becomes after := by
  induction records with
  | nil => exact .refl
  | @cons disk _ _ visit change _ output _ _ written _ ih =>
    have step := plan.performed_becomes disk output ⟨visit.rule, visit.outcome, some change⟩
    rw [written] at step
    exact step.trans ih

theorem dry (records : plan.Records disk entries after) (dry : plan.options.dryRun = true) :
    after = disk := by
  induction records with
  | nil => rfl
  | cons _ written _ ih =>
    unfold performed at written
    rw [if_pos dry] at written
    rw [ih]
    exact (Prod.mk.inj written).1.symm

variable (tree : disk.IsTree) (records : plan.Records disk entries after)
include tree records

theorem keeps : Disk.Keeps disk after := (records.becomes.kept tree).2

/-- A log that is written spares every place to which none of its changes leads. -/
theorem spares (real : plan.options.dryRun = false) (location : Location) :
    (∃ entry ∈ entries, after.locate entry.2.file = .ok location) ∨
      Disk.SparedAt disk after location := by
  induction records with
  | nil => exact Or.inr (Or.inl rfl)
  | @cons disk middle after visit change entries output _ _ written rest ih =>
    obtain ⟨place, located, spared⟩ := performed_spares tree real rfl written
    have step := plan.performed_becomes disk output ⟨visit.rule, visit.outcome, some change⟩
    rw [written] at step
    have stands := (step.kept tree).1
    rcases ih stands with ⟨entry, member, there⟩ | later
    · exact Or.inl ⟨entry, List.mem_cons_of_mem _ member, there⟩
    · by_cases here : location = place
      · subst here
        exact Or.inl ⟨_, List.mem_cons_self, Disk.locate_of_keeps (rest.keeps stands) located⟩
      · exact Or.inr ((spared location here).trans later)

/-- A place is spared if nothing is written, or if no change leads to it when a later walk has
ended. -/
theorem spared {later : Disk} (keeps : Disk.Keeps after later) {location : Location}
    (untouched : plan.options.dryRun = true ∨
      ∀ entry ∈ entries, later.locate entry.2.file ≠ .ok location) :
    Disk.SparedAt disk after location := by
  cases real : plan.options.dryRun with
  | true =>
    rw [records.dry real]
    exact Or.inl rfl
  | false =>
    rcases records.spares tree real location with ⟨entry, member, there⟩ | spared
    · rw [real] at untouched
      exact absurd (Disk.locate_of_keeps keeps there)
        (untouched.resolve_left Bool.false_ne_true entry member)
    · exact spared

end Records

/-! ## What a log tells -/

/-- What a change tells of the disk before a walk, at the place to which its file leads when the walk
has ended. -/
structure Recalls (before after : Disk) (visit : Visit) (change : Change) : Prop where
  none : change.previous = none → before.isFile change.file = false
  some : ∀ text, change.previous = some text → ∃ content, before.HeldAt after change.file content ∧
    text = lossyString content ∧ content ≠ bytes change.content ∧
    (string? content = .none → visit.outcome = .generated change.file)

/-- A change whose place no earlier change was made at tells of the disk before the walk. -/
theorem Records.recalls {disk after : Disk} (tree : disk.IsTree)
    {front back : List (Visit × Change)} {visit : Visit} {change : Change}
    (records : plan.Records disk (front ++ (visit, change) :: back) after)
    (first : plan.options.dryRun = true ∨
      ∀ other ∈ front, after.locate other.2.file ≠ after.locate change.file) :
    Recalls disk after visit change := by
  obtain ⟨middle, earlier, later⟩ := records.split
  have early := earlier.becomes.kept tree
  have late := later.keeps early.1
  cases later with
  | @cons _ next _ _ _ _ output _ decides written rest =>
    rcases previous_of_decides decides with ⟨absent, missing⟩ | ⟨content, found, old, differs, raw⟩
    · refine ⟨fun _ => ?_, fun text some => ?_⟩
      · cases there : disk.isFile change.file with
        | false => rfl
        | true => rw [Disk.isFile_of_keeps early.2 there] at missing; cases missing
      · rw [absent] at some
        cases some
    · refine ⟨fun none => ?_, fun text some => ⟨content, ?_, ?_, differs, raw⟩⟩
      · rw [old] at none
        cases none
      · obtain ⟨location, located, held⟩ := Disk.find?_eq_some_iff.1 found
        have there := Disk.locate_of_keeps late located
        rw [there] at first
        refine ⟨location, there, ?_⟩
        rw [← (earlier.spared tree late first).contentAt]
        exact Disk.contentAt_eq_some_iff.2 held
      · rw [old] at some
        exact (Option.some.inj some).symm

end Plan
end PackageDoc
