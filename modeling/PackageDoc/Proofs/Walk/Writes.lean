import PackageDoc.Proofs.Disk.Becoming
import PackageDoc.Proofs.Disk.Key
import PackageDoc.Proofs.Run.Plan
import PackageDoc.Proofs.Walk.Log

/-! # What a walk writes

A walk writes files and makes directories and nothing else.  At a place where a template of the store
is, it writes new files only: a region is never replaced there.  So what such a place holds in the
end can be read off the log. -/
set_option autoImplicit false

namespace PackageDoc
open PackageDoc.Text

namespace Plan

/-! ## What a walk does to a disk -/

theorem ensureDirectory_becomes (disk : Disk) (path : Path) :
    disk.Becomes (ensureDirectory disk path).1 := by
  have made : disk.Becomes (disk.createDirectories path).1 := .make .refl path
  unfold ensureDirectory
  split
  · exact .refl
  · split
    next created => rw [created] at made; exact made
    next created => rw [created] at made; exact made

theorem writeChange_becomes (disk : Disk) (change : Change) :
    disk.Becomes (writeChange disk change).1 := by
  have stored : disk.Becomes (disk.write change.file (bytes change.content)).1 :=
    .write .refl change.file (bytes change.content)
  unfold writeChange
  split
  next written => rw [written] at stored; exact stored
  next written => rw [written] at stored; exact stored

theorem commit_becomes (disk : Disk) (output : Path) (decision : Decision) :
    disk.Becomes (commit disk output decision).1 := by
  unfold commit
  split
  · exact .refl
  next change _ =>
    split
    · have ensured := ensureDirectory_becomes disk output
      split
      next made => rw [made] at ensured; exact ensured
      next made => rw [made] at ensured; exact ensured.trans (writeChange_becomes _ change)
    · exact writeChange_becomes disk change

theorem visit_becomes (plan : Plan) (directory output : Path) (package : String)
    (files : List Name) (progress : Progress) :
    progress.disk.Becomes (left (plan.visit directory output package files progress)).disk := by
  unfold visit
  dsimp only
  split
  · exact .refl
  next decision _ =>
    have committed := commit_becomes progress.disk output decision
    split
    next written =>
      split at written
      · cases written
      · rw [written] at committed
        exact committed
    next written =>
      split at written
      · cases written
        exact .refl
      · rw [written] at committed
        exact committed

/-- A visit that is told of once a directory was visited is an earlier one, or that of the directory
itself. -/
theorem mem_visits_of_visit {plan : Plan} {directory output : Path} {package : String}
    {files : List Name} {progress : Progress} {visit : Visit}
    (member : visit ∈ (left (plan.visit directory output package files progress)).visits) :
    visit ∈ progress.visits ∨ ∃ marker decision,
      plan.Decides progress.disk package output marker decision ∧
      (plan.options.dryRun = false → commit progress.disk output decision =
        ((left (plan.visit directory output package files progress)).disk, none)) ∧
      visit = ⟨directory, package, decision.rule, decision.outcome⟩ := by
  cases visited : plan.visit directory output package files progress with
  | error failed =>
    rw [visited] at member
    have same : failed.2.visits = progress.visits := by
      rcases visit_eq_error visited with ⟨_, same⟩ | ⟨_, _, _, _, _, same⟩
      · rw [same]
      · rw [same]
    exact Or.inl (same ▸ member)
  | ok final =>
    rw [visited] at member
    obtain ⟨decision, after, decided, written, rfl⟩ := (plan.visit_eq_ok_iff _ _ _ _ _ _).1 visited
    rcases List.mem_append.1 member with early | new
    · exact Or.inl early
    · refine Or.inr ⟨_, decision, (plan.decide_eq_ok_iff _ _ _ _ _).1 decided, fun real => ?_,
        List.mem_singleton.1 new⟩
      rw [real, if_neg Bool.false_ne_true] at written
      exact written

theorem walk_becomes (plan : Plan) (fuel : Nat) (ancestors : List (List Path.Part))
    (directory output : Path) (package : String) (progress : Progress) :
    progress.disk.Becomes
      (left (plan.walk fuel ancestors directory output package progress)).disk :=
  left_walk plan (fun before after => before.disk.Becomes after.disk) (fun _ => .refl)
    (fun first second => first.trans second) (visit_becomes plan) fuel ancestors directory output
    package progress

end Plan

/-! ## The file at a place -/

/-- Whether a file of the output tree is written. -/
def Outcome.isNew : Outcome → Bool
  | .generated _ => true
  | _ => false

/-- Whether an entry of a log tells of a new file at a place. -/
def isNewAt (disk : Disk) (place : List Path.Part) (entry : Visit × Change) : Bool :=
  entry.1.outcome.isNew && decide (disk.key entry.2.file = place)

/-- The last new file at a place that a log tells of. -/
def newestAt? (disk : Disk) (place : List Path.Part) (entries : List (Visit × Change)) :
    Option Change :=
  ((entries.filter (isNewAt disk place)).getLast?).map (·.2)

/-- What a file holds once a new one is written in its place, if one is. -/
def Change.contentOver (content : Bytes) (newest : Option Change) : Bytes :=
  newest.elim content fun change => bytes change.content

theorem contentOver_append (disk : Disk) (place : List Path.Part) (content : Bytes)
    (first second : List (Visit × Change)) :
    Change.contentOver content (newestAt? disk place (first ++ second)) =
      Change.contentOver (Change.contentOver content (newestAt? disk place first))
        (newestAt? disk place second) := by
  unfold newestAt? Change.contentOver
  rw [List.filter_append, List.getLast?_append]
  cases (second.filter (isNewAt disk place)).getLast? with
  | none => rfl
  | some entry => rfl

theorem newestAt?_of_keeps {before after : Disk} (keeps : Disk.Keeps before after)
    (place : List Path.Part) {entries : List (Visit × Change)}
    (located : ∀ entry ∈ entries, ∃ location, before.locate entry.2.file = .ok location) :
    newestAt? after place entries = newestAt? before place entries := by
  unfold newestAt?
  congr 2
  refine List.filter_congr fun entry member => ?_
  obtain ⟨location, found⟩ := located entry member
  unfold isNewAt
  rw [Disk.key_of_keeps keeps found]

namespace Plan
variable {plan : Plan}

theorem ensureDirectory_extended {disk : Disk} (tree : disk.IsTree) (path : Path) :
    Disk.Extended disk (ensureDirectory disk path).1 := by
  unfold ensureDirectory
  split
  · exact Disk.Extended.refl tree
  · split
    next created => exact (Disk.createDirectories_extended tree created).1
    next created => exact (Disk.createDirectories_extended tree created).1

theorem commit_failed {disk after : Disk} (tree : disk.IsTree) {output : Path}
    {decision : Decision} {failure : Failure}
    (failed : commit disk output decision = (after, some failure)) : Disk.Extended disk after := by
  have ensured := ensureDirectory_extended tree output
  unfold commit at failed
  split at failed
  · cases failed
  · split at failed
    · split at failed
      next made => rw [made] at ensured; cases failed; exact ensured
      next made =>
        rw [made] at ensured
        rw [(writeChange_eq_error failed).1]
        exact ensured
    · rw [(writeChange_eq_error failed).1]
      exact Disk.Extended.refl tree

/-- A commit that succeeds writes the file of its change, at most after making directories. -/
theorem commit_written {disk after : Disk} (tree : disk.IsTree) {output : Path}
    {decision : Decision} {change : Change} (changes : decision.change = some change)
    (committed : commit disk output decision = (after, none)) :
    ∃ middle, Disk.Extended disk middle ∧ (decision.outcome.isNew = false → middle = disk) ∧
      middle.write change.file (bytes change.content) = (after, none) := by
  have writes : ∀ {before : Disk}, writeChange before change = (after, none) →
      before.write change.file (bytes change.content) = (after, none) :=
    fun written => Disk.completed_eq_some_iff.1 (store_eq_some_iff.2 written)
  have ensured := ensureDirectory_extended tree output
  unfold commit at committed
  rw [changes] at committed
  dsimp only at committed
  split at committed
  next file new =>
    split at committed
    · cases committed
    next middle made =>
      rw [made] at ensured
      refine ⟨middle, ensured, fun old => ?_, writes committed⟩
      rw [new] at old
      cases old
  next =>
    exact ⟨disk, Disk.Extended.refl tree, fun _ => rfl, writes committed⟩

/-- What happens on the way from a progress to a later one to the file at a location. -/
structure Tracked (location : Location) (before after : Progress) : Prop where
  tree : after.disk.IsTree
  keeps : Disk.Keeps before.disk after.disk
  entries : ∃ visits changes, after.visits = before.visits ++ visits ∧
    after.changes = before.changes ++ changes ∧
    List.Forall₂ Announces (writing visits) changes ∧
    (∀ entry ∈ log visits changes, ∃ place, after.disk.locate entry.2.file = .ok place) ∧
    ∀ content, before.disk.node? location = some (.file content) →
      after.disk.node? location = some (.file (Change.contentOver content
        (newestAt? after.disk (keyOf location) (log visits changes))))

namespace Tracked
variable {location : Location}

/-- Directories may be made on the way. -/
theorem of_extended {before after : Progress} (extended : Disk.Extended before.disk after.disk)
    {visits : List Visit} (grown : after.visits = before.visits ++ visits)
    (reads : writing visits = []) (same : after.changes = before.changes) :
    Tracked location before after where
  tree := extended.tree
  keeps := extended.paved.keeps
  entries := by
    refine ⟨visits, [], grown, by rw [same, List.append_nil], by rw [reads]; exact .nil, ?_, ?_⟩
    · intro entry member
      unfold log at member
      rw [reads] at member
      cases member
    · intro content held
      unfold log
      rw [reads]
      rcases extended.paved.node location with same | ⟨free, _⟩
      · rw [same, held]
        rfl
      · rw [held] at free
        cases free

theorem refl {progress : Progress} (tree : progress.disk.IsTree) :
    Tracked location progress progress :=
  of_extended (Disk.Extended.refl tree) (List.append_nil _).symm rfl rfl

theorem trans {first second third : Progress} (one : Tracked location first second)
    (other : Tracked location second third) : Tracked location first third := by
  refine ⟨other.tree, one.keeps.trans other.keeps, ?_⟩
  obtain ⟨visits, changes, grownVisits, grownChanges, announced, located, holds⟩ := one.entries
  obtain ⟨later, others, moreVisits, moreChanges, announces, locates, held⟩ := other.entries
  refine ⟨visits ++ later, changes ++ others, ?_, ?_, ?_, ?_, ?_⟩
  · rw [moreVisits, grownVisits, List.append_assoc]
  · rw [moreChanges, grownChanges, List.append_assoc]
  · exact announced_append announced announces
  · rw [log_append announced]
    intro entry member
    rcases List.mem_append.1 member with early | late
    · obtain ⟨place, found⟩ := located entry early
      exact ⟨place, Disk.locate_of_keeps other.keeps found⟩
    · exact locates entry late
  · intro content found
    rw [log_append announced, contentOver_append, newestAt?_of_keeps other.keeps _ located]
    exact held _ (holds content found)

end Tracked

section Stored
variable {location : Location}
  (stored : (plan.templates.find? (keyOf location)).isSome = true)
include stored

/-- The file of a template is changed only as a file of the output tree. -/
theorem isNew_of_stored {disk : Disk} {package : String} {output : Path} {marker : Option Path}
    {decision : Decision} {change : Change}
    (decides : plan.Decides disk package output marker decision)
    (changes : decision.change = some change)
    (target : disk.target change.file = .ok location) : decision.outcome.isNew = true := by
  cases decides with
  | generated => rfl
  | replaced _ _ other read =>
    cases changes
    obtain ⟨place, located, _⟩ := Disk.find?_of_readText read
    obtain rfl := Disk.target_of_locate located target
    unfold TemplateStore.contains at other
    rw [Disk.key_of_locate located] at other
    exact Bool.noConfusion (stored.symm.trans other)
  | _ => cases changes

/-- A new file is what the log says it is, and every other file is left alone. -/
theorem tracked_of_write {progress : Progress} (tree : progress.disk.IsTree) {output : Path}
    {after : Disk} {package : String} {marker : Option Path} {decision : Decision}
    {change : Change} (decides : plan.Decides progress.disk package output marker decision)
    (changes : decision.change = some change)
    (written : commit progress.disk output decision = (after, none)) {directory : Path}
    (announces : Announces ⟨directory, package, decision.rule, decision.outcome⟩ change) :
    Tracked location progress ⟨after,
      progress.visits ++ [⟨directory, package, decision.rule, decision.outcome⟩],
      progress.changes ++ [change]⟩ := by
  obtain ⟨middle, extended, untouched, write⟩ := commit_written tree changes written
  obtain ⟨place, target, located, rfl⟩ := Disk.locate_of_write extended.tree write
  have writable := Disk.target_writable extended.tree target
  have told : log [⟨directory, package, decision.rule, decision.outcome⟩] [change] =
      [(⟨directory, package, decision.rule, decision.outcome⟩, change)] := by
    simp [log, writing, announces.writes]
  have key := Disk.key_of_locate located
  refine ⟨writable.tree extended.tree _, extended.paved.keeps.trans (writable.keeps _),
    [_], [change], rfl, rfl, ?_, ?_, ?_⟩
  · simpa [writing, announces.writes] using announces
  · rw [told]
    intro entry member
    rw [List.mem_singleton.1 member]
    exact ⟨place, located⟩
  · intro content held
    rw [told]
    by_cases here : location = place
    · subst here
      have new : decision.outcome.isNew = true := by
        cases new : decision.outcome.isNew with
        | true => rfl
        | false =>
          rw [untouched new] at target
          rw [← new, isNew_of_stored stored decides changes target]
      rw [Disk.node?_put_self middle writable.below]
      simp [newestAt?, isNewAt, new, key, Change.contentOver]
    · have apart : keyOf place ≠ keyOf location := fun same => here (keyOf_injective same).symm
      rw [Disk.node?_put_of_ne middle writable.below _ here]
      rcases extended.paved.node location with same | ⟨free, _⟩
      · rw [same, held]
        simp [newestAt?, isNewAt, key, apart, Change.contentOver]
      · rw [held] at free
        cases free

variable (real : plan.options.dryRun = false)
include real

theorem visit_tracked (directory output : Path) (package : String) (files : List Name)
    {progress : Progress} (tree : progress.disk.IsTree) :
    Tracked location progress (left (plan.visit directory output package files progress)) := by
  cases visited : plan.visit directory output package files progress with
  | error failed =>
    rcases visit_eq_error visited with ⟨_, same⟩ | ⟨decision, disk, _, _, unwritten, same⟩
    · rw [left, same]
      exact Tracked.refl tree
    · rw [left, same]
      exact Tracked.of_extended (commit_failed tree unwritten) (List.append_nil _).symm rfl rfl
  | ok final =>
    obtain ⟨decision, after, decided, written, rfl⟩ := (plan.visit_eq_ok_iff _ _ _ _ _ _).1 visited
    have decides := (plan.decide_eq_ok_iff _ _ _ _ _).1 decided
    rw [real, if_neg Bool.false_ne_true] at written
    rw [left]
    rcases decides_change decides directory with ⟨none, reads⟩ | ⟨change, changes, announces⟩
    · unfold commit at written
      rw [none] at written ⊢
      cases written
      exact Tracked.of_extended (Disk.Extended.refl tree) rfl (by simp [writing, reads])
        (List.append_nil _)
    · rw [changes]
      exact tracked_of_write stored tree decides changes written announces

theorem walk_tracked (fuel : Nat) (ancestors : List (List Path.Part)) (directory output : Path)
    (package : String) {progress : Progress} (tree : progress.disk.IsTree) :
    Tracked location progress
      (left (plan.walk fuel ancestors directory output package progress)) := by
  refine left_walk plan (fun before after => before.disk.IsTree → Tracked location before after)
    (fun progress tree => Tracked.refl tree) ?_
    (fun directory output package files progress tree =>
      visit_tracked stored real directory output package files tree)
    fuel ancestors directory output package progress tree
  intro first second third one other tree
  exact (one tree).trans (other (one tree).tree)

end Stored

end Plan
end PackageDoc
