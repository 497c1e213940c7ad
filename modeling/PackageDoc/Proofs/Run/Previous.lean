import PackageDoc.Proofs.Run.DryRun
import PackageDoc.Proofs.Run.Templates
import PackageDoc.Proofs.Walk.Record
import PackageDoc.Text.LineDiff

/-! # What changes tell of the disk before a run

A change of a report keeps the text that its file held before, as far as the bytes there are a text.
In a dry run that holds for all changes.  In a real run it holds for those whose place no change
before them was made at, since such a change tells what the earlier one wrote. -/
set_option autoImplicit false

namespace PackageDoc
open PackageDoc.Text

/-! ## Rows that differ -/

theorem Text.exists_edit {Item : Type} [DecidableEq Item] {old new : List Item}
    (differs : old ≠ new) : ∃ edit ∈ edits old new, edit.old? ≠ edit.new? := by
  by_contra none
  push Not at none
  apply differs
  calc
    old = (edits old new).filterMap Edit.old? := (old_edits old new).symm
    _ = (edits old new).filterMap Edit.new? := List.filterMap_congr none
    _ = new := new_edits old new

/-- The rows of a change that its difference shows: some row is deleted or inserted. -/
def Change.HasEdit (change : Change) : Prop :=
  ∃ edit ∈ edits (rows (change.previous.getD "").toList) (rows change.content.toList),
    edit.old? ≠ edit.new?

theorem Change.hasEdit_of_ne {change : Change} (differs : change.previous.getD "" ≠ change.content) :
    change.HasEdit := by
  apply exists_edit
  intro same
  apply differs
  rw [← String.toList_inj, ← flatten_rows (change.previous.getD "").toList, same, flatten_rows]

/-! ## From a log to a report -/

/-- Each change of a log stands behind the changes that were made before it. -/
theorem log_split {visits : List Visit} {earlier later : List Change} {change : Change}
    (announced : List.Forall₂ Plan.Announces (writing visits) (earlier ++ change :: later)) :
    ∃ front visit back, log visits (earlier ++ change :: later) = front ++ (visit, change) :: back ∧
      front.map (·.2) = earlier ∧ visit ∈ visits ∧ Plan.Announces visit change := by
  have changes : (log visits (earlier ++ change :: later)).map (·.2) = earlier ++ change :: later :=
    List.map_snd_zip (Nat.le_of_eq announced.length_eq.symm)
  obtain ⟨front, rest, split, before, behind⟩ := List.map_eq_append_iff.1 changes
  obtain ⟨⟨visit, told⟩, back, rfl, same, _⟩ := List.map_eq_cons_iff.1 behind
  obtain rfl : change = told := same.symm
  have member : (visit, change) ∈ log visits (earlier ++ change :: later) := by
    rw [split]
    exact List.mem_append_right front List.mem_cons_self
  refine ⟨front, visit, back, split, before, ?_, ?_⟩
  · exact (List.mem_filter.1 (List.of_mem_zip member).1).1
  · exact (List.forall₂_iff_zip.1 announced).2 member

namespace Plan

/-- Making directories changes nothing of what a change tells. -/
theorem Recalls.of_paved {disk prepared after : Disk} {visit : Visit} {change : Change}
    (paved : Disk.Paved disk prepared) (recalls : Recalls prepared after visit change) :
    Recalls disk after visit change := by
  refine ⟨fun none => ?_, fun text some => ?_⟩
  · cases there : disk.isFile change.file with
    | false => rfl
    | true => rw [← recalls.none none, Disk.isFile_of_keeps paved.keeps there]
  · obtain ⟨content, ⟨location, located, held⟩, told⟩ := recalls.some text some
    have spared : Disk.SparedAt disk prepared location := paved.node location
    exact ⟨content, ⟨location, located, spared.contentAt ▸ held⟩, told⟩

end Plan

theorem Runs.recalls {options : Options} {disk : Disk} {plan : Plan} {prepared : Disk}
    {final : Progress} (tree : disk.IsTree) (runs : Runs options disk plan prepared final)
    {earlier later : List Change} {change : Change}
    (split : final.changes = earlier ++ change :: later)
    (first : options.dryRun = true ∨
      ∀ other ∈ earlier, final.disk.locate other.file ≠ final.disk.locate change.file) :
    ∃ visit ∈ final.visits, Plan.Announces visit change ∧
      Plan.Recalls disk final.disk visit change := by
  have extended : Disk.Extended disk (options.prepareOutput disk).1 := prepareOutput_extended tree
  rw [runs.ready] at extended
  obtain ⟨visits, changes, grown, made, announced, records⟩ :=
    plan.walk_recorded _ _ _ _ _ runs.walked
  rw [List.nil_append] at grown made
  subst grown made
  rw [split] at announced records
  obtain ⟨front, visit, back, cut, before, member, announces⟩ := log_split announced
  rw [cut] at records
  refine ⟨visit, member, announces, .of_paved extended.paved (records.recalls extended.tree ?_)⟩
  rw [options_of_planned runs.planned]
  refine first.imp_right fun apart other inside => ?_
  exact apart other.2 (before ▸ List.mem_map_of_mem inside)

/-- Every change tells whether its file was there before the run, and with which text, unless an
earlier change of a real run was made at its place. -/
theorem changes_tell_what_was_found (options : Options) (disk after : Disk) (report : Report)
    (tree : disk.IsTree) (success : generate options disk = (.ok report, after))
    (earlier later : List Change) (change : Change)
    (split : report.changes = earlier ++ change :: later)
    (first : options.dryRun = true ∨
      ∀ other ∈ earlier, after.locate other.file ≠ after.locate change.file) :
    (change.previous = none →
      disk.isFile change.file = false ∧ (change.content ≠ "" → change.HasEdit)) ∧
    (options.dryRun = true → (change.previous = none ↔ disk.isFile change.file = false)) ∧
    ∀ text, change.previous = some text → ∃ content, disk.HeldAt after change.file content ∧
      text = lossyString content ∧ content ≠ bytes change.content ∧
      (∀ exact, string? content = some exact →
        text = exact ∧ bytes text = content ∧ text ≠ change.content ∧ change.HasEdit) ∧
      (string? content = none → ∃ visit ∈ report.visits,
        visit.outcome = .generated change.file ∧ visit.package = change.package) := by
  cases busy : options.isIdle disk with
  | true =>
    rw [generate_idle options disk busy] at success
    cases success
    exact absurd split.symm (by simp)
  | false =>
    obtain ⟨plan, prepared, final, runs, rfl, rfl⟩ :=
      (generate_eq_ok_iff options disk busy report after).1 success
    obtain ⟨visit, member, announces, recalls⟩ := runs.recalls tree split first
    refine ⟨fun none => ⟨recalls.none none, fun written => ?_⟩, fun dry => ⟨recalls.none, fun missing => ?_⟩,
      fun text some => ?_⟩
    · exact Change.hasEdit_of_ne (by rw [none]; exact written.symm)
    · cases found : change.previous with
      | none => rfl
      | some text =>
        obtain ⟨content, held, _⟩ := recalls.some text found
        rw [(runs.dry_disk dry).2, Disk.heldAt_self_iff] at held
        simp [Disk.isFile, held] at missing
    · obtain ⟨content, held, lossy, differs, raw⟩ := recalls.some text some
      refine ⟨content, held, lossy, differs, fun exact read => ?_, fun unread => ?_⟩
      · obtain rfl := string?_eq_some_iff.1 read
        rw [lossyString_bytes] at lossy
        subst lossy
        have apart : text ≠ change.content := fun same => differs (by rw [same])
        exact ⟨rfl, rfl, apart, Change.hasEdit_of_ne (by rw [some]; exact apart)⟩
      · exact ⟨visit, member, raw unread, announces.package⟩

namespace Sample

/-- One of two packages has an output file. -/
def half : Disk where
  entries := [([bytes "out"], .directory), ([bytes "out", bytes "b"], .directory),
    ([bytes "out", bytes "b", bytes "package-info.java"], .file (bytes "package x;")),
    ([bytes "src"], .directory), ([bytes "src", bytes "a"], .directory),
    ([bytes "src", bytes "a", bytes "A.java"], .file []), ([bytes "src", bytes "b"], .directory),
    ([bytes "src", bytes "b", bytes "B.java"], .file []), ([bytes "t"], .file (bytes "package q;"))]
  current := []
  ordered := by unfold Ordered; decide

def changeOfA : Change := ⟨fileOfA, "a", none, "package a;"⟩

def changeOfB : Change :=
  ⟨.ofString "out/b/package-info.java", "b", some "package x;", "package b;"⟩

end Sample

theorem changes_tell_what_was_found_sample :
    ∃ report after, generate Sample.plain Sample.half = (.ok report, after) ∧
      report.changes = [Sample.changeOfA, Sample.changeOfB] ∧
      (∀ other ∈ [Sample.changeOfA],
        after.locate other.file ≠ after.locate Sample.changeOfB.file) ∧
      ∃ content, Sample.half.HeldAt after Sample.changeOfB.file content ∧
        "package x;" = lossyString content ∧ content ≠ bytes "package b;" ∧
        ∀ exact, string? content = some exact → "package x;" = exact ∧
          bytes "package x;" = content ∧ "package x;" ≠ "package b;" ∧ Sample.changeOfB.HasEdit := by
  have success : generate Sample.plain Sample.half =
      (.ok _, (generate Sample.plain Sample.half).2) := generate_report rfl
  have first : ∀ other ∈ [Sample.changeOfA], (generate Sample.plain Sample.half).2.locate other.file ≠
      (generate Sample.plain Sample.half).2.locate Sample.changeOfB.file := by
    decide +kernel
  obtain ⟨_, _, tells⟩ := changes_tell_what_was_found Sample.plain Sample.half _ _ (by decide)
    success [Sample.changeOfA] [] Sample.changeOfB rfl (Or.inr first)
  obtain ⟨content, held, lossy, differs, exact, _⟩ := tells _ rfl
  exact ⟨_, _, success, rfl, first, content, held, lossy, differs, exact⟩

namespace Sample

/-- An old output file is no text, one template is empty, and a link leads to the directory of the
file that it is for. -/
def worn : Disk where
  entries := [([bytes "e"], .file []), ([bytes "out"], .directory),
    ([bytes "out", bytes "a"], .directory),
    ([bytes "out", bytes "a", bytes "package-info.java"], .file (bytes "package a;\n" ++ [0xFF])),
    ([bytes "out", bytes "d"], .link (.ofString "c")), ([bytes "src"], .directory),
    ([bytes "src", bytes "a"], .directory), ([bytes "src", bytes "a", bytes "A.java"], .file []),
    ([bytes "src", bytes "c"], .directory), ([bytes "src", bytes "c", bytes "C.java"], .file []),
    ([bytes "src", bytes "d"], .directory), ([bytes "src", bytes "d", bytes "D.java"], .file []),
    ([bytes "t"], .file (bytes "package q;\n\uFFFD"))]
  current := []
  ordered := by unfold Ordered; decide

def twoTemplates : Options where
  source := .ofString "src"
  output := .ofString "out"
  packages := [{ pattern := some "c", template := some (.ofString "e") },
    { pattern := some "**", template := some (.ofString "t") }]

end Sample

theorem previous_misses_raw_bytes_and_detours :
    Sample.worn.IsTree ∧ Sample.half.IsTree ∧
    (∃ report after first second third,
      generate Sample.twoTemplates Sample.worn = (.ok report, after) ∧
      report.changes = [first, second, third] ∧
      Sample.worn.find? first.file = some (.file (bytes "package a;\n" ++ [0xFF])) ∧
      first.previous = some first.content ∧ bytes first.content ≠ bytes "package a;\n" ++ [0xFF] ∧
      ¬ first.HasEdit ∧ second.previous = none ∧ ¬ second.HasEdit ∧
      Sample.worn.isFile third.file = false ∧ third.previous ≠ none) ∧
    ∃ report after first second, generate Sample.detour Sample.half = (.ok report, after) ∧
      report.changes = [first, second] ∧ Sample.half.isFile second.file = false ∧
      second.previous ≠ none := by
  have worn : generate Sample.twoTemplates Sample.worn =
      (.ok _, (generate Sample.twoTemplates Sample.worn).2) := generate_report rfl
  have half : generate Sample.detour Sample.half =
      (.ok _, (generate Sample.detour Sample.half).2) := generate_report rfl
  refine ⟨by decide, by decide, ⟨_, _, _, _, _, worn, rfl, by decide, rfl, by decide, ?_, rfl, ?_,
    by decide, by decide⟩, _, _, _, _, half, rfl, by decide, by decide⟩
  · unfold Change.HasEdit
    decide
  · unfold Change.HasEdit
    decide

end PackageDoc
