import PackageDoc.Proofs.Run.Consistency

/-! # Packages with a marker file

The marker file of a package is looked for among its source files.  If its name has the extension of
a source file, a package that has a marker file when the run begins never gets a new one, whatever
the run writes before it comes to the package.  If not, no marker file is ever seen, and each package
that is claimed is dealt with as if it had none. -/
set_option autoImplicit false

namespace PackageDoc
open PackageDoc.Text

/-! ## Files in a directory -/

namespace Disk

/-- A file of a name lies directly in a directory. -/
structure HasFile (disk : Disk) (directory : Path) (name : Name) : Prop where
  listed : ∃ names, disk.list directory = .ok names ∧ name ∈ names
  file : disk.isFile (directory.child name) = true

theorem HasFile.of_keeps {before after : Disk} (keeps : Keeps before after) {directory : Path}
    {name : Name} (has : before.HasFile directory name) : after.HasFile directory name := by
  obtain ⟨names, listed, inside⟩ := has.listed
  obtain ⟨location, located, held, rfl⟩ := list_eq_ok_iff.1 listed
  have relisted : after.list directory = .ok (after.names location) :=
    list_eq_ok_iff.2 ⟨location, locate_of_keeps keeps located, keeps.directory held, rfl⟩
  have stays : name ∈ after.names location := by
    rw [mem_names] at inside ⊢
    obtain ⟨node, entry⟩ := Option.isSome_iff_exists.1 inside
    have shape := keeps.node _ _ entry
    cases later : after.node? (location ++ [name]) with
    | none => simp [later] at shape
    | some other => rfl
  exact ⟨⟨_, relisted, stays⟩, isFile_of_keeps keeps has.file⟩

end Disk

/-! ## Outcomes with and without a marker file -/

namespace Outcome

/-- What can become of a package whose marker file is seen. -/
def withMarker (file : Path) : List Outcome :=
  [.noMatch, .replaced file, .markerUpToDate file, .markerNotFound file, .templateSource file,
    .skipExisting file]

/-- What can become of a package of which no marker file is seen; `file` is its new one. -/
def withoutMarker (file : Path) : List Outcome :=
  [.noMatch, .generated file, .generatedUpToDate file, .generateDisabled]

end Outcome

namespace Plan
variable {plan : Plan} {disk : Disk} {package : String} {output : Path} {decision : Decision}

theorem mem_withMarker {file : Path}
    (decides : plan.Decides disk package output (some file) decision) :
    decision.outcome ∈ Outcome.withMarker file := by
  cases decides with
  | _ => simp [Outcome.withMarker]

theorem mem_withoutMarker (decides : plan.Decides disk package output none decision) :
    decision.outcome ∈ Outcome.withoutMarker (plan.freshFile output) := by
  cases decides with
  | _ => simp [Outcome.withoutMarker]

theorem mem_files_iff_hasFile {directory : Path} {listing : Listing}
    (listed : plan.list disk directory = .ok listing) (name : Name) :
    name ∈ listing.files ↔
      disk.HasFile directory name ∧ plan.options.isSourceName name = true := by
  obtain ⟨names, read, rfl⟩ := (plan.list_eq_ok_iff _ _ _).1 listed
  rw [List.mem_filter, Bool.and_eq_true]
  constructor
  · intro ⟨inside, file, extension⟩
    exact ⟨⟨⟨names, read, inside⟩, file⟩, extension⟩
  · intro ⟨⟨⟨others, reread, inside⟩, file⟩, extension⟩
    have same := Except.ok.inj (read.symm.trans reread)
    subst same
    exact ⟨inside, file, extension⟩

section Arises
variable {visit : Visit} (arises : plan.Arises disk visit)
include arises

/-- A marker file with the extension of a source file is seen. -/
theorem outcome_of_hasFile (tree : disk.IsTree)
    (extension : plan.options.isSourceName (bytes plan.options.markerFile) = true)
    (has : disk.HasFile visit.directory (bytes plan.options.markerFile)) :
    visit.outcome ∈ Outcome.withMarker (plan.options.markedFile visit.directory) := by
  obtain ⟨later, listing, output, change, becomes, listed, decides⟩ := arises
  have still := has.of_keeps (becomes.kept tree).2
  have member := (mem_files_iff_hasFile listed _).2 ⟨still, extension⟩
  cases plan.markerAmong_cases visit.directory listing.files with
  | inl absent => exact absurd member absent.1
  | inr seen =>
    rw [seen.2] at decides
    exact mem_withMarker decides

/-- A marker file without the extension of a source file is not seen. -/
theorem outcome_of_other_extension
    (other : plan.options.isSourceName (bytes plan.options.markerFile) = false) :
    ∃ file, visit.outcome ∈ Outcome.withoutMarker file := by
  obtain ⟨later, listing, output, change, _, listed, decides⟩ := arises
  cases plan.markerAmong_cases visit.directory listing.files with
  | inl absent =>
    rw [absent.2] at decides
    exact ⟨_, mem_withoutMarker decides⟩
  | inr seen =>
    have source := ((mem_files_iff_hasFile listed _).1 seen.1).2
    rw [other] at source
    cases source

end Arises

end Plan

/-! ## Runs -/

/-- A package with a marker file never gets a new one if the marker file counts as a source file;
otherwise marker files play no part. -/
theorem marker_file_among_sources (options : Options) (disk : Disk) (report : Report)
    (tree : disk.IsTree) (success : (generate options disk).1 = .ok report) :
    ∀ visit ∈ report.visits,
      (options.isSourceName (bytes options.markerFile) = true →
        disk.HasFile visit.directory (bytes options.markerFile) →
        visit.outcome ∈ Outcome.withMarker (options.markedFile visit.directory)) ∧
      (options.isSourceName (bytes options.markerFile) = false →
        ∃ file, visit.outcome ∈ Outcome.withoutMarker file) := by
  intro visit member
  cases busy : options.isIdle disk with
  | true =>
    rw [generate_idle options disk busy] at success
    cases success
    cases member
  | false =>
    obtain ⟨plan, prepared, final, runs, rfl, _⟩ :=
      (generate_eq_ok_iff options disk busy report _).1 (generate_report success)
    have arises := runs.arises visit member
    have same := options_of_planned runs.planned
    subst same
    constructor
    · intro extension has
      exact Plan.outcome_of_hasFile arises tree extension has
    · intro other
      exact Plan.outcome_of_other_extension arises other

namespace Sample

/-- Options under which marker files are no source files. -/
def otherSources : Options := { plain with sourceExtensions := ["kt"] }

/-- A package with a source file and a marker file. -/
def documented : Disk where
  entries := [([bytes "out"], .directory), ([bytes "src"], .directory),
    ([bytes "src", bytes "A.kt"], .file []),
    ([bytes "src", bytes "package-info.java"], .file (bytes "package q;\n")),
    ([bytes "t"], .file (bytes "package q;"))]
  current := []
  ordered := by unfold Ordered; decide

def documentedVisit : Visit :=
  ⟨.ofString "src", "", some 0, .generated (.ofString "out/package-info.java")⟩

end Sample

theorem marker_file_among_sources_sample :
    (∃ visit ∈ Sample.selected.visits,
      Sample.mixed.HasFile visit.directory (bytes Sample.selective.markerFile) ∧
      visit.outcome ∈ Outcome.withMarker (Sample.selective.markedFile visit.directory)) ∧
    ∃ file, Sample.documentedVisit.outcome ∈ Outcome.withoutMarker file := by
  have member : ⟨.ofString "src/a", "a", some 1,
      .replaced (.ofString "src/a/package-info.java")⟩ ∈ Sample.selected.visits := by decide
  have has : Sample.mixed.HasFile (.ofString "src/a") (bytes Sample.selective.markerFile) :=
    ⟨⟨_, rfl, by decide⟩, by decide⟩
  constructor
  · exact ⟨_, member, has, (marker_file_among_sources Sample.selective Sample.mixed
      Sample.selected (by decide) rfl _ member).1 (by decide) has⟩
  · exact (marker_file_among_sources Sample.otherSources Sample.documented
      ⟨false, [Sample.documentedVisit], _⟩ (by decide) rfl _ List.mem_cons_self).2 (by decide)

theorem marker_file_overlooked :
    Sample.documented.IsTree ∧
      (generate Sample.otherSources Sample.documented).1.toOption.map (·.visits) =
        some [Sample.documentedVisit] ∧
      Sample.documented.HasFile Sample.documentedVisit.directory
        (bytes Sample.otherSources.markerFile) ∧
      Sample.documentedVisit.outcome ∉
        Outcome.withMarker (Sample.otherSources.markedFile Sample.documentedVisit.directory) :=
  ⟨by decide, rfl, ⟨⟨_, rfl, by decide⟩, by decide⟩, by decide⟩

end PackageDoc
