import PackageDoc.Proofs.Disk.Plain
import PackageDoc.Proofs.Run.Loaded
import PackageDoc.Proofs.Run.Visits
import PackageDoc.Proofs.Walk.Order

/-! # New files mirror the source tree

If the marker file is named by a single name, each new file lies directly in the directory of the
output tree that mirrors the directory of its package, and no two packages share one.  A marker file
that is named by a longer path can lead out of that directory, and then packages can meet in one
file. -/
set_option autoImplicit false

namespace PackageDoc
open PackageDoc.Text

/-- The visit of a directory whose new file, if there is one, lies in the mirrored directory. -/
structure Options.Mirrors (options : Options) (after : Disk) (components : List String)
    (visit : Visit) : Prop where
  directory : visit.directory = options.source.under components
  package : visit.package = ".".intercalate components
  file : ∀ file, visit.outcome.fresh? = some file →
    file = (options.output.under components).child (bytes options.markerFile)
  inside : ∀ file root location, visit.outcome.fresh? = some file →
    after.locate options.output = .ok root → after.locate file = .ok location →
      location = root ++ components.map bytes ++ [bytes options.markerFile]

/-- Two visits whose new files are different files. -/
def FreshApart (after : Disk) (one other : Visit) : Prop :=
  ∀ first second, one.outcome.fresh? = some first → other.outcome.fresh? = some second →
    first ≠ second ∧ ∀ location, after.locate first = .ok location →
      after.locate second ≠ .ok location

theorem pairwise_of_forall₂ {Item Other : Type} {Related : Item → Other → Prop}
    {Before : Item → Item → Prop} {After : Other → Other → Prop} {items : List Item}
    {others : List Other} (related : List.Forall₂ Related items others)
    (implies : ∀ one other first second, Related one first → Related other second →
      Before one other → After first second) :
    items.Pairwise Before → others.Pairwise After := by
  induction related with
  | nil => exact fun _ => List.Pairwise.nil
  | @cons item other items others here rest ih =>
    intro ascending
    rw [List.pairwise_cons] at ascending ⊢
    refine ⟨fun second member => ?_, ih ascending.2⟩
    obtain ⟨later, inside, there⟩ := Plan.exists_found_of_forall₂ rest.flip member
    exact implies _ _ _ _ here there (ascending.1 later inside)

variable {options : Options} {plan : Plan} {after : Disk}

/-- The new file of the directory under some names. -/
theorem freshFile_outputAt (same : plan.options = options) (names : List Name) :
    plan.freshFile (plan.outputAt names) =
      (options.output.descend names).child (bytes options.markerFile) := by
  subst same
  rfl

theorem map_bytes_of_visitedAt {names : List Name} {visit : Visit}
    (visited : plan.VisitedAt names visit) : (names.map textOf).map bytes = names :=
  map_bytes_textOf_of_decodes fun name member => (visited.components name member).2

section Marker
variable (marker : Path.IsName (bytes options.markerFile)) (same : plan.options = options)
include marker same

/-- Where a new file is, if it is there. -/
theorem place_of_visitedAt {names : List Name} {visit : Visit}
    (visited : plan.VisitedAt names visit) {file : Path}
    (fresh : visit.outcome.fresh? = some file) :
    after.place file = after.place options.output ++ names ++ [bytes options.markerFile] := by
  rw [visited.fresh file fresh, freshFile_outputAt same, Disk.place_child after _ marker,
    Disk.place_descend after _ fun name member => (visited.components name member).1]

variable (plain : after.Plain)
include plain

theorem mirrors_of_visitedAt {names : List Name} {visit : Visit}
    (visited : plan.VisitedAt names visit) : options.Mirrors after (names.map textOf) visit := by
  have decoded := map_bytes_of_visitedAt visited
  refine ⟨?_, ?_, ?_, ?_⟩
  · unfold Path.under
    rw [decoded, visited.directory, ← same]
    rfl
  · rw [visited.package]
    exact Plan.packageOf_eq visited.components
  · intro file fresh
    unfold Path.under
    rw [decoded, visited.fresh file fresh, freshFile_outputAt same]
  · intro file root location fresh rooted located
    rw [(plain.locate_eq_ok_iff.1 located).2.eq_place, decoded,
      (plain.locate_eq_ok_iff.1 rooted).2.eq_place]
    exact place_of_visitedAt marker same visited fresh

theorem freshApart_of_visitedAt {names others : List Name} {one other : Visit}
    (visited : plan.VisitedAt names one) (otherVisited : plan.VisitedAt others other)
    (less : names < others) : FreshApart after one other := by
  intro first second fresh otherFresh
  have apart : after.place first ≠ after.place second := by
    rw [place_of_visitedAt marker same visited fresh,
      place_of_visitedAt marker same otherVisited otherFresh]
    intro equal
    rw [List.append_cancel_left (List.append_cancel_right equal)] at less
    exact List.lt_irrefl _ less
  refine ⟨fun equal => apart (by rw [equal]), fun location located otherLocated => apart ?_⟩
  rw [← (plain.locate_eq_ok_iff.1 located).2.eq_place,
    ← (plain.locate_eq_ok_iff.1 otherLocated).2.eq_place]

end Marker

theorem Runs.tree {disk prepared : Disk} {final : Progress} (tree : disk.IsTree)
    (runs : Runs options disk plan prepared final) : prepared.IsTree := by
  have prepares := prepareOutput_becomes options disk
  rw [runs.ready] at prepares
  exact (prepares.kept tree).1

/-- The visits of a run are those of directories under ascending names. -/
theorem Runs.visited {disk prepared : Disk} {final : Progress} (tree : disk.IsTree)
    (runs : Runs options disk plan prepared final) :
    ∃ found, List.Forall₂ plan.VisitedAt found final.visits ∧ found.Pairwise (· < ·) := by
  have walked := runs.walked
  rw [← options_of_planned runs.planned] at walked
  obtain ⟨found, visits, grown, visited, ascending, _⟩ :=
    Plan.walk_adds Disk.pathLimit [] [] { disk := prepared } final (runs.tree tree)
      (fun _ member => nomatch member) walked
  rw [List.nil_append] at grown
  exact ⟨found, grown ▸ visited, ascending⟩

/-- New files lie in the mirrored directories of their packages, and no two packages share one. -/
theorem generated_files_mirror (options : Options) (disk after : Disk) (report : Report)
    (tree : disk.IsTree) (plain : disk.Plain) (marker : Path.IsName (bytes options.markerFile))
    (success : generate options disk = (.ok report, after)) :
    (∃ directories : List (List String),
      directories.Pairwise (fun one other => one.map bytes < other.map bytes) ∧
      List.Forall₂ (options.Mirrors after) directories report.visits) ∧
    report.visits.Pairwise (FreshApart after) ∧
    (options.dryRun = false → ∀ visit ∈ report.visits, FreshFound after visit) := by
  cases busy : options.isIdle disk with
  | true =>
    rw [generate_idle options disk busy] at success
    cases success
    exact ⟨⟨[], List.Pairwise.nil, .nil⟩, List.Pairwise.nil, fun _ _ member => nomatch member⟩
  | false =>
    have free := (generate_becomes options disk).plain tree plain
    rw [success] at free
    obtain ⟨plan, prepared, final, runs, rfl, rfl⟩ :=
      (generate_eq_ok_iff options disk busy report after).1 success
    have same := options_of_planned runs.planned
    have walked := runs.walked
    rw [← same] at walked
    obtain ⟨found, visited, ascending⟩ := runs.visited tree
    refine ⟨⟨found.map (·.map textOf), ?_, ?_⟩, ?_, ?_⟩
    · rw [List.pairwise_map]
      refine ascending.imp_of_mem fun {one other} oneMember otherMember less => ?_
      obtain ⟨_, _, here⟩ := Plan.exists_found_of_forall₂ visited oneMember
      obtain ⟨_, _, there⟩ := Plan.exists_found_of_forall₂ visited otherMember
      rw [map_bytes_of_visitedAt here, map_bytes_of_visitedAt there]
      exact less
    · rw [List.forall₂_map_left_iff]
      exact visited.imp fun _ _ => mirrors_of_visitedAt marker same free
    · exact pairwise_of_forall₂ visited
        (fun _ _ _ _ => freshApart_of_visitedAt marker same free) ascending
    · intro real visit member
      have begins : (Progress.mk prepared [] []).disk.IsTree := runs.tree tree
      have each := Plan.walk_freshFound (by rw [same, real]) Disk.pathLimit []
        plan.options.source plan.options.output "" begins
      rw [walked] at each
      exact (each visit member).resolve_left fun none => nomatch none

namespace Sample

/-- Settings whose marker file is named by a way up. -/
def upward : String := String.join
  ["source_directory = 'src'\n", "output_directory = 'out'\n",
    "marker_file = '../package-info.java'\n", "[[packages]]\n", "pattern = '**'\n",
    "template = 't'\n"]

def twoPackages : Disk where
  entries := [([bytes "src"], .directory), ([bytes "src", bytes "a"], .directory),
    ([bytes "src", bytes "a", bytes "A.java"], .file []), ([bytes "src", bytes "b"], .directory),
    ([bytes "src", bytes "b", bytes "B.java"], .file []), ([bytes "t"], .file (bytes "package q;"))]
  current := []
  ordered := by unfold Ordered; decide

end Sample

theorem generated_files_mirror_sample :
    ∃ report after, generate Sample.plain Sample.twoPackages = (.ok report, after) ∧
      report.visits.length = 2 ∧ (∀ visit ∈ report.visits, FreshFound after visit) ∧
      report.visits.Pairwise (FreshApart after) ∧
      ∃ directories, List.Forall₂ (Sample.plain.Mirrors after) directories report.visits := by
  have success : generate Sample.plain Sample.twoPackages =
      (.ok _, (generate Sample.plain Sample.twoPackages).2) := generate_report rfl
  obtain ⟨⟨directories, _, mirrors⟩, apart, found⟩ :=
    generated_files_mirror Sample.plain Sample.twoPackages _ _ (by decide) (by decide) (by decide)
      success
  exact ⟨_, _, success, rfl, found rfl, apart, directories, mirrors⟩

namespace Sample

def upwardOptions : Except Failure Options :=
  Settings.parse upward >>= Options.ofSettings (.ofString "/")

def upwardRun : Except Failure Report × Disk :=
  match upwardOptions with
  | .ok options => generate options twoPackages
  | .error failure => (.error failure, twoPackages)

/-- The new file of a package, as it is named. -/
def upwardFile (package : String) : Path := .ofString ("/out/" ++ package ++ "/../package-info.java")

end Sample

theorem marker_path_joins_packages :
    Sample.twoPackages.IsTree ∧ Sample.twoPackages.Plain ∧
      (Sample.upwardOptions.toOption.map fun options =>
        (options.validate Sample.twoPackages).isOk) = some true ∧
      (Sample.upwardRun.1.toOption.map fun report =>
        report.visits.map fun visit => (visit.package, visit.outcome)) =
          some [("a", .generated (Sample.upwardFile "a")),
            ("b", .generated (Sample.upwardFile "b"))] ∧
      (∀ package ∈ ["a", "b"], (Sample.upwardRun.2.locate (Sample.upwardFile package)).toOption =
        some [bytes "out", bytes "package-info.java"]) ∧
      (Sample.upwardRun.2.read (Sample.upwardFile "a")).toOption = some (bytes "package b;") := by
  decide +kernel

end PackageDoc
