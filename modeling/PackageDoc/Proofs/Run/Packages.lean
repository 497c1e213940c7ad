import PackageDoc.Proofs.Run.Mirror

/-! # Packages and directories

A package is named by the components of its directory with dots between them.  So two visits can have
one package in common only if a directory on the way to one of them has a dot in its name.  Without
such names a package tells its directory, and a report finds each visit under its package. -/
set_option autoImplicit false

namespace PackageDoc
open PackageDoc.Text

/-- The visit of the directory with some components. -/
structure Options.Locates (options : Options) (components : List String) (visit : Visit) :
    Prop where
  directory : visit.directory = options.source.under components
  package : visit.package = ".".intercalate components

/-- Whether some component has a dot in it. -/
def Dotted (components : List String) : Prop := ∃ component ∈ components, '.' ∈ component.toList

/-- Components without dots can be read off the joined text. -/
theorem eq_of_intercalate_eq {first second : List String} (some : first ≠ []) (other : second ≠ [])
    (free : ¬ Dotted first) (otherFree : ¬ Dotted second)
    (same : ".".intercalate first = ".".intercalate second) : first = second := by
  have cut : ∀ {components : List String}, components ≠ [] → ¬ Dotted components →
      (".".intercalate components).toList.splitOn '.' = components.map String.toList := by
    intro components nonempty undotted
    have apart : ∀ piece ∈ components.map String.toList, '.' ∉ piece := by
      intro piece member inside
      obtain ⟨component, found, rfl⟩ := List.mem_map.1 member
      exact undotted ⟨component, found, inside⟩
    rw [String.toList_intercalate]
    exact List.splitOn_intercalate '.' apart (by simpa using nonempty)
  have pieces : first.map String.toList = second.map String.toList := by
    rw [← cut some free, ← cut other otherFree, same]
  exact List.map_injective_iff.2 (fun _ _ => String.toList_inj.1) pieces

namespace Plan

/-- Names without dots can be read off the package. -/
theorem names_of_packageOf_eq {names others : List Name}
    (components : ∀ name ∈ names, IsComponent name)
    (otherComponents : ∀ name ∈ others, IsComponent name)
    (free : ¬ Dotted (names.map textOf)) (otherFree : ¬ Dotted (others.map textOf))
    (same : packageOf names = packageOf others) : names = others := by
  by_cases root : names = []
  · by_contra apart
    refine packageOf_ne_empty otherComponents (fun none => apart (root.trans none.symm)) ?_
    rw [← same, root]
    rfl
  · by_cases otherRoot : others = []
    · refine absurd ?_ (packageOf_ne_empty components root)
      rw [same, otherRoot]
      rfl
    · rw [packageOf_eq components, packageOf_eq otherComponents] at same
      have texts := eq_of_intercalate_eq (by simpa using root) (by simpa using otherRoot) free
        otherFree same
      rw [← map_bytes_textOf_of_decodes fun name member => (components name member).2, texts,
        map_bytes_textOf_of_decodes fun name member => (otherComponents name member).2]

end Plan

/-! ## Looking packages up -/

/-- The first item that passes a test is a given one or stands before it. -/
theorem find?_of_pairwise {Item : Type} {Before : Item → Item → Prop} {items : List Item}
    (ordered : items.Pairwise Before) (test : Item → Bool) {item : Item} (member : item ∈ items)
    (passes : test item = true) :
    ∃ first ∈ items, items.find? test = some first ∧ (first = item ∨ Before first item) := by
  obtain ⟨first, found⟩ := Option.isSome_iff_exists.1 (List.find?_isSome.2 ⟨item, member, passes⟩)
  refine ⟨first, List.mem_of_find?_eq_some found, found, ?_⟩
  obtain ⟨_, front, behind, rfl, fails⟩ := List.find?_eq_some_iff_append.1 found
  rcases List.mem_append.1 member with early | late
  · have refused := fails item early
    rw [passes] at refused
    cases refused
  · rcases List.mem_cons.1 late with same | later
    · exact Or.inl same.symm
    · exact Or.inr ((List.pairwise_cons.1 (List.pairwise_append.1 ordered).2.1).1 item later)

theorem forall₂_zip {Item Other Key : Type} {Related : Item → Other → Prop} (key : Item → Key)
    {items : List Item} {others : List Other} (related : List.Forall₂ Related items others) :
    List.Forall₂ (fun item pair => pair.1 = key item ∧ Related item pair.2) items
      ((items.map key).zip others) := by
  induction related with
  | nil => exact .nil
  | cons here _ ih => exact .cons ⟨rfl, here⟩ ih

/-- Visits with the components of their directories, which have dots where packages are shared. -/
structure Options.Tells (options : Options) (report : Report) (directories : List (List String)) :
    Prop where
  distinct : directories.Nodup
  locates : List.Forall₂ options.Locates directories report.visits
  shared : (directories.zip report.visits).Pairwise fun one other =>
    one.2.package = other.2.package → Dotted one.1 ∨ Dotted other.1

namespace Options.Tells
variable {options : Options} {report : Report} {directories : List (List String)}
  (tells : options.Tells report directories)
include tells

theorem visits_eq : (directories.zip report.visits).map (·.2) = report.visits :=
  List.map_snd_zip (Nat.le_of_eq tells.locates.length_eq.symm)

/-- Looking up the package of a visit gives the visit itself, unless a component of its directory or
of that of the visit that is found has a dot. -/
theorem visit?_package {entry : List String × Visit}
    (member : entry ∈ directories.zip report.visits) :
    ∃ first ∈ directories.zip report.visits, report.visit? entry.2.package = some first.2 ∧
      (first = entry ∨ Dotted first.1 ∨ Dotted entry.1) := by
  obtain ⟨first, inside, found, before⟩ := find?_of_pairwise tells.shared
    (fun other => decide (other.2.package = entry.2.package)) member (by simp)
  have same : first.2.package = entry.2.package := by simpa using List.find?_some found
  refine ⟨first, inside, ?_, before.imp_right fun dotted => dotted same⟩
  unfold Report.visit?
  rw [← tells.visits_eq, List.find?_map]
  exact Option.map_eq_some_iff.2 ⟨first, found, rfl⟩

section Undotted
variable (undotted : ∀ components ∈ directories, ¬ Dotted components)
include undotted

theorem packages_distinct : (report.visits.map (·.package)).Nodup := by
  rw [← tells.visits_eq, List.map_map]
  unfold List.Nodup
  rw [List.pairwise_map]
  refine tells.shared.imp_of_mem fun {one other} oneMember otherMember dotted equal => ?_
  exact (dotted equal).elim (undotted _ (List.of_mem_zip oneMember).1)
    (undotted _ (List.of_mem_zip otherMember).1)

theorem visit?_eq {visit : Visit} (member : visit ∈ report.visits) :
    report.visit? visit.package = some visit := by
  rw [← tells.visits_eq] at member
  obtain ⟨entry, inside, rfl⟩ := List.mem_map.1 member
  obtain ⟨first, firstInside, found, same | dotted⟩ := tells.visit?_package inside
  · rw [found, same]
  · exact (dotted.elim (undotted _ (List.of_mem_zip firstInside).1)
      (undotted _ (List.of_mem_zip inside).1)).elim

end Undotted
end Options.Tells

theorem Runs.tells {options : Options} {disk : Disk} {plan : Plan} {prepared : Disk}
    {final : Progress} (tree : disk.IsTree) (runs : Runs options disk plan prepared final) :
    ∃ directories, options.Tells ⟨options.dryRun, final.visits, final.changes⟩ directories := by
  obtain ⟨found, visited, ascending⟩ := runs.visited tree
  have same := options_of_planned runs.planned
  refine ⟨found.map (·.map textOf), ?_, ?_, ?_⟩
  · unfold List.Nodup
    rw [List.pairwise_map]
    refine ascending.imp_of_mem fun {one other} oneMember otherMember less equal => ?_
    obtain ⟨_, _, here⟩ := Plan.exists_found_of_forall₂ visited oneMember
    obtain ⟨_, _, there⟩ := Plan.exists_found_of_forall₂ visited otherMember
    rw [← map_bytes_of_visitedAt here, equal, map_bytes_of_visitedAt there] at less
    exact List.lt_irrefl _ less
  · rw [List.forall₂_map_left_iff]
    refine visited.imp fun names visit here => ⟨?_, ?_⟩
    · rw [here.directory, ← same]
      unfold Path.under Plan.directoryAt
      rw [map_bytes_of_visitedAt here]
    · rw [here.package]
      exact Plan.packageOf_eq here.components
  · refine pairwise_of_forall₂ (forall₂_zip (·.map textOf) visited) ?_ ascending
    rintro names others ⟨_, one⟩ ⟨_, other⟩ ⟨rfl, here⟩ ⟨rfl, there⟩ less equal
    by_contra undotted
    rw [not_or] at undotted
    dsimp only at here there equal
    rw [here.package, there.package] at equal
    rw [Plan.names_of_packageOf_eq here.components there.components undotted.1 undotted.2 equal]
      at less
    exact List.lt_irrefl _ less

/-- Two visits have one package only if a component of one of their directories has a dot; without
such components the packages are distinct, and each visit is found under its package. -/
theorem packages_tell_directories (options : Options) (disk after : Disk) (report : Report)
    (tree : disk.IsTree) (success : generate options disk = (.ok report, after)) :
    ∃ directories : List (List String), options.Tells report directories ∧
      (∀ entry ∈ directories.zip report.visits, ∃ first ∈ directories.zip report.visits,
        report.visit? entry.2.package = some first.2 ∧
          (first = entry ∨ Dotted first.1 ∨ Dotted entry.1)) ∧
      ((∀ components ∈ directories, ¬ Dotted components) →
        (report.visits.map (·.package)).Nodup ∧
        ∀ visit ∈ report.visits, report.visit? visit.package = some visit) := by
  have tells : ∃ directories, options.Tells report directories := by
    cases busy : options.isIdle disk with
    | true =>
      rw [generate_idle options disk busy] at success
      cases success
      exact ⟨[], List.nodup_nil, .nil, List.Pairwise.nil⟩
    | false =>
      obtain ⟨plan, prepared, final, runs, rfl, _⟩ :=
        (generate_eq_ok_iff options disk busy report after).1 success
      exact runs.tells tree
  obtain ⟨directories, tells⟩ := tells
  refine ⟨directories, tells, fun entry => tells.visit?_package, fun undotted => ?_⟩
  exact ⟨tells.packages_distinct undotted, fun visit => tells.visit?_eq undotted⟩

namespace Sample

/-- A package of two components, and a directory whose one name reads the same. -/
def sharedPackage : Disk where
  entries := [([bytes "src"], .directory), ([bytes "src", bytes "a"], .directory),
    ([bytes "src", bytes "a", bytes "b"], .directory),
    ([bytes "src", bytes "a", bytes "b", bytes "B.java"], .file []),
    ([bytes "src", bytes "a.b"], .directory),
    ([bytes "src", bytes "a.b", bytes "A.java"], .file []), ([bytes "t"], .file (bytes "package q;"))]
  current := []
  ordered := by unfold Ordered; decide

end Sample

theorem packages_tell_directories_sample :
    ∃ report after, generate Sample.plain Sample.sharedPackage = (.ok report, after) ∧
      report.visits.length = 2 ∧
      ∃ directories, Sample.plain.Tells report directories ∧
        ∀ entry ∈ directories.zip report.visits, ∃ first ∈ directories.zip report.visits,
          report.visit? entry.2.package = some first.2 ∧
            (first = entry ∨ Dotted first.1 ∨ Dotted entry.1) := by
  have success : generate Sample.plain Sample.sharedPackage =
      (.ok _, (generate Sample.plain Sample.sharedPackage).2) := generate_report rfl
  obtain ⟨directories, tells, looked, _⟩ :=
    packages_tell_directories Sample.plain Sample.sharedPackage _ _ (by decide) success
  exact ⟨_, _, success, rfl, directories, tells, looked⟩

theorem dotted_name_shares_package :
    Sample.sharedPackage.IsTree ∧ ∃ report after,
      generate Sample.plain Sample.sharedPackage = (.ok report, after) ∧
      report.visits.map (fun visit => (visit.directory, visit.package)) =
        [(.ofString "src/a/b", "a.b"), (.ofString "src/a.b", "a.b")] ∧
      ¬ (report.visits.map (·.package)).Nodup ∧
      ∃ visit ∈ report.visits, report.visit? visit.package ≠ some visit := by
  have success : generate Sample.plain Sample.sharedPackage =
      (.ok _, (generate Sample.plain Sample.sharedPackage).2) := generate_report rfl
  refine ⟨by decide, _, _, success, rfl, by decide, ?_⟩
  exact ⟨_, List.mem_cons_of_mem _ List.mem_cons_self, by decide⟩

end PackageDoc
