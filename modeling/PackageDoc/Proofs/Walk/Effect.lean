import PackageDoc.Proofs.Disk.Below
import PackageDoc.Proofs.Run.Plan
import PackageDoc.Proofs.Walk.Decision
import PackageDoc.Proofs.Walk.Rooted
import PackageDoc.Proofs.Walk.Sites

/-! # What a visit changes

On a tree without links, with source and output apart, a visit that writes sets one file: the marker
file of its site, in the source tree or in the output tree.  Besides, it can make directories below
the output directory.  Everything else stays as it is, so the other sites are decided as before. -/
set_option autoImplicit false

namespace PackageDoc
open PackageDoc.Text

namespace Disk

/-- Two locations of which neither lies at or below the other. -/
structure Apart (one other : Location) : Prop where
  left : ¬ one <+: other
  right : ¬ other <+: one

instance (one other : Location) : Decidable (Apart one other) :=
  decidable_of_iff (¬ one <+: other ∧ ¬ other <+: one)
    ⟨fun both => ⟨both.1, both.2⟩, fun apart => ⟨apart.left, apart.right⟩⟩

theorem Apart.outside {one other location : Location} (apart : Apart one other)
    (inside : one <+: location) : ¬ other <+: location := by
  intro both
  rcases List.prefix_or_prefix_of_prefix inside both with below | below
  · exact apart.left below
  · exact apart.right below

/-- The content of the file at a location. -/
def contentAt (disk : Disk) (location : Location) : Option Bytes :=
  match disk.node? location with
  | some (.file content) => some content
  | _ => none

/-- What it spares to write one file and to make directories below another location. -/
structure Spares (output target : Location) (before after : Disk) : Prop where
  tree : after.IsTree
  plain : after.Plain
  keeps : Keeps before after
  elsewhere : ∀ location, location ≠ target → after.node? location = before.node? location ∨
    output <+: location ∧ before.node? location = none ∧ after.node? location = some .directory

namespace Spares
variable {output target location : Location} {before after : Disk}
  (spares : Spares output target before after) (other : location ≠ target)
include spares other

theorem contentAt : after.contentAt location = before.contentAt location := by
  unfold Disk.contentAt
  rcases spares.elsewhere location other with same | ⟨_, free, made⟩
  · rw [same]
  · rw [free, made]

theorem node? (outside : ¬ output <+: location) : after.node? location = before.node? location := by
  rcases spares.elsewhere location other with same | ⟨inside, _⟩
  · exact same
  · exact absurd inside outside

end Spares

/-- Making directories and then writing a file in one of them. -/
theorem spares_of_paved {output target : Location} {before middle : Disk}
    (tree : middle.IsTree) (plain : middle.Plain) (paved : Paved before middle)
    (outside : SameOutside output before middle) (writable : middle.Writable target)
    (content : Bytes) : Spares output target before (middle.put target (.file content)) := by
  refine ⟨writable.tree tree content, plain.put writable.below rfl,
    paved.keeps.trans (writable.keeps content), ?_⟩
  intro location other
  rw [node?_put_of_ne middle writable.below _ other]
  by_cases inside : output <+: location
  · rcases paved.node location with same | ⟨free, made⟩
    · exact Or.inl same
    · exact Or.inr ⟨inside, free, made⟩
  · exact Or.inl (outside location inside)

end Disk

namespace Plan
variable {plan : Plan} {source output : Location} {disk after : Disk}

/-- Source and output lie apart, and the marker file is named by a single name. -/
structure Separates (plan : Plan) (source output : Location) : Prop where
  apart : Disk.Apart source output
  marker : Path.IsName (bytes plan.options.markerFile)

/-- A disk on which both roots of a plan are where they should be. -/
structure Ready (plan : Plan) (source output : Location) (disk : Disk) : Prop where
  source : disk.Rooted plan.options.source source
  output : plan.options.generate = true → disk.Rooted plan.options.output output

theorem Ready.later (ready : plan.Ready source output disk) (tree : after.IsTree)
    (plain : after.Plain) (keeps : Disk.Keeps disk after) : plan.Ready source output after :=
  ⟨ready.source.later tree plain keeps, fun on => (ready.output on).later tree plain keeps⟩

/-- Where the marker file of a site lies. -/
def targetOf (plan : Plan) (source output : Location) (site : Site) : Location :=
  (if bytes plan.options.markerFile ∈ site.files then source else output) ++ site.names ++
    [bytes plan.options.markerFile]

theorem targetOf_of_some {site : Site} {file : Path} (marked : plan.markerOf site = some file) :
    plan.targetOf source output site =
      source ++ site.names ++ [bytes plan.options.markerFile] := by
  unfold targetOf
  rw [if_pos (markerOf_eq_some marked).1]

theorem targetOf_of_none {site : Site} (bare : plan.markerOf site = none) :
    plan.targetOf source output site =
      output ++ site.names ++ [bytes plan.options.markerFile] := by
  unfold targetOf
  rcases plan.markerOf_cases site with ⟨absent, _⟩ | ⟨_, marked⟩
  · rw [if_neg absent]
  · rw [bare] at marked
    cases marked

/-- Making the output directory of a site changes nothing outside the output tree. -/
theorem ensureDirectory_outputAt (rooted : disk.Rooted plan.options.output output)
    {names : List Name} (proper : ∀ name ∈ names, Path.IsName name)
    (made : ensureDirectory disk (plan.outputAt names) = (after, none)) :
    after.IsTree ∧ Disk.Paved disk after ∧ Disk.SameOutside output disk after := by
  unfold ensureDirectory at made
  split at made
  · cases made
    exact ⟨rooted.tree, Disk.Paved.refl disk, Disk.SameOutside.refl output disk⟩
  next missing =>
    split at made
    next created run =>
      cases made
      obtain ⟨extended, reached⟩ := Disk.createDirectories_extended rooted.tree run
      refine ⟨extended.tree, extended.paved, ?_⟩
      by_cases root : names = []
      · subst root
        -- The output path itself leads to a directory, so only the empty path is not held.
        rcases reached rfl with empty | directory
        · rw [Disk.createDirectories_of_empty disk empty] at run
          cases run
          exact Disk.SameOutside.refl output disk
        · obtain ⟨location, located, _⟩ :=
            Disk.find?_eq_some_iff.1 (Disk.isDirectory_iff.1 directory)
          have admitted := (Disk.reach_eq_ok (Disk.locate_eq_ok_iff.1 located)).1
          have held : disk.holds (plan.outputAt []) = true := by
            unfold Disk.holds outputAt
            rw [rooted.find?_of_fits proper ⟨admitted, fun name member => absurd member
              List.not_mem_nil⟩, List.append_nil, rooted.directory]
            rfl
          exact absurd held missing
      · exact Disk.createWithin_descend rooted.tree rooted.plain rooted.leads rooted.directory _
          root proper run
    next => cases made

theorem write_of_writeChange {change : Change} (written : writeChange disk change = (after, none)) :
    disk.write change.file (bytes change.content) = (after, none) := by
  unfold writeChange at written
  split at written
  next wrote => cases written; exact wrote
  next => cases written

/-- A visit that writes sets the marker file of its site and spares everything else. -/
theorem commit_spares (separates : plan.Separates source output)
    (ready : plan.Ready source output disk) {site : Site}
    (proper : ∀ name ∈ site.names, Path.IsName name) {decision : Decision}
    (decided : plan.decideSite disk site = .ok decision) {change : Change}
    (changes : decision.change = some change)
    (written : commit disk (plan.outputAt site.names) decision = (after, none)) :
    Disk.Spares output (plan.targetOf source output site) disk after ∧
      after.node? (plan.targetOf source output site) = some (.file (bytes change.content)) ∧
      after.find? change.file = some (.file (bytes change.content)) := by
  have decides := (decide_eq_ok_iff _ _ _ _ _ _).1 decided
  unfold commit at written
  rw [changes] at written
  generalize marked : plan.markerOf site = marker at decides
  rcases decides_change_cases decides changes with ⟨rfl, outcome, fresh⟩ | ⟨rfl, outcome, _⟩
  · have rooted := ready.output fresh.on
    rw [outcome] at written
    dsimp only at written
    rw [targetOf_of_none marked]
    split at written
    · cases written
    next middle made =>
      obtain ⟨tree, paved, outside⟩ := ensureDirectory_outputAt rooted proper made
      have later := rooted.later tree (paved.plain rooted.plain) paved.keeps
      have wrote := write_of_writeChange written
      rw [fresh.file] at wrote ⊢
      obtain ⟨rfl, writable, fits⟩ := Disk.write_descend later.tree later.plain later.leads
        later.directory proper separates.marker wrote
      have spares := Disk.spares_of_paved later.tree later.plain paved outside writable
        (bytes change.content)
      have held := Disk.node?_put_self middle writable.below (.file (bytes change.content))
      have final := rooted.later spares.tree spares.plain spares.keeps
      exact ⟨spares, held, (final.find?_child_of_fits proper separates.marker fits).trans held⟩
  · have rooted := ready.source
    rw [outcome] at written
    dsimp only at written
    have wrote := write_of_writeChange written
    rw [targetOf_of_some marked]
    rw [(markerOf_eq_some marked).2] at wrote ⊢
    obtain ⟨rfl, writable, fits⟩ := Disk.write_descend rooted.tree rooted.plain rooted.leads
      rooted.directory proper separates.marker wrote
    have spares := Disk.spares_of_paved rooted.tree rooted.plain (Disk.Paved.refl disk)
      (Disk.SameOutside.refl output disk) writable (bytes change.content)
    have held := Disk.node?_put_self disk writable.below (.file (bytes change.content))
    have final := rooted.later spares.tree spares.plain spares.keeps
    exact ⟨spares, held, (final.find?_child_of_fits proper separates.marker fits).trans held⟩

/-! ## What other sites read -/

theorem previous_eq (disk : Disk) (file : Path) : previous disk file =
    .ok (match disk.find? file with
      | some (.file content) => some content
      | _ => none) := by
  unfold previous
  split
  next missing =>
    cases found : disk.find? file with
    | none => rfl
    | some node =>
      cases node with
      | file content =>
        rw [Disk.isFile_iff.2 ⟨content, found⟩] at missing
        cases missing
      | directory => rfl
      | link target => rfl
  next present =>
    obtain ⟨content, found⟩ := Disk.isFile_iff.1 (by simpa using present)
    obtain ⟨location, located, held⟩ := Disk.find?_eq_some_iff.1 found
    have read : disk.read file = .ok content := by
      unfold Disk.read
      rw [located]
      simp only [bind, Except.bind, held]
    rw [read, found]

/-- What is in a file below a directory is told by its location. -/
theorem previous_descend_congr {path : Path} {root : Location} (early : disk.Rooted path root)
    (late : after.Rooted path root) {names : List Name} (proper : ∀ name ∈ names, Path.IsName name)
    (same : after.contentAt (root ++ names) = disk.contentAt (root ++ names)) :
    previous after (path.descend names) = previous disk (path.descend names) := by
  rw [previous_eq, previous_eq]
  by_cases fits : Disk.Fits path names
  · rw [early.find?_of_fits proper fits, late.find?_of_fits proper fits]
    exact congrArg Except.ok same
  · rw [early.find?_of_not_fits proper fits, late.find?_of_not_fits proper fits]

/-- The marker file of a site, as a path and as a location. -/
theorem locate_marker (separates : plan.Separates source output)
    (rooted : disk.Rooted plan.options.source source) {site : Site} (isSite : plan.IsSite disk site)
    {file : Path} (marked : plan.markerOf site = some file) :
    disk.locate file = .ok (source ++ site.names ++ [bytes plan.options.markerFile]) ∧
      (disk.node? (source ++ site.names ++ [bytes plan.options.markerFile])).isSome = true := by
  obtain ⟨member, rfl⟩ := markerOf_eq_some marked
  have proper := isSite.visible.isName rooted.tree
  obtain ⟨listing, listed, files⟩ := isSite.listed
  rw [← files] at member
  obtain ⟨fits, ⟨content, held⟩, _⟩ := (mem_files_rooted rooted proper listed _).1 member
  unfold directoryAt
  rw [← Path.descend_concat, Disk.locate_descend_iff rooted.tree rooted.plain rooted.leads
    rooted.directory (Path.isName_concat proper separates.marker), ← List.append_assoc]
  exact ⟨⟨rfl, fits, Option.isSome_of_eq_some held⟩, Option.isSome_of_eq_some held⟩

theorem target_ne_source (separates : plan.Separates source output) {site other : Site}
    (different : other.names ≠ site.names) :
    source ++ other.names ++ [bytes plan.options.markerFile] ≠ plan.targetOf source output site := by
  intro same
  unfold targetOf at same
  have fronts := (List.append_inj' same rfl).1
  split at fronts
  · exact different (List.append_cancel_left fronts)
  · refine separates.apart.outside (List.prefix_append source other.names) ?_
    rw [fronts]
    exact List.prefix_append _ _

theorem target_ne_output (separates : plan.Separates source output) {site other : Site}
    (different : other.names ≠ site.names) :
    output ++ other.names ++ [bytes plan.options.markerFile] ≠ plan.targetOf source output site := by
  intro same
  unfold targetOf at same
  have fronts := (List.append_inj' same rfl).1
  split at fronts
  · refine separates.apart.outside (List.prefix_append source site.names) ?_
    rw [← fronts]
    exact List.prefix_append _ _
  · exact different (List.append_cancel_left fronts)

/-- A write at one site leaves the decision at every other site as it was. -/
theorem decideSite_of_spares (separates : plan.Separates source output)
    (ready : plan.Ready source output disk)
    (templates : ∀ rule ∈ plan.rules, disk.isFile rule.template = true) {site other : Site}
    (isSite : plan.IsSite disk other) (different : other.names ≠ site.names)
    (spares : Disk.Spares output (plan.targetOf source output site) disk after) :
    plan.decideSite after other = plan.decideSite disk other := by
  refine decide_congr ⟨?_, ?_, ?_⟩ _
  · intro rule member
    obtain ⟨location, _, located, _⟩ := Disk.locate_of_isFile (templates rule member)
    exact Disk.key_of_keeps spares.keeps located
  · intro file marked
    have located := (locate_marker separates ready.source isSite marked).1
    have outside : ¬ output <+: source ++ other.names ++ [bytes plan.options.markerFile] := by
      refine separates.apart.outside ?_
      rw [List.append_assoc]
      exact List.prefix_append _ _
    exact ⟨Disk.key_of_keeps spares.keeps located, Disk.readText_of_keeps spares.keeps located
      (spares.node? (target_ne_source separates different) outside)⟩
  · intro on _
    have early := ready.output on
    have proper := Path.isName_concat (isSite.visible.isName ready.source.tree) separates.marker
    have same := spares.contentAt (target_ne_output separates different)
    rw [List.append_assoc] at same
    have fresh : plan.freshFile (plan.outputAt other.names) =
        plan.options.output.descend (other.names ++ [bytes plan.options.markerFile]) :=
      (Path.descend_concat _ _ _).symm
    rw [fresh]
    exact previous_descend_congr early (early.later spares.tree spares.plain spares.keeps) proper
      same

end Plan
end PackageDoc
