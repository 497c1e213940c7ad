import Mathlib.Data.Finset.Card
import Mathlib.Data.Finset.Image
import PackageDoc.Proofs.Disk.Key
import PackageDoc.Proofs.Run.Plan
import PackageDoc.Proofs.Walk.Calls
import PackageDoc.Proofs.Walk.Found

/-! # Cycles

A directory on a chain is never at the place of one above it, or else the walk fails there.  So the
directories above an open call are all different, and no more calls can be open at once than there
are directories, and one. -/
set_option autoImplicit false

namespace PackageDoc
open PackageDoc.Text

/-! ## Places -/

namespace Disk

def directories (disk : Disk) : Finset Location :=
  insert [] ((disk.entries.filter (·.2 = .directory)).map (·.1)).toFinset

/-- Two paths that lead to the same place. -/
def SamePlace (disk : Disk) (one other : Path) : Prop :=
  ∃ location, disk.locate one = .ok location ∧ disk.locate other = .ok location

theorem mem_directories_iff {disk : Disk} {location : Location} :
    location ∈ disk.directories ↔ disk.node? location = some .directory := by
  unfold directories
  rw [Finset.mem_insert, List.mem_toFinset, List.mem_map]
  by_cases root : location = []
  · simp [root, node?_root]
  · rw [node?_eq_some_iff disk root]
    constructor
    · rintro (same | ⟨⟨place, node⟩, member, rfl⟩)
      · exact absurd same root
      · obtain ⟨member, held⟩ := List.mem_filter.1 member
        obtain rfl : node = .directory := by simpa using held
        exact member
    · intro member
      exact Or.inr ⟨_, List.mem_filter.2 ⟨member, by simp⟩, rfl⟩

def directoryKeys (disk : Disk) : Finset (List Path.Part) :=
  disk.directories.image fun location => .root :: location.map .name

theorem card_directoryKeys_le (disk : Disk) : disk.directoryKeys.card ≤ disk.directories.card :=
  Finset.card_image_le

theorem key_mem_directoryKeys {disk : Disk} {path : Path}
    (directory : disk.isDirectory path = true) : disk.key path ∈ disk.directoryKeys := by
  obtain ⟨location, located, held⟩ := find?_eq_some_iff.1 (isDirectory_iff.1 directory)
  rw [key_of_locate located]
  exact Finset.mem_image_of_mem _ (mem_directories_iff.2 held)

theorem samePlace_iff {disk : Disk} {one other : Path} (first : disk.isDirectory one = true)
    (second : disk.isDirectory other = true) :
    disk.SamePlace one other ↔ disk.key one = disk.key other := by
  obtain ⟨place, located, _⟩ := find?_eq_some_iff.1 (isDirectory_iff.1 first)
  obtain ⟨goal, reached, _⟩ := find?_eq_some_iff.1 (isDirectory_iff.1 second)
  constructor
  · rintro ⟨location, here, there⟩
    rw [key_of_locate here, key_of_locate there]
  · intro same
    obtain rfl := locate_eq_of_key_eq located reached same
    exact ⟨place, located, reached⟩

end Disk

theorem Visible.isDirectory {disk : Disk} {source : Path} {names : List Name}
    (there : disk.isDirectory source = true) (visible : Visible disk source names) :
    disk.isDirectory (source.descend names) = true := by
  cases visible with
  | root => exact there
  | child _ _ _ directory => exact directory

/-- A visible directory at the place of one above it. -/
structure CyclicAt (disk : Disk) (source : Path) (names : List Name) : Prop where
  visible : Visible disk source names
  above : ∃ above, above <+: names ∧ above ≠ names ∧
    disk.SamePlace (source.descend above) (source.descend names)

namespace Plan
variable {plan : Plan} {disk : Disk}

/-! ## Open calls -/

/-- The keys of the directories above the one under some names, the nearest first. -/
def keysAbove (plan : Plan) (disk : Disk) (names : List Name) : List (List Path.Part) :=
  ((List.range names.length).map fun depth =>
    disk.key (plan.directoryAt (names.take depth))).reverse

theorem length_keysAbove (names : List Name) : (plan.keysAbove disk names).length = names.length := by
  simp [keysAbove]

theorem keysAbove_concat (names : List Name) (name : Name) :
    plan.keysAbove disk (names ++ [name]) =
      disk.key (plan.directoryAt names) :: plan.keysAbove disk names := by
  have shorter : (List.range names.length).map (fun depth =>
      disk.key (plan.directoryAt ((names ++ [name]).take depth))) =
      (List.range names.length).map fun depth => disk.key (plan.directoryAt (names.take depth)) := by
    refine List.map_congr_left fun depth member => ?_
    rw [List.take_append_of_le_length (Nat.le_of_lt (List.mem_range.1 member))]
  unfold keysAbove
  rw [List.length_append, List.length_singleton, List.range_succ, List.map_append,
    List.reverse_append, shorter]
  simp

theorem mem_keysAbove_iff {names : List Name} {key : List Path.Part} :
    key ∈ plan.keysAbove disk names ↔
      ∃ above, above <+: names ∧ above ≠ names ∧ disk.key (plan.directoryAt above) = key := by
  unfold keysAbove
  simp only [List.mem_reverse, List.mem_map, List.mem_range]
  constructor
  · rintro ⟨depth, less, rfl⟩
    refine ⟨names.take depth, List.take_prefix depth names, ?_, rfl⟩
    intro whole
    have lengths := congrArg List.length whole
    rw [List.length_take] at lengths
    omega
  · rintro ⟨above, inside, proper, rfl⟩
    refine ⟨above.length, ?_, ?_⟩
    · exact Nat.lt_of_le_of_ne inside.length_le fun same => proper (inside.eq_of_length same)
    · rw [← List.prefix_iff_eq_take.1 inside]

def callAt (plan : Plan) (disk : Disk) (names : List Name) : Call :=
  ⟨plan.keysAbove disk names, plan.directoryAt names, plan.outputAt names, packageOf names⟩

theorem callAt_concat (names : List Name) {name : Name} {text : String}
    (decoded : string? name = some text) :
    plan.callAt disk (names ++ [name]) = (plan.callAt disk names).child disk name text := by
  unfold callAt Call.child directoryAt outputAt
  rw [keysAbove_concat, packageOf_concat names decoded, Path.descend_concat, Path.descend_concat]
  rfl

/-- Names under which a walk can make a call. -/
structure Opened (plan : Plan) (disk : Disk) (names : List Name) : Prop where
  visible : Visible disk plan.options.source names
  distinct : (plan.keysAbove disk names).Nodup

section Opened
variable {names : List Name}

theorem opened_source : plan.Opened disk [] := ⟨.root, List.nodup_nil⟩

theorem Opened.child (opened : plan.Opened disk names)
    (open_ : (plan.callAt disk names).isCyclic disk = false) {listing : Listing}
    (listed : plan.list disk (plan.directoryAt names) = .ok listing) {name : Name}
    (member : name ∈ listing.directories) (decodes : (string? name).isSome = true) :
    plan.Opened disk (names ++ [name]) := by
  refine ⟨visible_child opened.visible listed member decodes, ?_⟩
  rw [keysAbove_concat, List.nodup_cons]
  refine ⟨?_, opened.distinct⟩
  intro again
  have cyclic : (plan.callAt disk names).isCyclic disk = true := List.contains_iff_mem.2 again
  exact Bool.noConfusion (open_.symm.trans cyclic)

variable (there : disk.isDirectory plan.options.source = true)
include there

theorem keysAbove_subset (visible : Visible disk plan.options.source names) :
    ∀ key ∈ plan.keysAbove disk names, key ∈ disk.directoryKeys := by
  intro key member
  obtain ⟨above, ⟨rest, rfl⟩, _, rfl⟩ := mem_keysAbove_iff.1 member
  exact Disk.key_mem_directoryKeys (visible.of_append.isDirectory there)

theorem Opened.length_le (opened : plan.Opened disk names) :
    names.length ≤ disk.directories.card := by
  have inside : (plan.keysAbove disk names).toFinset ⊆ disk.directoryKeys := by
    intro key member
    exact keysAbove_subset there opened.visible key (List.mem_toFinset.1 member)
  calc names.length = (plan.keysAbove disk names).length := (length_keysAbove names).symm
    _ = (plan.keysAbove disk names).toFinset.card :=
      (List.toFinset_card_of_nodup opened.distinct).symm
    _ ≤ disk.directoryKeys.card := Finset.card_le_card inside
    _ ≤ disk.directories.card := disk.card_directoryKeys_le

theorem isCyclic_iff (visible : Visible disk plan.options.source names) :
    (plan.callAt disk names).isCyclic disk = true ↔ CyclicAt disk plan.options.source names := by
  have whole := visible.isDirectory there
  have places : ∀ above, above <+: names → (disk.key (plan.directoryAt above) =
      disk.key (plan.directoryAt names) ↔ disk.SamePlace (plan.options.source.descend above)
        (plan.options.source.descend names)) := by
    rintro above ⟨rest, rfl⟩
    exact (Disk.samePlace_iff (visible.of_append.isDirectory there) whole).symm
  have member : (plan.callAt disk names).isCyclic disk = true ↔
      disk.key (plan.directoryAt names) ∈ plan.keysAbove disk names := List.contains_iff_mem
  rw [member, mem_keysAbove_iff]
  constructor
  · rintro ⟨above, inside, proper, same⟩
    exact ⟨visible, above, inside, proper, (places above inside).1 same⟩
  · rintro ⟨_, above, inside, proper, same⟩
    exact ⟨above, inside, proper, (places above inside).2 same⟩

end Opened

/-! ## Nested calls -/

/-- A result, or nothing if too many calls were open at once. -/
abbrev Bounded := ExceptT (Failure × Progress) Option Progress

def within (result : Except (Failure × Progress) Progress) : Bounded := ExceptT.mk (some result)

/-- A walk that gives up as soon as more calls are open than a limit. -/
def walkWithin (plan : Plan) : Nat → Call → Progress → Bounded
  | 0, _, _ => ExceptT.mk none
  | limit + 1, call, progress =>
    if call.isCyclic progress.disk then
      within (.error (.symlinkCycle call.directory.display, progress))
    else
      match plan.list progress.disk call.directory with
      | .error failure => within (.error (failure, progress))
      | .ok listing => do
        let visited ← within (plan.visitCall call listing progress)
        listing.directories.foldlM (fun later name =>
          match string? name with
          | none => within (.ok later)
          | some text => walkWithin plan limit (call.child progress.disk name text) later) visited

theorem within_bind {first : Except (Failure × Progress) Progress} {next : Progress → Bounded}
    {other : Progress → Except (Failure × Progress) Progress}
    (same : ∀ middle, first = .ok middle → next middle = within (other middle)) :
    within first >>= next = within (first >>= other) := by
  cases first with
  | error failed => rfl
  | ok middle => exact same middle rfl

theorem within_foldlM (Good : Progress → Prop) {step : Progress → Name → Bounded}
    {other : Progress → Name → Except (Failure × Progress) Progress} : ∀ (names : List Name),
    (∀ name ∈ names, ∀ progress, Good progress → step progress name = within (other progress name)) →
    (∀ progress name after, Good progress → other progress name = .ok after → Good after) →
      ∀ progress, Good progress →
        names.foldlM step progress = within (names.foldlM other progress) := by
  intro names
  induction names with
  | nil => intro _ _ progress _; rfl
  | cons name rest ih =>
    intro each keeps progress good
    rw [List.foldlM_cons, List.foldlM_cons, each name List.mem_cons_self progress good]
    refine within_bind fun middle stepped => ?_
    exact ih (fun name member => each name (List.mem_cons_of_mem _ member)) keeps middle
      (keeps progress name middle good stepped)

theorem disk_of_left {first : Except (Failure × Progress) Progress} {progress after : Progress}
    (still : (left first).disk = progress.disk) (success : first = .ok after) :
    after.disk = progress.disk := by
  rw [success] at still
  exact still

/-- A dry walk never has more calls open than there are directories, and one. -/
theorem walkWithin_eq (dry : plan.options.dryRun = true) (tree : disk.IsTree)
    (there : disk.isDirectory plan.options.source = true) : ∀ (fuel limit : Nat)
    (names : List Name) (progress : Progress), plan.Opened disk names → progress.disk = disk →
      names.length + fuel = Disk.pathLimit → disk.directories.card < names.length + limit →
        plan.walkWithin limit (plan.callAt disk names) progress =
          within (plan.walkFrom fuel (plan.callAt disk names) progress) := by
  intro fuel
  induction fuel with
  | zero =>
    -- A visible directory lies less deep than the fuel reaches.
    intro limit names progress opened _ whole _
    have short := opened.visible.length_lt tree
    omega
  | succ fuel ih =>
    intro limit names progress opened same whole enough
    subst same
    cases limit with
    | zero =>
      -- The directories above an open call are all different, so there are not that many.
      have deep := opened.length_le there
      omega
    | succ limit =>
      rw [walkWithin, walkFrom_succ]
      split
      · rfl
      next open_ =>
        rw [Bool.not_eq_true] at open_
        cases listed : plan.list progress.disk (plan.callAt progress.disk names).directory with
        | error failure => rfl
        | ok listing =>
          refine within_bind fun visited success => ?_
          have kept : visited.disk = progress.disk :=
            disk_of_left (visitSources_dry_disk plan dry _ _ _ _ progress) success
          refine within_foldlM (fun later => later.disk = progress.disk) _ ?_ ?_ visited kept
          · intro name member later laterSame
            unfold enterCall
            cases decoded : string? name with
            | none => rfl
            | some text =>
              dsimp only
              rw [← callAt_concat names decoded]
              have deeper := opened.child open_ listed member (by rw [decoded]; rfl)
              refine ih limit (names ++ [name]) later deeper laterSame ?_ ?_
              · rw [List.length_append, List.length_singleton]
                omega
              · rw [List.length_append, List.length_singleton]
                omega
          · intro later name after laterSame stepped
            unfold enterCall at stepped
            split at stepped
            · cases stepped
              exact laterSame
            · exact (disk_of_left (walk_dry_disk plan dry _ _ _ _ _ later) stepped).trans laterSame

/-! ## Walks that succeed -/

theorem scans_at (tree : disk.IsTree) {sites : List Site}
    (scans : plan.Scans disk Disk.pathLimit [] [] sites) : ∀ {names : List Name},
    Visible disk plan.options.source names → ∃ found,
      plan.Scans disk (Disk.pathLimit - names.length) (plan.keysAbove disk names) names found := by
  intro names
  induction names using List.reverseRecOn with
  | nil => intro _; exact ⟨sites, scans⟩
  | append_singleton names name ih =>
    intro visible
    obtain ⟨above, _, _, _, _, _, decodes⟩ := visible.of_concat
    obtain ⟨found, scans⟩ := ih above
    obtain ⟨fuel, whole⟩ : ∃ fuel, Disk.pathLimit - names.length = fuel + 1 := by
      have short := above.length_lt tree
      exact Nat.exists_eq_succ_of_ne_zero (by omega)
    rw [whole] at scans
    obtain ⟨_, listing, below, listed, branches, _⟩ := scans
    obtain ⟨deeper, _, branch⟩ :=
      exists_found_of_forall₂ branches (mem_directories_of_concat visible listed)
    refine ⟨deeper, ?_⟩
    rw [keysAbove_concat, List.length_append, List.length_singleton]
    have less : Disk.pathLimit - (names.length + 1) = fuel := by omega
    rw [less]
    exact Branches.scans branch decodes

theorem not_cyclicAt_of_scans (tree : disk.IsTree)
    (there : disk.isDirectory plan.options.source = true) {sites : List Site}
    (scans : plan.Scans disk Disk.pathLimit [] [] sites) (names : List Name) :
    ¬ CyclicAt disk plan.options.source names := by
  intro cyclic
  obtain ⟨found, here⟩ := scans_at tree scans cyclic.visible
  have short := cyclic.visible.length_lt tree
  obtain ⟨fuel, whole⟩ : ∃ fuel, Disk.pathLimit - names.length = fuel + 1 :=
    Nat.exists_eq_succ_of_ne_zero (by omega)
  rw [whole] at here
  have again := (isCyclic_iff there cyclic.visible).2 cyclic
  exact Bool.noConfusion (here.1.symm.trans again)

/-! ## Walks that fail -/

theorem traces_cycle (dry : plan.options.dryRun = true)
    (there : disk.isDirectory plan.options.source = true) : plan.Traces
    (fun call => ∃ names, plan.Opened disk names ∧ call = plan.callAt disk names)
    (fun progress => progress.disk = disk)
    (fun before after => after.disk = before.disk)
    (fun _ failure _ => ∀ text, failure = .symlinkCycle text → ∃ names,
      CyclicAt disk plan.options.source names ∧
        text = (plan.options.source.descend names).display) where
  refl _ := rfl
  trans _ _ _ first second := second.trans first
  keeps _ _ same good := same.trans good
  child := by
    rintro call progress listing name text ⟨names, opened, rfl⟩ rfl open_ listed member decoded
    refine ⟨names ++ [name], ?_, (callAt_concat names decoded).symm⟩
    exact opened.child open_ listed member (by rw [decoded]; rfl)
  cycle := by
    rintro call progress ⟨names, opened, rfl⟩ rfl cyclic text same
    cases same
    exact ⟨names, (isCyclic_iff there opened.visible).1 cyclic, rfl⟩
  listing := by
    intro call progress failure _ _ failed text same
    obtain ⟨cause, rfl⟩ := list_eq_error failed
    cases same
  visit := by
    rintro call progress listing _ _ _
    have still := visit_dry_disk plan dry call.directory call.output call.package listing.files
      progress
    cases visited : plan.visit call.directory call.output call.package listing.files progress with
    | ok final => exact disk_of_left still visited
    | error failed =>
      obtain ⟨failure, after⟩ := failed
      refine ⟨progress, rfl, fun text same => ?_⟩
      cases visitFails_of_visit visited <;> cases same

end Plan
end PackageDoc
