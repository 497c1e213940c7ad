import PackageDoc.Console.Listing
import PackageDoc.Proofs.Console.Preview
import PackageDoc.Proofs.Run.Consistency

/-! # What the list of packages shows

The rule of a visit is the index of an entry, and only packages without a rule are unmatched.  So the
visits fall into one group for each entry and a rest, and the command `list` shows these groups, each
in the order of the walk, and counts them. -/
set_option autoImplicit false

namespace PackageDoc
open PackageDoc.Text

/-! ## Groups by a key -/

section Groups
variable {Item : Type} (key : Item → Option Nat) (items : List Item)

/-- The items whose key is a given number. -/
def groupOf (index : Nat) : List Item := items.filter (key · = some index)

/-- The items without a key below a bound. -/
def outside (bound : Nat) : List Item := items.filter fun item => (key item).all (bound ≤ ·)

/-- A bound that is one higher leaves out one more group. -/
theorem outside_succ_perm (bound : Nat) :
    (groupOf key items bound ++ outside key items (bound + 1)).Perm (outside key items bound) := by
  have here : (outside key items bound).filter (fun item => key item = some bound) =
      groupOf key items bound := by
    unfold outside groupOf
    rw [List.filter_filter]
    refine List.filter_congr fun item _ => ?_
    cases key item with
    | none => simp
    | some index => simp +contextual
  have others : (outside key items bound).filter (fun item => !decide (key item = some bound)) =
      outside key items (bound + 1) := by
    unfold outside
    rw [List.filter_filter]
    refine List.filter_congr fun item _ => ?_
    cases key item with
    | none => simp
    | some index =>
      rw [Bool.eq_iff_iff]
      simp
      omega
  rw [← here, ← others]
  exact List.filter_append_perm _ _

/-- Each item is in the group of its key or outside of all groups, and nowhere twice. -/
theorem groups_perm (bound : Nat) :
    (((List.range bound).map (groupOf key items)).flatten ++ outside key items bound).Perm
      items := by
  induction bound with
  | zero => simp [outside]
  | succ bound ih =>
    rw [List.range_succ, List.map_append, List.flatten_append, List.append_assoc]
    simp only [List.map_singleton, List.flatten_singleton]
    exact ((outside_succ_perm key items bound).append_left _).trans ih

end Groups

/-- The visits of a report in groups: one for each entry, and those that no rule claims. -/
structure Options.Groups (options : Options) (report : Report) (groups : List (List Visit))
    (rest : List Visit) : Prop where
  entries : groups.length = options.packages.length
  once : (groups.flatten ++ rest).Perm report.visits
  inOrder : ∀ group ∈ groups, group.Sublist report.visits
  restInOrder : rest.Sublist report.visits
  ruled : ∀ index group, groups[index]? = some group → ∀ visit ∈ group,
    visit.rule = some index ∧ options.FirstClaims visit.package index ∧ visit.outcome ≠ .noMatch
  unruled : ∀ visit ∈ rest, visit.rule = none ∧ visit.outcome = .noMatch

namespace Options.Groups
variable {options : Options} {report : Report} {groups : List (List Visit)} {rest : List Visit}
  (parts : options.Groups report groups rest)
include parts

theorem length_visits : report.visits.length = groups.flatten.length + rest.length := by
  rw [← parts.once.length_eq, List.length_append]

theorem count_noMatch : report.count (· = .noMatch) = rest.length := by
  have claimed : groups.flatten.filter (fun visit => decide (visit.outcome = .noMatch)) = [] := by
    refine List.filter_eq_nil_iff.2 fun visit member => ?_
    obtain ⟨group, inside, member⟩ := List.mem_flatten.1 member
    obtain ⟨index, here⟩ := List.mem_iff_getElem?.1 inside
    simpa using (parts.ruled index group here visit member).2.2
  have left : rest.filter (fun visit => decide (visit.outcome = .noMatch)) = rest :=
    List.filter_eq_self.2 fun visit member => by simpa using (parts.unruled visit member).2
  have same := (parts.once.filter fun visit => decide (visit.outcome = .noMatch)).length_eq
  rw [List.filter_append, claimed, left, List.nil_append] at same
  exact same.symm

end Options.Groups

namespace Console.Session

/-- The entries with their groups, the rest and the totals. -/
def listing (session : Session) (options : Options) (groups : List (List Visit))
    (rest : List Visit) : List String :=
  session.paint .bold "Rules:" ::
    (options.packages.zip groups).zipIdx.flatMap (fun ((entry, group), index) =>
      session.entryLine index entry :: group.map fun visit => "      " ++ shownPackage visit.package ++
        (if visit.outcome.isWrite then " (out of date)" else "")) ++
    (if rest = [] then []
      else "" :: session.paint .bold "Unmatched:" ::
        rest.map fun visit => "  " ++ shownPackage visit.package) ++
    ["", toString options.packages.length ++ " rule(s), " ++
      toString (groups.flatten.length + rest.length) ++ " package(s), " ++
      toString rest.length ++ " unmatched"]

theorem groups_of_coherent {options : Options} {report : Report}
    (coherent : ∀ visit ∈ report.visits, options.Coherent visit) :
    options.Groups report ((List.range options.packages.length).map (claimed report))
      (unclaimed report) := by
  have inside : ∀ visit ∈ report.visits, ∀ index, visit.rule = some index →
      index < options.packages.length := by
    intro visit member index ruled
    obtain ⟨entry, held, _⟩ := ((coherent visit member).ruled index ruled).claims
    exact (List.getElem?_eq_some_iff.1 held).1
  have rest : unclaimed report = outside (·.rule) report.visits options.packages.length := by
    refine List.filter_congr fun visit member => ?_
    have below := inside visit member
    cases found : visit.rule with
    | none => simp [found]
    | some index => simpa [found] using below index found
  refine ⟨by simp, ?_, ?_, List.filter_sublist, ?_, ?_⟩
  · rw [rest]
    exact groups_perm (·.rule) report.visits options.packages.length
  · intro group member
    obtain ⟨index, _, rfl⟩ := List.mem_map.1 member
    exact List.filter_sublist
  · intro index group here visit member
    obtain ⟨place, found, rfl⟩ := List.getElem?_map .. ▸ here |> Option.map_eq_some_iff.1
    obtain ⟨_, rfl⟩ := List.getElem?_eq_some_iff.1 found
    rw [List.getElem_range] at member
    obtain ⟨visited, held⟩ := List.mem_filter.1 member
    have ruled : visit.rule = some index := by simpa using held
    have agrees := coherent visit visited
    refine ⟨ruled, agrees.ruled index ruled, fun free => ?_⟩
    rw [agrees.unruled.2 free] at ruled
    cases ruled
  · intro visit member
    obtain ⟨visited, free⟩ := List.mem_filter.1 member
    have unruled := Option.isNone_iff_eq_none.1 free
    exact ⟨unruled, (coherent visit visited).unruled.1 unruled⟩

theorem unclaimedLines_eq (session : Session) (report : Report) :
    session.unclaimedLines report = if unclaimed report = [] then []
      else "" :: session.paint .bold "Unmatched:" :: (unclaimed report).map unclaimedLine := by
  unfold unclaimedLines
  cases unclaimed report with
  | nil => rfl
  | cons visit others => rfl

theorem listLines_eq (session : Session) {options : Options} {report : Report}
    (parts : options.Groups report ((List.range options.packages.length).map (claimed report))
      (unclaimed report)) :
    session.listLines options report = session.listing options
      ((List.range options.packages.length).map (claimed report)) (unclaimed report) := by
  have entries : (options.packages.zip
      ((List.range options.packages.length).map (claimed report))).zipIdx =
        options.packages.zipIdx.map fun place => ((place.1, claimed report place.2), place.2) := by
    apply List.ext_getElem
    · simp
    · simp
  unfold listLines listing totals
  rw [entries, List.flatMap_map, unclaimedLines_eq, parts.length_visits, parts.count_noMatch]
  rfl

/-- The command shows each visit of the dry run once: under the entry whose rule claims it or under
those without a rule, in the order of the walk, marked if it is to be written; the totals count the
visits that are shown. -/
theorem list_shows_each_visit_once (session : Session) (disk : Disk) (settings : Settings)
    (options : Options) (report : Report)
    (loaded : Settings.load disk session.root = .ok (some settings))
    (read : Options.ofSettings session.root settings = .ok options) (ruled : options.packages ≠ [])
    (success : (PackageDoc.generate { options with dryRun := true } disk).1 = .ok report) :
    ∃ groups rest, options.Groups report groups rest ∧
      session.list disk = (.success (lines (session.listing options groups rest)), disk) ∧
      report.visits.length = groups.flatten.length + rest.length ∧
      report.count (· = .noMatch) = rest.length := by
  have coherent : ∀ visit ∈ report.visits, options.Coherent visit := by
    intro visit member
    obtain ⟨_, _, _, consistent⟩ := report_is_consistent _ disk report success
    obtain ⟨unruled, first, allowed⟩ := consistent visit member
    exact ⟨unruled, fun index rule => ⟨(first index rule).claims, (first index rule).first⟩, allowed⟩
  have parts := groups_of_coherent coherent
  have quiet : session.notice { options with dryRun := true } = "" := by
    simp [notice, ruled]
  have left : (PackageDoc.generate { options with dryRun := true } disk).2 = disk :=
    generate_dry_disk rfl disk
  refine ⟨_, _, parts, ?_, parts.length_visits, parts.count_noMatch⟩
  unfold list withOptions withReport
  rw [loaded]
  dsimp only
  rw [read]
  dsimp only
  rw [if_neg (by simpa using ruled), generate_report success, left]
  dsimp only
  rw [quiet, listLines_eq session parts]
  rfl

/-- Whether there are rules to list and a report to list them with. -/
def lists (session : Session) (disk : Disk) : Bool :=
  match Settings.load disk session.root with
  | .ok (some settings) =>
    match Options.ofSettings session.root settings with
    | .ok options =>
      !options.packages.isEmpty && (PackageDoc.generate { options with dryRun := true } disk).1.isOk
    | .error _ => false
  | _ => false

theorem exists_of_lists {session : Session} {disk : Disk} (able : session.lists disk = true) :
    ∃ settings options report, Settings.load disk session.root = .ok (some settings) ∧
      Options.ofSettings session.root settings = .ok options ∧ options.packages ≠ [] ∧
      (PackageDoc.generate { options with dryRun := true } disk).1 = .ok report := by
  unfold lists at able
  split at able
  next settings loaded =>
    split at able
    next options read =>
      obtain ⟨ruled, succeeds⟩ := Bool.and_eq_true_iff.1 able
      cases success : (PackageDoc.generate { options with dryRun := true } disk).1 with
      | error failure => rw [success] at succeeds; cases succeeds
      | ok report => exact ⟨settings, options, report, loaded, read, by simpa using ruled, success⟩
    · cases able
  · cases able

end Console.Session

namespace Sample

/-- A project with a rule for one of its two packages. -/
def listed : Disk where
  entries := [([bytes "pkginfo.toml"],
      .file (bytes "source_directory = \"src\"\npackages = [[\"a\", true, \"t\"]]\n")),
    ([bytes "src"], .directory), ([bytes "src", bytes "A.java"], .file []),
    ([bytes "src", bytes "a"], .directory), ([bytes "src", bytes "a", bytes "A.java"], .file []),
    ([bytes "t"], .file (bytes "package q;"))]
  current := []
  ordered := by unfold Ordered; decide

def atHome : Console.Session where
  root := .ofString "."
  coloured := false
  verbose := false
  filter := .choose none .warn

end Sample

theorem Console.Session.list_shows_each_visit_once_sample :
    ∃ settings options report groups rest,
      Settings.load Sample.listed Sample.atHome.root = .ok (some settings) ∧
      Options.ofSettings Sample.atHome.root settings = .ok options ∧ options.packages ≠ [] ∧
      (PackageDoc.generate { options with dryRun := true } Sample.listed).1 = .ok report ∧
      options.Groups report groups rest ∧
      Sample.atHome.list Sample.listed =
        (.success (lines (Sample.atHome.listing options groups rest)), Sample.listed) ∧
      (Sample.atHome.list Sample.listed).1.output = lines ["Rules:", "  [0] a -> t",
        "      a (out of date)", "", "Unmatched:", "  <root>", "",
        "1 rule(s), 2 package(s), 1 unmatched"] := by
  have able : Sample.atHome.lists Sample.listed = true := by decide +kernel
  obtain ⟨settings, options, report, loaded, read, ruled, success⟩ := exists_of_lists able
  obtain ⟨groups, rest, parts, listed, _⟩ := list_shows_each_visit_once Sample.atHome Sample.listed
    settings options report loaded read ruled success
  exact ⟨settings, options, report, groups, rest, loaded, read, ruled, success, parts, listed,
    by decide +kernel⟩

end PackageDoc
