import PackageDoc.Proofs.Marker.Basic
import PackageDoc.Proofs.Run.Basic
import PackageDoc.Proofs.Run.Plan
import PackageDoc.Proofs.Template.Store
import PackageDoc.Proofs.Text.Utf8
import PackageDoc.Proofs.Walk.Decision
import PackageDoc.Proofs.Walk.Found
import PackageDoc.Proofs.Walk.Sites

/-! # What a dry run reports

A dry run reports one visit for each visible directory with source files, in ascending order, and
what each visit says follows from the options and the disk alone: the package from the components of
the directory, the rule from the first entry that claims the package, and the outcome from the
marker file, the template and the output file. -/
set_option autoImplicit false

namespace PackageDoc
open PackageDoc.Text

/-- The path below a path with the given components. -/
def Path.under (path : Path) (components : List String) : Path :=
  path.descend (components.map Text.bytes)

namespace Options
variable (options : Options) (disk : Disk)

/-- A source file that lies directly in a directory. -/
structure IsSource (directory : Path) (name : Name) : Prop where
  listed : ∃ entries, disk.list directory = .ok entries ∧ name ∈ entries
  file : disk.isFile (directory.child name) = true
  extension : options.isSourceName name = true

/-- The index of the entry that claims a package, and the text of its template. -/
structure Claims (package : String) (index : Nat) (template : String) : Prop where
  first : options.packages.findIdx? (·.claims package) = some index
  template : ∃ entry path, options.packages[index]? = some entry ∧ entry.template = some path ∧
    disk.readText path = .ok template

/-- Whether a file is the template of some entry. -/
def IsTemplate (file : Path) : Prop :=
  ∃ entry ∈ options.packages, ∃ template location, entry.template = some template ∧
    disk.locate template = .ok location ∧ disk.locate file = .ok location

def outputFile (output : Path) : Path := output.join (Path.ofString options.markerFile)

def markedFile (directory : Path) : Path := directory.child (bytes options.markerFile)

/-- The marked region of a source with the rewritten template, trimmed, as its body. -/
def renewed (template package source : String) : Replacement :=
  options.markerPattern.replace source
    (String.ofList (Unicode.trim (Declaration.rewrite template package).toList))

/-- The rule and the outcome that the options and the disk entail for a package. -/
inductive Foretells (directory output : Path) (package : String) : Option Nat → Outcome → Prop
  | noMatch (unclaimed : options.packages.findIdx? (·.claims package) = none) :
      Foretells directory output package none .noMatch
  | generateDisabled {index : Nat} {template : String}
      (claimed : options.Claims disk package index template)
      (bare : ¬ options.IsSource disk directory (bytes options.markerFile))
      (off : options.generate = false) :
      Foretells directory output package (some index) .generateDisabled
  | generatedUpToDate {index : Nat} {template : String}
      (claimed : options.Claims disk package index template)
      (bare : ¬ options.IsSource disk directory (bytes options.markerFile))
      (on : options.generate = true)
      (same : disk.read (options.outputFile output) =
        .ok (bytes (Declaration.rewrite template package))) :
      Foretells directory output package (some index)
        (.generatedUpToDate (options.outputFile output))
  | generated {index : Nat} {template : String}
      (claimed : options.Claims disk package index template)
      (bare : ¬ options.IsSource disk directory (bytes options.markerFile))
      (on : options.generate = true)
      (differs : disk.read (options.outputFile output) ≠
        .ok (bytes (Declaration.rewrite template package))) :
      Foretells directory output package (some index) (.generated (options.outputFile output))
  | skipExisting {index : Nat} {template : String}
      (claimed : options.Claims disk package index template)
      (marked : options.IsSource disk directory (bytes options.markerFile))
      (off : options.inline = false) :
      Foretells directory output package (some index)
        (.skipExisting (options.markedFile directory))
  | templateSource {index : Nat} {template : String}
      (claimed : options.Claims disk package index template)
      (marked : options.IsSource disk directory (bytes options.markerFile))
      (on : options.inline = true)
      (itself : options.IsTemplate disk (options.markedFile directory)) :
      Foretells directory output package (some index)
        (.templateSource (options.markedFile directory))
  | markerNotFound {index : Nat} {template source : String}
      (claimed : options.Claims disk package index template)
      (marked : options.IsSource disk directory (bytes options.markerFile))
      (on : options.inline = true)
      (other : ¬ options.IsTemplate disk (options.markedFile directory))
      (read : disk.readText (options.markedFile directory) = .ok source)
      (missing : (options.renewed template package source).matched = false) :
      Foretells directory output package (some index)
        (.markerNotFound (options.markedFile directory))
  | markerUpToDate {index : Nat} {template source : String}
      (claimed : options.Claims disk package index template)
      (marked : options.IsSource disk directory (bytes options.markerFile))
      (on : options.inline = true)
      (other : ¬ options.IsTemplate disk (options.markedFile directory))
      (read : disk.readText (options.markedFile directory) = .ok source)
      (found : (options.renewed template package source).matched = true)
      (same : (options.renewed template package source).content = source) :
      Foretells directory output package (some index)
        (.markerUpToDate (options.markedFile directory))
  | replaced {index : Nat} {template source : String}
      (claimed : options.Claims disk package index template)
      (marked : options.IsSource disk directory (bytes options.markerFile))
      (on : options.inline = true)
      (other : ¬ options.IsTemplate disk (options.markedFile directory))
      (read : disk.readText (options.markedFile directory) = .ok source)
      (found : (options.renewed template package source).matched = true)
      (differs : (options.renewed template package source).content ≠ source) :
      Foretells directory output package (some index) (.replaced (options.markedFile directory))

/-- The visit of the directory with the given components. -/
structure Reports (components : List String) (visit : Visit) : Prop where
  directory : visit.directory = options.source.under components
  package : visit.package = ".".intercalate components
  outcome : options.Foretells disk visit.directory (options.output.under components) visit.package
    visit.rule visit.outcome

end Options

/-! ## Components and packages -/

/-- The text of a name, if it is one. -/
def textOf (name : Name) : String := (string? name).getD ""

theorem bytes_textOf {name : Name} (decodes : (string? name).isSome = true) :
    bytes (textOf name) = name := by
  obtain ⟨text, decoded⟩ := Option.isSome_iff_exists.1 decodes
  unfold textOf
  rw [decoded]
  exact bytes_of_string? decoded

theorem textOf_bytes (text : String) : textOf (bytes text) = text := by
  unfold textOf
  rw [string?_bytes]
  rfl

theorem map_textOf_bytes (components : List String) :
    (components.map bytes).map textOf = components := by
  rw [List.map_map]
  exact (List.map_congr_left fun text _ => textOf_bytes text).trans (List.map_id _)

theorem map_bytes_textOf_of_decodes {names : List Name}
    (decode : ∀ name ∈ names, (string? name).isSome = true) :
    (names.map textOf).map bytes = names := by
  rw [List.map_map]
  exact (List.map_congr_left fun name member => bytes_textOf (decode name member)).trans
    (List.map_id _)

namespace Plan

theorem packageOf_ne_empty {names : List Name} (components : ∀ name ∈ names, IsComponent name)
    (below : names ≠ []) : packageOf names ≠ "" := by
  rcases List.eq_nil_or_concat' names with rfl | ⟨front, name, rfl⟩
  · exact absurd rfl below
  · obtain ⟨proper, decodes⟩ := components name (by simp)
    obtain ⟨text, decoded⟩ := Option.isSome_iff_exists.1 decodes
    have some : text ≠ "" := by
      intro none
      apply proper.1
      rw [← bytes_of_string? decoded, none]
      rfl
    rw [packageOf_concat front decoded]
    unfold subpackage
    split
    · exact some
    next nonempty =>
      intro none
      rw [String.append_eq_empty_iff] at none
      exact some none.2

/-- A package is named by its components, with dots between them. -/
theorem packageOf_eq {names : List Name} (components : ∀ name ∈ names, IsComponent name) :
    packageOf names = ".".intercalate (names.map textOf) := by
  induction names using List.reverseRecOn with
  | nil => rfl
  | append_singleton front name ih =>
    have above : ∀ name ∈ front, IsComponent name :=
      fun name member => components name (List.mem_append_left _ member)
    obtain ⟨text, decoded⟩ := Option.isSome_iff_exists.1 (components name (by simp)).2
    have same : textOf name = text := by
      unfold textOf
      rw [decoded]
      rfl
    rw [packageOf_concat front decoded, List.map_append, List.map_singleton, same]
    unfold subpackage
    by_cases root : front = []
    · subst root
      simp [packageOf]
    · rw [if_neg (by simpa using packageOf_ne_empty above root), ih above,
        String.intercalate_append_of_ne_nil (by simpa using root) (List.cons_ne_nil _ _),
        String.intercalate_singleton]
      rfl

end Plan

namespace Visible
variable {disk : Disk} {source : Path} {names : List Name}

theorem map_bytes_textOf (visible : Visible disk source names) :
    (names.map textOf).map bytes = names := map_bytes_textOf_of_decodes visible.decodes

theorem packageOf_eq (tree : disk.IsTree) (visible : Visible disk source names) :
    Plan.packageOf names = ".".intercalate (names.map textOf) :=
  Plan.packageOf_eq (visible.components tree)

end Visible

/-! ## Outcomes -/

theorem Plan.previous_eq_some_iff {disk : Disk} {file : Path} {content : Bytes} :
    Plan.previous disk file = .ok (some content) ↔ disk.read file = .ok content := by
  have file_of_read : disk.read file = .ok content → disk.isFile file = true := by
    intro success
    unfold Disk.read at success
    cases located : disk.locate file with
    | error cause => rw [located] at success; cases success
    | ok location =>
      rw [located] at success
      simp only [bind, Except.bind] at success
      split at success
      next held =>
        exact Disk.isFile_iff.2 ⟨_, Disk.find?_eq_some_iff.2 ⟨location, located, held⟩⟩
      next => cases success
      next => cases success
  unfold Plan.previous
  split
  next missing =>
    refine iff_of_false (fun none => by cases none) fun success => ?_
    rw [file_of_read success] at missing
    cases missing
  next => cases disk.read file <;> simp

section Outcome
variable {options : Options} {disk : Disk} {rules : List Rule} {templates : TemplateStore}
  (validated : options.validate disk = .ok rules)
  (loaded : TemplateStore.ofRules disk rules = .ok templates)
include validated

theorem findIdx?_of_validate (package : String) :
    options.packages.findIdx? (·.claims package) = (Rule.find? rules package).map (·.index) := by
  have entries := (Options.validate_eq_ok_iff.1 validated).2.2
  rw [Options.find?_of_validateEntries entries]
  simp

theorem isFile_of_rule {rule : Rule} (member : rule ∈ rules) :
    disk.isFile rule.template = true := by
  obtain ⟨_, _, _, _, _, file⟩ :=
    Options.entry_of_mem_rules (Options.validate_eq_ok_iff.1 validated).2.2 rule member
  exact file

include loaded

/-- The template that is loaded for a rule is the one that its entry names. -/
theorem claims_of_find? {package : String} {rule : Rule}
    (claimed : Rule.find? rules package = some rule) :
    ∃ template, templates.get disk rule.template = .ok template ∧
      options.Claims disk package rule.index template := by
  have member := List.mem_of_find?_eq_some claimed
  obtain ⟨index, entry, held, shifted, given, file⟩ :=
    Options.entry_of_mem_rules (Options.validate_eq_ok_iff.1 validated).2.2 rule member
  obtain ⟨template, got, read⟩ :=
    TemplateStore.get_eq_readText loaded member (isFile_of_rule validated member)
  refine ⟨template, got, ⟨?_, entry, rule.template, ?_, given, read⟩⟩
  · rw [findIdx?_of_validate validated, claimed]
    rfl
  · rw [shifted, Nat.zero_add]
    exact held

theorem contains_iff_isTemplate {file : Path} (isFile : disk.isFile file = true) :
    templates.contains disk file = true ↔ options.IsTemplate disk file := by
  have entries := (Options.validate_eq_ok_iff.1 validated).2.2
  obtain ⟨place, _, located, _⟩ := Disk.locate_of_isFile isFile
  rw [TemplateStore.contains_of_locate loaded located]
  constructor
  · rintro ⟨rule, member, ruleLocated⟩
    obtain ⟨index, entry, held, _, given, _⟩ := Options.entry_of_mem_rules entries rule member
    exact ⟨entry, List.mem_of_getElem? held, rule.template, place, given, ruleLocated, located⟩
  · rintro ⟨entry, member, template, location, given, templateLocated, fileLocated⟩
    obtain ⟨rule, inside, same⟩ := Options.template_of_entry entries entry member
    rw [given] at same
    cases same
    rw [located] at fileLocated
    cases fileLocated
    exact ⟨rule, inside, templateLocated⟩

variable {site : Plan.Site} (isSite : Plan.IsSite ⟨options, rules, templates⟩ disk site)
include isSite

omit validated loaded in
theorem mem_files_iff (name : Name) : name ∈ site.files ↔
    options.IsSource disk (options.source.descend site.names) name := by
  obtain ⟨listing, listed, files⟩ := isSite.listed
  obtain ⟨entries, read, rfl⟩ := (Plan.list_eq_ok_iff _ _ _ _).1 listed
  rw [← files, List.mem_filter, Bool.and_eq_true]
  constructor
  · rintro ⟨inside, file, extension⟩
    exact ⟨⟨entries, read, inside⟩, file, extension⟩
  · rintro ⟨⟨others, otherRead, inside⟩, file, extension⟩
    obtain rfl : entries = others := Except.ok.inj (read.symm.trans otherRead)
    exact ⟨inside, file, extension⟩

/-- What is decided at a site is what the options and the disk entail. -/
theorem foretells_of_decides {package : String} {output : Path} {decision : Decision}
    (decides : Plan.Decides ⟨options, rules, templates⟩ disk package output
      (Plan.markerOf ⟨options, rules, templates⟩ site) decision) :
    options.Foretells disk (options.source.descend site.names) output package decision.rule
      decision.outcome := by
  have claims := fun rule => @claims_of_find? options disk rules templates validated loaded package
    rule
  generalize marker : Plan.markerOf ⟨options, rules, templates⟩ site = found at decides
  have source := mem_files_iff isSite (bytes options.markerFile)
  rcases Plan.markerOf_cases ⟨options, rules, templates⟩ site with ⟨absent, none⟩ | ⟨member, some⟩
  · obtain rfl := marker.symm.trans none
    have bare := mt source.2 absent
    cases decides with
    | noMatch unclaimed =>
      exact .noMatch (by rw [findIdx?_of_validate validated, unclaimed]; rfl)
    | generateDisabled claimed off =>
      obtain ⟨template, _, entails⟩ := claims _ claimed
      exact .generateDisabled entails bare off
    | generatedUpToDate claimed on got same =>
      obtain ⟨template, otherGot, entails⟩ := claims _ claimed
      obtain rfl := Except.ok.inj (otherGot.symm.trans got)
      exact .generatedUpToDate entails bare on (Plan.previous_eq_some_iff.1 same)
    | generated claimed on got held differs =>
      obtain ⟨template, otherGot, entails⟩ := claims _ claimed
      obtain rfl := Except.ok.inj (otherGot.symm.trans got)
      refine .generated entails bare on fun same => differs ?_
      exact Except.ok.inj (held.symm.trans (Plan.previous_eq_some_iff.2 same))
  · obtain rfl := marker.symm.trans some
    have marked := source.1 member
    have itself := contains_iff_isTemplate validated loaded marked.file
    have foreign : templates.contains disk
        (options.markedFile (options.source.descend site.names)) = false →
        ¬ options.IsTemplate disk (options.markedFile (options.source.descend site.names)) :=
      fun other template => Bool.noConfusion ((itself.2 template).symm.trans other)
    cases decides with
    | noMatch unclaimed =>
      exact .noMatch (by rw [findIdx?_of_validate validated, unclaimed]; rfl)
    | skipExisting claimed off =>
      obtain ⟨template, _, entails⟩ := claims _ claimed
      exact .skipExisting entails marked off
    | templateSource claimed on contained =>
      obtain ⟨template, _, entails⟩ := claims _ claimed
      exact .templateSource entails marked on (itself.1 contained)
    | markerNotFound claimed on other read got missing =>
      obtain ⟨template, otherGot, entails⟩ := claims _ claimed
      obtain rfl := Except.ok.inj (otherGot.symm.trans got)
      exact .markerNotFound entails marked on (foreign other) read missing
    | markerUpToDate claimed on other read got found same =>
      obtain ⟨template, otherGot, entails⟩ := claims _ claimed
      obtain rfl := Except.ok.inj (otherGot.symm.trans got)
      exact .markerUpToDate entails marked on (foreign other) read found
        (MarkerPattern.content_of_unchanged same)
    | replaced claimed on other read got found differs =>
      obtain ⟨template, otherGot, entails⟩ := claims _ claimed
      obtain rfl := Except.ok.inj (otherGot.symm.trans got)
      exact .replaced entails marked on (foreign other) read found
        ((MarkerPattern.changed_iff _ _ _).1 differs)

end Outcome

/-! ## The visits of a dry run -/

namespace Options

theorem hasSources_iff {options : Options} {disk : Disk} {rules : List Rule}
    {templates : TemplateStore} {names : List Name}
    (visible : Visible disk options.source names) :
    (∃ name, options.IsSource disk (options.source.descend names) name) ↔
      ∃ files, Plan.IsSite ⟨options, rules, templates⟩ disk ⟨names, files⟩ := by
  constructor
  · rintro ⟨name, source⟩
    obtain ⟨entries, read, inside⟩ := source.listed
    have listed := (Plan.list_eq_ok_iff ⟨options, rules, templates⟩ disk _ _).2 ⟨entries, read, rfl⟩
    refine ⟨entries.filter fun name => disk.isFile ((options.source.descend names).child name) &&
      options.isSourceName name, visible, ⟨_, listed, rfl⟩, ?_⟩
    refine List.ne_nil_of_mem (List.mem_filter.2 ⟨inside, ?_⟩)
    exact Bool.and_eq_true_iff.2 ⟨source.file, source.extension⟩
  · rintro ⟨files, isSite⟩
    obtain ⟨name, member⟩ := List.exists_mem_of_ne_nil _ isSite.some
    exact ⟨name, (mem_files_iff isSite name).1 member⟩

end Options

theorem forall₂_map_zipWith {Item Other Left Right : Type} {Related : Item → Other → Prop}
    {Wanted : Left → Right → Prop} {left : Item → Left} {right : Item → Other → Right}
    {items : List Item} {others : List Other} (related : List.Forall₂ Related items others) :
    (∀ item ∈ items, ∀ other, Related item other → Wanted (left item) (right item other)) →
      List.Forall₂ Wanted (items.map left) (List.zipWith right items others) := by
  induction related with
  | nil => intro _; exact .nil
  | @cons item other items others one rest ih =>
    intro each
    exact .cons (each item List.mem_cons_self other one)
      (ih fun item member => each item (List.mem_cons_of_mem _ member))

/-- The visits of a dry run are those of all visible directories with source files, each once and
in ascending order, and each says what the options and the disk entail. -/
theorem dry_run_visits (options : Options) (disk : Disk) (report : Report) (tree : disk.IsTree)
    (dry : options.dryRun = true) (rules : options.packages ≠ [])
    (there : disk.holds options.source = true)
    (success : (generate options disk).1 = .ok report) :
    ∃ directories : List (List String),
      directories.Pairwise (fun one other => one.map bytes < other.map bytes) ∧
      (∀ components, components ∈ directories ↔
        Visible disk options.source (components.map bytes) ∧
          ∃ name, options.IsSource disk (options.source.under components) name) ∧
      List.Forall₂ (options.Reports disk) directories report.visits := by
  have busy : options.isIdle disk = false := by
    unfold Options.isIdle
    simp [rules, there]
  obtain ⟨plan, prepared, final, runs, rfl, _⟩ :=
    (generate_eq_ok_iff options disk busy report _).1 (generate_report success)
  obtain ⟨rules, templates, validated, loaded, rfl⟩ := (plan_eq_ok_iff _ _ _).1 runs.planned
  have walked := runs.walked
  rw [(runs.dry_disk dry).1] at walked
  let plan : Plan := ⟨options, rules, templates⟩
  obtain ⟨sites, scans⟩ := Plan.scans_of_dry_walk plan dry Disk.pathLimit [] [] { disk := disk }
    final walked
  have begins : Visible disk plan.options.source [] := .root
  have isSite : ∀ site ∈ sites, plan.IsSite disk site :=
    fun site => (Plan.mem_sites_iff tree scans site).1
  have decided : ∃ decisions, plan.Decided disk sites decisions ∧
      final.visits = List.zipWith plan.visitOf sites decisions := by
    have folded := Plan.walk_eq_foldlM plan (· = disk)
      (fun later same => same ▸ Plan.ListsAs.refl plan disk) Disk.pathLimit [] [] sites scans begins
      (fun site _ => Plan.settles_of_still (Or.inl dry)) { disk := disk } rfl
    obtain ⟨decisions, each, rfl⟩ := Plan.decided_of_dry dry (folded.symm.trans walked)
    exact ⟨decisions, each, List.nil_append _⟩
  obtain ⟨decisions, decided, visits⟩ := decided
  refine ⟨sites.map fun site => site.names.map textOf, ?_, ?_, ?_⟩
  · rw [List.pairwise_map]
    refine (Plan.scans_ascending _ _ _ _ scans begins).imp_of_mem ?_
    intro one other oneMember otherMember less
    rw [(isSite one oneMember).visible.map_bytes_textOf,
      (isSite other otherMember).visible.map_bytes_textOf]
    exact less
  · intro components
    rw [List.mem_map]
    constructor
    · rintro ⟨site, member, rfl⟩
      have visible := (isSite site member).visible
      unfold Path.under
      rw [visible.map_bytes_textOf]
      exact ⟨visible, (Options.hasSources_iff visible).2 ⟨site.files, isSite site member⟩⟩
    · rintro ⟨visible, sources⟩
      obtain ⟨files, isSite⟩ := (Options.hasSources_iff visible).1 sources
      exact ⟨_, (Plan.mem_sites_iff tree scans _).2 isSite, map_textOf_bytes components⟩
  · rw [visits]
    refine forall₂_map_zipWith decided ?_
    intro site member decision decide
    have site_ := isSite site member
    unfold Plan.decideSite at decide
    refine ⟨?_, ?_, ?_⟩
    · unfold Path.under
      rw [site_.visible.map_bytes_textOf]
      rfl
    · exact site_.visible.packageOf_eq tree
    · unfold Path.under
      rw [site_.visible.map_bytes_textOf]
      exact foretells_of_decides validated loaded site_ ((Plan.decide_eq_ok_iff _ _ _ _ _ _).1 decide)

theorem dry_run_visits_sample : ∃ directories : List (List String),
    directories.Pairwise (fun one other => one.map bytes < other.map bytes) ∧
    (∀ components, components ∈ directories ↔
      Visible Sample.fresh (.ofString "src") (components.map bytes) ∧
        ∃ name, (Sample.plain.withDryRun true).IsSource Sample.fresh
          ((Path.ofString "src").under components) name) ∧
    List.Forall₂ ((Sample.plain.withDryRun true).Reports Sample.fresh) directories
      Sample.pending.visits :=
  dry_run_visits (Sample.plain.withDryRun true) Sample.fresh Sample.pending (by decide) rfl
    (by decide) (by decide) rfl

end PackageDoc
