import Mathlib.Data.List.Induction
import PackageDoc.Proofs.Template.Store

/-! # Templates are known by their files

A store tells templates apart by the files their paths lead to, however the paths are written, and has
each file once.  A path that leads nowhere is known by its spelling alone: if it spells out the way to a
template's file, it counts as that template, though nothing can be read there.  No path that names a
file by its form is mistaken so. -/
set_option autoImplicit false

namespace PackageDoc
open PackageDoc.Text

namespace TemplateStore
variable {disk : Disk} {rules : List Rule}

/-! ## Which template is missing -/

/-- A template that leads nowhere, but spells out the way to the file of an earlier rule's. -/
def Repeats (disk : Disk) (earlier : List Rule) (path : Path) : Prop :=
  ∃ rule ∈ earlier, ∃ location, disk.locate rule.template = .ok location ∧
    disk.OnlySpells path location

/-- A template that is read, or need not be. -/
def Served (disk : Disk) (earlier : List Rule) (path : Path) : Prop :=
  (∃ text, disk.readText path = .ok text) ∨ Repeats disk earlier path

/-- The first rule whose template is not served, and why it cannot be read. -/
structure StopsAt (disk : Disk) (before : List Rule) (rule : Rule) (cause : DiskError) : Prop where
  earlier : ∀ front other back, before = front ++ other :: back → Served disk front other.template
  unserved : ¬ Served disk before rule.template
  unread : disk.readText rule.template = .error cause

theorem load_iff_served {earlier : List Rule} {store : TemplateStore}
    (loaded : ofRules disk earlier = .ok store) (path : Path) :
    (∃ pair, store.load disk path = .ok pair) ↔ Served disk earlier path := by
  constructor
  · rintro ⟨pair, success⟩
    cases found : store.find? (disk.key path) with
    | some text =>
      obtain ⟨location, member, key, held⟩ := held_of_find? loaded found
      rcases Disk.key_eq_keyOf_iff.1 key.symm with leads | spells
      · exact Or.inl ⟨text,
          Disk.readText_of_find? (Disk.find?_eq_some_iff.2 ⟨location, leads, held⟩)⟩
      · obtain ⟨rule, inside, located⟩ := mem_files_iff.1 member
        exact Or.inr ⟨rule, inside, location, located, spells⟩
    | none =>
      unfold load at success
      rw [found] at success
      cases read : disk.readText path with
      | ok text => exact Or.inl ⟨text, read⟩
      | error cause => rw [read] at success; cases success
  · intro served
    cases loads : store.load disk path with
    | ok pair => exact ⟨pair, rfl⟩
    | error failure =>
      obtain ⟨missing, cause, unread, _⟩ := load_eq_error_iff.1 loads
      rcases served with ⟨text, read⟩ | ⟨rule, member, location, located, spells⟩
      · rw [read] at unread
        cases unread
      · have stored := (mem_keys_ofRules_iff loaded).2
          ⟨location, mem_files_iff.2 ⟨rule, member, located⟩, rfl⟩
        rw [← Disk.key_eq_keyOf_iff.2 (Or.inr spells), mem_keys_iff, missing] at stored
        cases stored

theorem ofRules_concat (front : List Rule) (last : Rule) :
    ofRules disk (front ++ [last]) =
      (ofRules disk front >>= fun store => do return (← store.load disk last.template).2) := by
  unfold ofRules
  rw [loadRules_append]
  rfl

/-- Loading succeeds exactly if each template is served by those before it. -/
theorem exists_ofRules_iff : (∃ store, ofRules disk rules = .ok store) ↔
    ∀ front other back, rules = front ++ other :: back → Served disk front other.template := by
  constructor
  · rintro ⟨store, loaded⟩ front other back rfl
    unfold ofRules at loaded
    rw [loadRules_append] at loaded
    obtain ⟨middle, first, rest⟩ := bind_eq_ok loaded
    obtain ⟨pair, loads, _⟩ := bind_eq_ok rest
    exact (load_iff_served first other.template).1 ⟨pair, loads⟩
  · intro served
    induction rules using List.reverseRecOn with
    | nil => exact ⟨{}, rfl⟩
    | append_singleton front last ih =>
      obtain ⟨store, loaded⟩ := ih fun before other after whole =>
        served before other (after ++ [last]) (by rw [whole]; simp)
      obtain ⟨pair, loads⟩ := (load_iff_served loaded last.template).2 (served front last [] rfl)
      refine ⟨pair.2, ?_⟩
      rw [ofRules_concat, loaded]
      simp only [bind, Except.bind, loads]
      rfl

theorem ofRules_eq_error_iff {failure : Failure} :
    ofRules disk rules = .error failure ↔ ∃ before rule after cause,
      rules = before ++ rule :: after ∧ StopsAt disk before rule cause ∧
      failure = .templateLoad rule.template.display cause := by
  unfold ofRules
  rw [loadRules_eq_error_iff]
  constructor
  · rintro ⟨before, rule, after, middle, split, loaded, stops⟩
    obtain ⟨_, cause, unread, rfl⟩ := load_eq_error_iff.1 stops
    refine ⟨before, rule, after, cause, split,
      ⟨exists_ofRules_iff.1 ⟨middle, loaded⟩, fun served => ?_, unread⟩, rfl⟩
    obtain ⟨pair, loads⟩ := (load_iff_served loaded rule.template).2 served
    rw [stops] at loads
    cases loads
  · rintro ⟨before, rule, after, cause, split, stops, rfl⟩
    obtain ⟨middle, loaded⟩ := exists_ofRules_iff.2 stops.earlier
    refine ⟨before, rule, after, middle, split, loaded, ?_⟩
    cases loads : middle.load disk rule.template with
    | ok pair => exact absurd ((load_iff_served loaded rule.template).1 ⟨pair, loads⟩) stops.unserved
    | error failure =>
      obtain ⟨_, reason, unread, rfl⟩ := load_eq_error_iff.1 loads
      rw [stops.unread] at unread
      cases unread
      rfl

/-- Paths that name files by their form are served only by being read. -/
theorem served_iff_of_namesFile (tree : disk.IsTree) {earlier : List Rule} {path : Path}
    (names : path.NamesFile) :
    Served disk earlier path ↔ ∃ text, disk.readText path = .ok text := by
  refine ⟨fun served => served.resolve_right ?_, Or.inl⟩
  rintro ⟨rule, _, location, located, spells⟩
  exact spells.not_namesFile tree located names

/-! ## Templates by file -/

/-- What a store tells of the templates of rules and of all paths. -/
structure KnowsFiles (disk : Disk) (rules : List Rule) (store : TemplateStore) : Prop where
  get : ∀ rule ∈ rules, ∀ location, disk.locate rule.template = .ok location →
    ∃ text, disk.node? location = some (.file (bytes text)) ∧
      store.get disk rule.template = .ok text
  /-- A template that leads nowhere is given the text of the file to which it spells out the way. -/
  getAstray : ∀ rule ∈ rules, ∀ cause, disk.locate rule.template = .error cause →
    ¬ rule.template.NamesFile ∧ ∃ location ∈ files disk rules,
      rule.template.parts = keyOf location ∧
      ∃ text, disk.node? location = some (.file (bytes text)) ∧
        store.get disk rule.template = .ok text
  contains : ∀ path location, disk.locate path = .ok location →
    (store.contains disk path = true ↔
      ∃ rule ∈ rules, disk.locate rule.template = .ok location)
  /-- A path that leads nowhere counts as a template only if it spells out the way to one, and never
  if it names a file by its form. -/
  containsAstray : ∀ path cause, disk.locate path = .error cause →
    (store.contains disk path = true ↔ ¬ path.NamesFile ∧ ∃ rule ∈ rules, ∃ location,
      disk.locate rule.template = .ok location ∧ path.parts = keyOf location)
  size : store.size = (files disk rules).card

theorem knowsFiles (tree : disk.IsTree) {store : TemplateStore}
    (loaded : ofRules disk rules = .ok store) : store.KnowsFiles disk rules := by
  have spelled : ∀ {path location cause}, disk.locate path = .error cause →
      location ∈ files disk rules → path.parts = keyOf location → ¬ path.NamesFile := by
    intro path location cause astray member parts
    obtain ⟨rule, _, located⟩ := mem_files_iff.1 member
    exact Disk.OnlySpells.not_namesFile tree located ⟨⟨cause, astray⟩, parts⟩
  constructor
  case get =>
    intro rule member location located
    exact get_of_key loaded (mem_files_iff.2 ⟨rule, member, located⟩) (Disk.key_of_locate located)
  case getAstray =>
    intro rule member cause astray
    have known : store.contains disk rule.template = true :=
      (loadRules_eq_ok loaded).2.2 rule member
    obtain ⟨location, inside, leads | spells⟩ := (contains_ofRules_iff loaded).1 known
    · rw [astray] at leads
      cases leads
    · exact ⟨spelled astray inside spells.spelled, location, inside, spells.spelled,
        get_of_key loaded inside (Disk.key_eq_keyOf_iff.2 (Or.inr spells))⟩
  case contains => exact fun path location => contains_of_locate loaded
  case containsAstray =>
    intro path cause astray
    rw [contains_ofRules_iff loaded]
    constructor
    · rintro ⟨location, member, leads | spells⟩
      · rw [astray] at leads
        cases leads
      · obtain ⟨rule, inside, located⟩ := mem_files_iff.1 member
        exact ⟨spelled astray member spells.spelled, rule, inside, location, located,
          spells.spelled⟩
    · rintro ⟨_, rule, inside, location, located, parts⟩
      exact ⟨location, mem_files_iff.2 ⟨rule, inside, located⟩, Or.inr ⟨⟨cause, astray⟩, parts⟩⟩
  case size => exact size_ofRules loaded

/-- The store of the templates of rules knows them by their files, and fails at the first that is not
served.  If all templates name files by their form, that is the first that cannot be read. -/
theorem templates_known_by_file (disk : Disk) (tree : disk.IsTree) (rules : List Rule) :
    (∀ store, ofRules disk rules = .ok store → store.KnowsFiles disk rules) ∧
    (∀ failure, ofRules disk rules = .error failure ↔ ∃ before rule after cause,
      rules = before ++ rule :: after ∧ StopsAt disk before rule cause ∧
      failure = .templateLoad rule.template.display cause) ∧
    ((∀ rule ∈ rules, rule.template.NamesFile) → ∀ failure,
      ofRules disk rules = .error failure ↔ ∃ before rule after cause,
        rules = before ++ rule :: after ∧
        (∀ other ∈ before, ∃ text, disk.readText other.template = .ok text) ∧
        disk.readText rule.template = .error cause ∧
        failure = .templateLoad rule.template.display cause) := by
  refine ⟨fun store => knowsFiles tree, fun failure => ofRules_eq_error_iff, fun named failure => ?_⟩
  rw [ofRules_eq_error_iff]
  constructor
  · rintro ⟨before, rule, after, cause, rfl, stops, rfl⟩
    refine ⟨before, rule, after, cause, rfl, fun other member => ?_, stops.unread, rfl⟩
    obtain ⟨front, back, rfl⟩ := List.append_of_mem member
    exact (served_iff_of_namesFile tree (named other (by simp))).1 (stops.earlier _ _ _ rfl)
  · rintro ⟨before, rule, after, cause, rfl, read, unread, rfl⟩
    refine ⟨before, rule, after, cause, rfl, ⟨?_, fun served => ?_, unread⟩, rfl⟩
    · rintro front other back rfl
      exact Or.inl (read other (by simp))
    · obtain ⟨text, found⟩ := (served_iff_of_namesFile tree (named rule (by simp))).1 served
      rw [unread] at found
      cases found

end TemplateStore

namespace Sample

/-- A template in a directory to which a link leads. -/
def aliased : Disk where
  entries := [([bytes "d"], .directory), ([bytes "d", bytes "t"], .file (bytes "package q;")),
    ([bytes "l"], .link (.ofString "d"))]
  current := []
  ordered := by unfold Ordered; decide

def ruleOf (template : String) : Rule := ⟨0, "**", true, .ofString template⟩

/-- Three ways to one file; the last leads nowhere. -/
def spellings : List Rule := ["d/../l/t", "/d/./t", "/d/t/"].map ruleOf

end Sample

namespace TemplateStore

theorem templates_known_by_file_sample :
    (∃ store, ofRules Sample.aliased Sample.spellings = .ok store ∧
      store.KnowsFiles Sample.aliased Sample.spellings ∧ store.size = 1) ∧
    ∃ before rule after cause,
      [Sample.ruleOf "l/t", Sample.ruleOf "x"] = before ++ rule :: after ∧
      (∀ other ∈ before, ∃ text, Sample.aliased.readText other.template = .ok text) ∧
      Sample.aliased.readText rule.template = .error cause ∧
      Failure.templateLoad "x" .notFound = .templateLoad rule.template.display cause := by
  have tree : Sample.aliased.IsTree := by decide
  have loaded := templates_known_by_file Sample.aliased tree Sample.spellings
  have stopped := templates_known_by_file Sample.aliased tree
    [Sample.ruleOf "l/t", Sample.ruleOf "x"]
  exact ⟨⟨_, rfl, loaded.1 _ rfl, rfl⟩, (stopped.2.2 (by decide) _).1 rfl⟩

/-- A path that asks for a directory where the template is counts as that template: it is contained,
and it is not read although reading it fails. -/
theorem astray_path_counts_as_template :
    Sample.aliased.IsTree ∧
    Sample.aliased.readText (.ofString "/d/t/") = .error .notADirectory ∧
    (∀ location, Sample.aliased.locate (.ofString "/d/t/") ≠ .ok location) ∧
    (∃ store, ofRules Sample.aliased [Sample.ruleOf "/d/t"] = .ok store ∧
      store.contains Sample.aliased (.ofString "/d/t/") = true) ∧
    ofRules Sample.aliased [Sample.ruleOf "/d/t", Sample.ruleOf "/d/t/", Sample.ruleOf "x"] =
      .error (.templateLoad "x" .notFound) := by
  have astray : Sample.aliased.locate (.ofString "/d/t/") = .error .notADirectory := by decide
  refine ⟨by decide, by decide, fun location located => ?_, ⟨_, rfl, by decide⟩, rfl⟩
  rw [astray] at located
  cases located

end TemplateStore
end PackageDoc
