import Mathlib.Data.Finset.Card
import Mathlib.Data.Finset.Image
import PackageDoc.Proofs.Disk.Key
import PackageDoc.Proofs.Steps
import PackageDoc.TemplateStore

/-! # What a template store holds

Loading a template keeps what the store has and adds at most what that path leads to.  The store of
the templates of rules has, under the key of each file to which a template leads, the text of that
file, and nothing else; no key stands in it twice. -/
set_option autoImplicit false

namespace PackageDoc
open PackageDoc.Text

namespace TemplateStore
variable {disk : Disk}

/-! ## Looking up -/

def keys (store : TemplateStore) : List (List Path.Part) := store.templates.map (·.1)

theorem mem_keys_iff {store : TemplateStore} {key : List Path.Part} :
    key ∈ store.keys ↔ (store.find? key).isSome = true := by
  unfold keys find?
  rw [Option.isSome_map, List.find?_isSome]
  simp

theorem find?_append_singleton (store : TemplateStore) (key other : List Path.Part)
    (text : String) : (TemplateStore.mk (store.templates ++ [(key, text)])).find? other =
      (store.find? other).or (if key = other then some text else none) := by
  unfold find?
  rw [List.find?_append, Option.map_or]
  congr 1
  by_cases same : key = other
  · simp [same]
  · simp [same]

/-! ## Loading one template -/

theorem load_eq_ok {store after : TemplateStore} {path : Path} {text : String}
    (success : store.load disk path = .ok (text, after)) :
    (∀ key held, store.find? key = some held → after.find? key = some held) ∧
    (∀ key held, after.find? key = some held → store.find? key = some held ∨
      key = disk.key path ∧ disk.readText path = .ok held) ∧
    after.find? (disk.key path) = some text := by
  unfold load at success
  split at success
  next held found =>
    cases success
    exact ⟨fun _ _ kept => kept, fun _ _ kept => Or.inl kept, found⟩
  next missing =>
    split at success
    · next held read =>
      cases success
      refine ⟨?_, ?_, ?_⟩
      · intro key held found
        rw [find?_append_singleton, found]
        rfl
      · intro key held found
        rw [find?_append_singleton] at found
        cases kept : store.find? key with
        | some other =>
          rw [kept] at found
          exact Or.inl found
        | none =>
          rw [kept, Option.none_or] at found
          split at found
          next same => cases found; exact Or.inr ⟨same.symm, read⟩
          next => cases found
      · rw [find?_append_singleton, missing, if_pos rfl]
        rfl
    · cases success

theorem load_eq_error_iff {store : TemplateStore} {path : Path} {failure : Failure} :
    store.load disk path = .error failure ↔ store.find? (disk.key path) = none ∧
      ∃ cause, disk.readText path = .error cause ∧ failure = .templateLoad path.display cause := by
  unfold load
  cases store.find? (disk.key path) with
  | some text => simp
  | none => cases disk.readText path <;> simp [eq_comm]

/-- A key is added only if the store does not have it. -/
theorem load_keys_nodup {store after : TemplateStore} {path : Path} {text : String}
    (success : store.load disk path = .ok (text, after)) (distinct : store.keys.Nodup) :
    after.keys.Nodup := by
  unfold load at success
  split at success
  · cases success
    exact distinct
  next missing =>
    split at success
    · cases success
      have new : disk.key path ∉ store.keys := by
        rw [mem_keys_iff, missing]
        exact Bool.false_ne_true
      unfold keys at distinct new ⊢
      rw [List.map_append, List.map_singleton, List.nodup_append]
      refine ⟨distinct, by simp, ?_⟩
      rintro key member other added rfl
      rw [List.mem_singleton.1 added] at member
      exact new member
    · cases success

/-! ## Loading templates in order -/

theorem loadRules_append (back : List Rule) : ∀ (front : List Rule) (store : TemplateStore),
    loadRules disk (front ++ back) store =
      (loadRules disk front store >>= loadRules disk back) := by
  intro front
  induction front with
  | nil => intro store; rfl
  | cons rule rest ih =>
    intro store
    rw [List.cons_append, loadRules, loadRules]
    cases store.load disk rule.template with
    | error failure => rfl
    | ok pair => exact ih pair.2

theorem loadRules_eq_ok : ∀ {rules : List Rule} {store final : TemplateStore},
    loadRules disk rules store = .ok final →
      (∀ key text, store.find? key = some text → final.find? key = some text) ∧
      (∀ key text, final.find? key = some text → store.find? key = some text ∨
        ∃ rule ∈ rules, key = disk.key rule.template ∧ disk.readText rule.template = .ok text) ∧
      ∀ rule ∈ rules, (final.find? (disk.key rule.template)).isSome = true := by
  intro rules
  induction rules with
  | nil =>
    intro store final success
    cases success
    exact ⟨fun _ _ kept => kept, fun _ _ kept => Or.inl kept,
      fun rule member => absurd member List.not_mem_nil⟩
  | cons rule rest ih =>
    intro store final success
    obtain ⟨⟨text, middle⟩, loaded, success⟩ := bind_eq_ok success
    obtain ⟨keeps, comes, holds⟩ := load_eq_ok loaded
    obtain ⟨laterKeeps, laterComes, laterHolds⟩ := ih success
    refine ⟨fun key held found => laterKeeps key held (keeps key held found), ?_, ?_⟩
    · intro key held found
      rcases laterComes key held found with inMiddle | ⟨other, member, same, read⟩
      · rcases comes key held inMiddle with inStore | ⟨same, read⟩
        · exact Or.inl inStore
        · exact Or.inr ⟨rule, List.mem_cons_self, same, read⟩
      · exact Or.inr ⟨other, List.mem_cons_of_mem _ member, same, read⟩
    · intro other member
      rcases List.mem_cons.1 member with rfl | later
      · exact Option.isSome_of_eq_some (laterKeeps _ _ holds)
      · exact laterHolds other later

/-- Loading fails at one template, behind those that were loaded. -/
theorem loadRules_eq_error_iff {failure : Failure} : ∀ {rules : List Rule} {store : TemplateStore},
    loadRules disk rules store = .error failure ↔ ∃ before rule after middle,
      rules = before ++ rule :: after ∧ loadRules disk before store = .ok middle ∧
      middle.load disk rule.template = .error failure := by
  intro rules
  induction rules with
  | nil => intro store; simp [loadRules]
  | cons first rest ih =>
    intro store
    rw [loadRules]
    constructor
    · intro failed
      cases loaded : store.load disk first.template with
      | error cause =>
        rw [loaded] at failed
        cases failed
        exact ⟨[], first, rest, store, rfl, rfl, loaded⟩
      | ok pair =>
        rw [loaded] at failed
        obtain ⟨before, rule, after, middle, rfl, success, stops⟩ := ih.1 failed
        refine ⟨first :: before, rule, after, middle, rfl, ?_, stops⟩
        rw [loadRules, loaded]
        exact success
    · rintro ⟨before, rule, after, middle, split, success, stops⟩
      cases before with
      | nil =>
        cases split
        cases success
        rw [stops]
        rfl
      | cons _ before =>
        cases split
        obtain ⟨pair, loaded, success⟩ := bind_eq_ok success
        rw [loaded]
        exact ih.2 ⟨before, rule, after, middle, rfl, success, stops⟩

theorem loadRules_congr {before after : Disk} : ∀ {rules : List Rule},
    (∀ rule ∈ rules, after.key rule.template = before.key rule.template ∧
      after.readText rule.template = before.readText rule.template) →
    ∀ store, loadRules after rules store = loadRules before rules store := by
  intro rules
  induction rules with
  | nil => intro _ store; rfl
  | cons rule rest ih =>
    intro same store
    obtain ⟨key, text⟩ := same rule List.mem_cons_self
    have loads : store.load after rule.template = store.load before rule.template := by
      unfold load
      rw [key, text]
    have onward := ih fun rule member => same rule (List.mem_cons_of_mem _ member)
    rw [loadRules, loadRules, loads]
    cases store.load before rule.template with
    | error failure => simp only [bind, Except.bind]
    | ok pair =>
      simp only [bind, Except.bind]
      exact onward pair.2

theorem loadRules_keys_nodup : ∀ {rules : List Rule} {store final : TemplateStore},
    loadRules disk rules store = .ok final → store.keys.Nodup → final.keys.Nodup := by
  intro rules
  induction rules with
  | nil =>
    intro store final success distinct
    cases success
    exact distinct
  | cons rule rest ih =>
    intro store final success distinct
    obtain ⟨⟨text, middle⟩, loaded, success⟩ := bind_eq_ok success
    exact ih success (load_keys_nodup loaded distinct)

/-! ## Stores of the templates of rules -/

/-- The files to which the templates of rules lead. -/
def files (disk : Disk) (rules : List Rule) : Finset Location :=
  (rules.filterMap fun rule => (disk.locate rule.template).toOption).toFinset

theorem mem_files_iff {rules : List Rule} {location : Location} :
    location ∈ files disk rules ↔ ∃ rule ∈ rules, disk.locate rule.template = .ok location := by
  unfold files
  rw [List.mem_toFinset, List.mem_filterMap]
  refine exists_congr fun rule => and_congr_right fun _ => ?_
  cases disk.locate rule.template <;> simp [Except.toOption]

section Loaded
variable {rules : List Rule} {store : TemplateStore} (loaded : ofRules disk rules = .ok store)
include loaded

/-- What a store has under a key is the text of the file with that key. -/
theorem held_of_find? {key : List Path.Part} {text : String} (found : store.find? key = some text) :
    ∃ location ∈ files disk rules, keyOf location = key ∧
      disk.node? location = some (.file (bytes text)) := by
  obtain ⟨_, comes, _⟩ := loadRules_eq_ok loaded
  rcases comes key text found with none | ⟨rule, member, rfl, read⟩
  · cases none
  · obtain ⟨location, located, held⟩ :=
      Disk.find?_eq_some_iff.1 (Disk.readText_eq_ok_iff.1 read)
    exact ⟨location, mem_files_iff.2 ⟨rule, member, located⟩, (Disk.key_of_locate located).symm,
      held⟩

theorem mem_keys_ofRules_iff {key : List Path.Part} :
    key ∈ store.keys ↔ ∃ location ∈ files disk rules, keyOf location = key := by
  rw [mem_keys_iff]
  constructor
  · intro stored
    obtain ⟨text, found⟩ := Option.isSome_iff_exists.1 stored
    obtain ⟨location, member, same, _⟩ := held_of_find? loaded found
    exact ⟨location, member, same⟩
  · rintro ⟨location, member, rfl⟩
    obtain ⟨rule, inside, located⟩ := mem_files_iff.1 member
    rw [← Disk.key_of_locate located]
    exact (loadRules_eq_ok loaded).2.2 rule inside

/-- A store has one text for each file. -/
theorem size_ofRules : store.size = (files disk rules).card := by
  have distinct : store.keys.Nodup := loadRules_keys_nodup loaded List.nodup_nil
  have same : store.keys.toFinset = (files disk rules).image keyOf := by
    ext key
    rw [List.mem_toFinset, mem_keys_ofRules_iff loaded, Finset.mem_image]
  calc store.size = store.keys.length := (List.length_map _).symm
    _ = store.keys.toFinset.card := (List.toFinset_card_of_nodup distinct).symm
    _ = ((files disk rules).image keyOf).card := by rw [same]
    _ = (files disk rules).card :=
      Finset.card_image_of_injective _ fun _ _ => keyOf_injective

theorem contains_ofRules_iff {path : Path} :
    store.contains disk path = true ↔ ∃ location ∈ files disk rules,
      disk.locate path = .ok location ∨ disk.OnlySpells path location := by
  unfold contains
  rw [← mem_keys_iff, mem_keys_ofRules_iff loaded]
  refine exists_congr fun location => and_congr_right fun _ => ?_
  rw [eq_comm, Disk.key_eq_keyOf_iff]

/-- A path that leads somewhere counts as a template exactly if a template leads there too. -/
theorem contains_of_locate {path : Path} {location : Location}
    (located : disk.locate path = .ok location) :
    store.contains disk path = true ↔
      ∃ rule ∈ rules, disk.locate rule.template = .ok location := by
  rw [contains_ofRules_iff loaded, ← mem_files_iff]
  constructor
  · rintro ⟨place, member, same | spells⟩
    · rw [located] at same
      rw [Except.ok.inj same]
      exact member
    · obtain ⟨cause, failed⟩ := spells.astray
      rw [located] at failed
      cases failed
  · exact fun member => ⟨location, member, Or.inl located⟩

/-- A path with the key of a template's file is given the text of that file. -/
theorem get_of_key {path : Path} {location : Location} (member : location ∈ files disk rules)
    (key : disk.key path = keyOf location) :
    ∃ text, disk.node? location = some (.file (bytes text)) ∧ store.get disk path = .ok text := by
  have stored := (mem_keys_ofRules_iff loaded).2 ⟨location, member, rfl⟩
  obtain ⟨text, found⟩ := Option.isSome_iff_exists.1 (mem_keys_iff.1 stored)
  obtain ⟨place, _, same, held⟩ := held_of_find? loaded found
  obtain rfl := keyOf_injective same
  refine ⟨text, held, ?_⟩
  unfold get
  rw [key, found]

/-- A store gives for a rule what its template file holds. -/
theorem get_eq_readText {rule : Rule} (member : rule ∈ rules)
    (file : disk.isFile rule.template = true) :
    ∃ text, store.get disk rule.template = .ok text ∧ disk.readText rule.template = .ok text := by
  obtain ⟨location, _, located, _⟩ := Disk.locate_of_isFile file
  obtain ⟨text, held, got⟩ := get_of_key loaded (mem_files_iff.2 ⟨rule, member, located⟩)
    (Disk.key_of_locate located)
  exact ⟨text, got, Disk.readText_of_find? (Disk.find?_eq_some_iff.2 ⟨location, located, held⟩)⟩

end Loaded
end TemplateStore
end PackageDoc
