import PackageDoc.Options
import PackageDoc.Proofs.Disk.Lookup

/-! # Rules of a run

A validated entry becomes a rule with its own index and template.  The rules come out the same on a
later disk that keeps what is there. -/
set_option autoImplicit false

namespace PackageDoc

/-- Whether the pattern of an entry accepts a package. -/
def PackageEntry.claims (entry : PackageEntry) (package : String) : Bool :=
  match entry.pattern with
  | some pattern => Glob.accepts pattern package entry.caseSensitive
  | none => false

/-! ## Rules -/

namespace Options
variable {disk : Disk}

theorem validateEntry_eq_ok_iff {index : Nat} {entry : PackageEntry} {rule : Rule} :
    validateEntry disk index entry = .ok rule ↔ ∃ pattern template,
      entry.pattern = some pattern ∧ pattern.isEmpty = false ∧ entry.template = some template ∧
      disk.isFile template = true ∧ rule = ⟨index, pattern, entry.caseSensitive, template⟩ := by
  unfold validateEntry
  constructor
  · intro success
    split at success
    · cases success
    next pattern found =>
      split at success
      · cases success
      next template given =>
        split at success
        · cases success
        · split at success
          · cases success
          next file =>
            cases success
            obtain ⟨held, some⟩ := Option.filter_eq_some_iff.1 found
            exact ⟨pattern, template, held, by simpa using some, given, by simpa using file, rfl⟩
  · rintro ⟨pattern, template, held, some, given, file, rfl⟩
    simp [held, Option.filter, some, given, file, Disk.holds_of_isFile file]

theorem validateEntries_cons_eq_ok_iff {index : Nat} {entry : PackageEntry}
    {entries : List PackageEntry} {rules : List Rule} :
    validateEntries disk index (entry :: entries) = .ok rules ↔ ∃ rule rest,
      validateEntry disk index entry = .ok rule ∧
      validateEntries disk (index + 1) entries = .ok rest ∧ rules = rule :: rest := by
  rw [validateEntries]
  cases validateEntry disk index entry with
  | error failure => simp [bind, Except.bind]
  | ok rule =>
    cases validateEntries disk (index + 1) entries with
    | error failure => simp [bind, Except.bind]
    | ok rest => simp [bind, Except.bind, pure, Except.pure, eq_comm]

/-- The first rule that claims a package comes from the first entry that does. -/
theorem find?_of_validateEntries {package : String} : ∀ {entries : List PackageEntry} {start : Nat}
    {rules : List Rule}, validateEntries disk start entries = .ok rules →
      (Rule.find? rules package).map (·.index) =
        (entries.findIdx? (·.claims package)).map (· + start) := by
  intro entries
  induction entries with
  | nil => intro start rules success; cases success; rfl
  | cons entry entries ih =>
    intro start rules success
    obtain ⟨rule, rest, one, others, rfl⟩ := validateEntries_cons_eq_ok_iff.1 success
    obtain ⟨pattern, template, held, _, _, _, rfl⟩ := validateEntry_eq_ok_iff.1 one
    have same : entry.claims package =
        Rule.claims ⟨start, pattern, entry.caseSensitive, template⟩ package := by
      unfold PackageEntry.claims
      rw [held]
      rfl
    unfold Rule.find? at ih ⊢
    rw [List.findIdx?_cons, List.find?_cons, same]
    split
    next claims =>
      rw [if_pos claims]
      simp
    next other =>
      rw [if_neg (by rw [other]; exact Bool.false_ne_true), ih others, Option.map_map]
      congr 1
      funext index
      simp only [Function.comp_apply]
      omega

theorem entry_of_mem_rules : ∀ {entries : List PackageEntry} {start : Nat} {rules : List Rule},
    validateEntries disk start entries = .ok rules → ∀ rule ∈ rules,
      ∃ index entry, entries[index]? = some entry ∧ rule.index = start + index ∧
        entry.template = some rule.template ∧ disk.isFile rule.template = true := by
  intro entries
  induction entries with
  | nil =>
    intro start rules success
    cases success
    exact fun rule member => absurd member List.not_mem_nil
  | cons entry entries ih =>
    intro start rules success rule member
    obtain ⟨first, rest, one, others, rfl⟩ := validateEntries_cons_eq_ok_iff.1 success
    rcases List.mem_cons.1 member with rfl | later
    · obtain ⟨pattern, template, _, _, given, file, rfl⟩ := validateEntry_eq_ok_iff.1 one
      exact ⟨0, entry, rfl, rfl, given, file⟩
    · obtain ⟨index, other, held, shifted, given, file⟩ := ih others rule later
      exact ⟨index + 1, other, held, by omega, given, file⟩

theorem template_of_entry : ∀ {entries : List PackageEntry} {start : Nat} {rules : List Rule},
    validateEntries disk start entries = .ok rules → ∀ entry ∈ entries,
      ∃ rule ∈ rules, entry.template = some rule.template := by
  intro entries
  induction entries with
  | nil => intro start rules success entry member; exact absurd member List.not_mem_nil
  | cons first entries ih =>
    intro start rules success entry member
    obtain ⟨rule, rest, one, others, rfl⟩ := validateEntries_cons_eq_ok_iff.1 success
    rcases List.mem_cons.1 member with rfl | later
    · obtain ⟨pattern, template, _, _, given, file, rfl⟩ := validateEntry_eq_ok_iff.1 one
      exact ⟨_, List.mem_cons_self, given⟩
    · obtain ⟨other, inside, given⟩ := ih others entry later
      exact ⟨other, List.mem_cons_of_mem _ inside, given⟩

theorem validateEntries_of_keeps {before after : Disk} (keeps : Disk.Keeps before after) :
    ∀ {entries : List PackageEntry} {start : Nat} {rules : List Rule},
      validateEntries before start entries = .ok rules →
        validateEntries after start entries = .ok rules := by
  intro entries
  induction entries with
  | nil => intro start rules success; exact success
  | cons entry entries ih =>
    intro start rules success
    obtain ⟨rule, rest, one, others, rfl⟩ := validateEntries_cons_eq_ok_iff.1 success
    obtain ⟨pattern, template, held, some, given, file, rfl⟩ := validateEntry_eq_ok_iff.1 one
    exact validateEntries_cons_eq_ok_iff.2 ⟨_, rest, validateEntry_eq_ok_iff.2
      ⟨pattern, template, held, some, given, Disk.isFile_of_keeps keeps file, rfl⟩, ih others, rfl⟩

theorem validate_eq_ok_iff {options : Options} {rules : List Rule} :
    options.validate disk = .ok rules ↔ disk.isDirectory options.source = true ∧
      (options.generate = true → disk.holds options.output = true →
        disk.isDirectory options.output = true) ∧
      validateEntries disk 0 options.packages = .ok rules := by
  unfold validate
  split
  next other =>
    rw [Bool.not_eq_true'] at other
    simp [other]
  next there =>
    split
    next blocked =>
      rw [Bool.and_eq_true, Bool.and_eq_true, Bool.not_eq_true'] at blocked
      simp [blocked.1.1, blocked.1.2, blocked.2]
    next clear =>
      rw [Bool.not_eq_true, Bool.not_eq_false'] at there
      simp only [there, true_and, iff_and_self]
      intro _ generates held
      simpa [generates, held] using clear

end Options

end PackageDoc
