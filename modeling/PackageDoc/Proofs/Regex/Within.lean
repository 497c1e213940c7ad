import PackageDoc.Proofs.Regex.Invariant

/-! # Places of a match

Every place that a thread notes has been passed when it is noted, so the groups of a match lie within
the text. -/
set_option autoImplicit false

namespace PackageDoc.Regex

/-- The noted places do not lie behind a bound. -/
def Slots.Within (bound : Nat) (slots : Slots) : Prop := ∀ place, some place ∈ slots → place ≤ bound

theorem Slots.Within.mono {slots : Slots} {bound wider : Nat} (within : slots.Within bound)
    (bounded : bound ≤ wider) : slots.Within wider :=
  fun place noted => Nat.le_trans (within place noted) bounded

theorem Slots.Within.set {slots : Slots} {bound place : Nat} (within : slots.Within bound)
    (bounded : place ≤ bound) (slot : Nat) : Slots.Within bound (slots.set slot (some place)) := by
  intro other noted
  rcases List.mem_or_eq_of_mem_set noted with before | same
  · exact within other before
  · cases same
    exact bounded

theorem Slots.group?_eq_some_iff (slots : Slots) (index : Nat) (span : Span) :
    slots.group? index = some span ↔
      slots[2 * index]? = some (some span.start) ∧ slots[2 * index + 1]? = some (some span.stop) := by
  simp only [Slots.group?, Option.bind_eq_bind, Option.bind_eq_some_iff, Option.pure_def]
  constructor
  · intro found
    obtain ⟨_, first, start, rfl, _, second, stop, rfl, same⟩ := found
    cases same
    exact ⟨first, second⟩
  · intro noted
    exact ⟨_, noted.1, _, rfl, _, noted.2, _, rfl, rfl⟩

theorem Slots.Within.group {slots : Slots} {bound index : Nat} {span : Span}
    (within : slots.Within bound) (found : slots.group? index = some span) :
    span.start ≤ bound ∧ span.stop ≤ bound := by
  obtain ⟨first, second⟩ := (slots.group?_eq_some_iff index span).1 found
  exact ⟨within _ (List.mem_of_getElem? first), within _ (List.mem_of_getElem? second)⟩

namespace Program
variable {program : Program}

theorem noSlots_within (bound : Nat) : program.noSlots.Within bound := by
  intro place noted
  cases List.eq_of_mem_replicate noted

theorem keeps_within (program : Program) : program.Keeps fun place _ slots => slots.Within place where
  take _ within := within.mono (Nat.le_add_right _ 1)
  fork _ within := ⟨within, within⟩
  look _ within := within
  note _ within := within.set (Nat.le_refl _) _

/-- The groups of a match lie within the text. -/
theorem group_within {text : List Char} {slots : Slots} {index : Nat} {span : Span}
    (found : program.search text = some slots) (group : slots.group? index = some span) :
    span.start ≤ text.length ∧ span.stop ≤ text.length := by
  obtain ⟨place, _, bounded, _, within⟩ := search_holds program.keeps_within noSlots_within found
  exact (within.mono bounded).group group

end Program
end PackageDoc.Regex
