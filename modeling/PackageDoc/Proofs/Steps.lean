/-! # Steps that may fail

Steps in a row succeed if each of them does, the next one on what the one before it gave. -/
set_option autoImplicit false

namespace PackageDoc

variable {Failed First Last : Type}

theorem bind_eq_ok {first : Except Failed First} {next : First → Except Failed Last} {last : Last}
    (success : (first >>= next) = .ok last) :
    ∃ middle, first = .ok middle ∧ next middle = .ok last := by
  cases first with
  | error failed => cases success
  | ok middle => exact ⟨middle, rfl, success⟩

section Fold
variable {State Item : Type} (step : State → Item → Except Failed State)

theorem foldlM_cons_eq_ok_iff {item : Item} {items : List Item} {state final : State} :
    (item :: items).foldlM step state = .ok final ↔
      ∃ middle, step state item = .ok middle ∧ items.foldlM step middle = .ok final := by
  rw [List.foldlM_cons]
  cases step state item with
  | error failed => simp [bind, Except.bind]
  | ok middle => simp [bind, Except.bind]

end Fold
end PackageDoc
