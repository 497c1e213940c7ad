import PackageDoc.Proofs.Text.Utf8
import PackageDoc.Unicode.Case

/-! # Lowercase expansions

No expansion is empty, and only that of `İ` has two characters.  The signs before `A`, the dot and the
star among them, are expansions of themselves and stand in no other one, so they stay where they are when
a text is lowered. -/
set_option autoImplicit false

namespace PackageDoc.Unicode

/-- The text with each character replaced by its lowercase expansion. -/
def lowered (text : String) : String := String.ofList (lowercaseAll text.toList)

theorem toList_lowered (text : String) : (lowered text).toList = lowercaseAll text.toList :=
  String.toList_ofList

/-! ## The runs -/

/-- The runs move letters to letters. -/
theorem bounds_of_image? : ∀ run ∈ lowercaseRuns, ∀ code image, run.image? code = some image →
    'A'.toNat ≤ code ∧ 'A'.toNat ≤ image ∧ image.isValidChar := by
  intro run member code image moved
  have spans : ∀ run ∈ lowercaseRuns, 'A'.toNat ≤ run.first ∧
      (('A'.toNat : Int) ≤ run.first + run.shift ∧ run.last + run.shift < 0xD800 ∨
        (0xDFFF : Int) < run.first + run.shift ∧ run.last + run.shift < 0x110000) := by
    decide +kernel
  have span := spans run member
  unfold CaseRun.image? at moved
  split at moved
  next inside =>
    obtain rfl := Option.some.inj moved
    unfold Nat.isValidChar
    have letter : 'A'.toNat = 0x41 := rfl
    omega
  next => cases moved

theorem applyRuns_eq_iff {code sign : Nat} (low : sign < 'A'.toNat) :
    applyRuns lowercaseRuns code = sign ↔ code = sign := by
  unfold applyRuns
  cases found : lowercaseRuns.findSome? (·.image? code) with
  | none => rfl
  | some image =>
    obtain ⟨run, member, moved⟩ := List.exists_of_findSome?_eq_some found
    obtain ⟨above, beyond, _⟩ := bounds_of_image? run member code image moved
    exact iff_of_false (Nat.ne_of_gt (Nat.lt_of_lt_of_le low beyond))
      (Nat.ne_of_gt (Nat.lt_of_lt_of_le low above))

theorem isValidChar_applyRuns (c : Char) : (applyRuns lowercaseRuns c.toNat).isValidChar := by
  unfold applyRuns
  cases found : lowercaseRuns.findSome? (·.image? c.toNat) with
  | none => exact c.valid
  | some image =>
    obtain ⟨run, member, moved⟩ := List.exists_of_findSome?_eq_some found
    exact (bounds_of_image? run member _ image moved).2.2

/-! ## One character -/

theorem exists_lowercase_eq {c : Char} (other : c ≠ 'İ') :
    ∃ lower, lowercase c = [lower] ∧ lower.toNat = applyRuns lowercaseRuns c.toNat :=
  ⟨_, if_neg other, Text.toNat_ofNat_of_valid (isValidChar_applyRuns c)⟩

theorem lowercase_ne_nil (c : Char) : lowercase c ≠ [] := by
  unfold lowercase
  split
  · exact List.cons_ne_nil _ _
  · exact List.cons_ne_nil _ _

section Sign
variable {sign : Char} (low : sign.toNat < 'A'.toNat)
include low

theorem mem_lowercase_iff {c : Char} : sign ∈ lowercase c ↔ c = sign := by
  by_cases dotted : c = 'İ'
  · subst dotted
    have expanded : lowercase 'İ' = ['i', '\u0307'] := if_pos rfl
    have above : 'A'.toNat ≤ 'i'.toNat ∧ 'A'.toNat ≤ '\u0307'.toNat ∧ 'A'.toNat ≤ 'İ'.toNat := by
      decide
    rw [expanded, List.mem_cons, List.mem_singleton]
    constructor
    · rintro (rfl | rfl)
      · exact absurd low (Nat.not_lt.2 above.1)
      · exact absurd low (Nat.not_lt.2 above.2.1)
    · rintro rfl
      exact absurd low (Nat.not_lt.2 above.2.2)
  · obtain ⟨lower, expanded, code⟩ := exists_lowercase_eq dotted
    rw [expanded, List.mem_singleton, ← Char.toNat_inj, code, eq_comm, applyRuns_eq_iff low,
      Char.toNat_inj]

theorem lowercase_of_low : lowercase sign = [sign] := by
  have plain : sign ≠ 'İ' := by
    rintro rfl
    exact absurd low (by decide)
  obtain ⟨lower, expanded, _⟩ := exists_lowercase_eq plain
  have member : sign ∈ lowercase sign := (mem_lowercase_iff low).2 rfl
  rw [expanded, List.mem_singleton] at member
  rw [expanded, member]

end Sign

/-! ## A text -/

theorem lowercaseAll_cons (c : Char) (rest : List Char) :
    lowercaseAll (c :: rest) = lowercase c ++ lowercaseAll rest := List.flatMap_cons

theorem lowercaseAll_append (front rest : List Char) :
    lowercaseAll (front ++ rest) = lowercaseAll front ++ lowercaseAll rest := List.flatMap_append

theorem lowercaseAll_eq_nil_iff {text : List Char} : lowercaseAll text = [] ↔ text = [] := by
  cases text with
  | nil => exact iff_of_true rfl rfl
  | cons c rest =>
    refine iff_of_false ?_ (List.cons_ne_nil c rest)
    rw [lowercaseAll_cons]
    exact List.append_ne_nil_of_left_ne_nil (lowercase_ne_nil c) _

section Sign
variable {sign : Char} (low : sign.toNat < 'A'.toNat) {text : List Char}
include low

theorem mem_lowercaseAll_iff : sign ∈ lowercaseAll text ↔ sign ∈ text := by
  unfold lowercaseAll
  simp only [List.mem_flatMap, mem_lowercase_iff low, exists_eq_right]

theorem lowercaseAll_low_cons : lowercaseAll (sign :: text) = sign :: lowercaseAll text := by
  rw [lowercaseAll_cons, lowercase_of_low low, List.singleton_append]

theorem lowercaseAll_eq_cons_iff {lower : List Char} :
    lowercaseAll text = sign :: lower ↔ ∃ rest, text = sign :: rest ∧ lowercaseAll rest = lower := by
  constructor
  · intro expanded
    cases text with
    | nil => cases expanded
    | cons c rest =>
      rw [lowercaseAll_cons] at expanded
      have here : sign ∈ lowercase c := by
        cases first : lowercase c with
        | nil => exact absurd first (lowercase_ne_nil c)
        | cons head others =>
          rw [first, List.cons_append, List.cons.injEq] at expanded
          rw [expanded.1]
          exact List.mem_cons_self
      obtain rfl := (mem_lowercase_iff low).1 here
      rw [lowercase_of_low low, List.singleton_append, List.cons.injEq] at expanded
      exact ⟨rest, rfl, expanded.2⟩
  · rintro ⟨rest, rfl, rfl⟩
    exact lowercaseAll_low_cons low

theorem head?_lowercaseAll_iff : (lowercaseAll text).head? = some sign ↔ text.head? = some sign := by
  rw [List.head?_eq_some_iff, List.head?_eq_some_iff]
  constructor
  · rintro ⟨lower, expanded⟩
    obtain ⟨rest, whole, _⟩ := (lowercaseAll_eq_cons_iff low).1 expanded
    exact ⟨rest, whole⟩
  · rintro ⟨rest, rfl⟩
    exact ⟨lowercaseAll rest, lowercaseAll_low_cons low⟩

theorem getLast?_lowercaseAll_iff :
    (lowercaseAll text).getLast? = some sign ↔ text.getLast? = some sign := by
  rcases List.eq_nil_or_concat text with rfl | ⟨front, c, rfl⟩
  · rfl
  · have last : (lowercaseAll (front ++ [c])).getLast? = (lowercase c).getLast? := by
      have single : lowercaseAll [c] = lowercase c := List.flatMap_singleton _ _
      rw [lowercaseAll_append, single, List.getLast?_append, Option.or_of_isSome]
      exact List.getLast?_isSome.2 (lowercase_ne_nil c)
    rw [List.concat_eq_append, List.getLast?_concat, last, Option.some.injEq]
    constructor
    · intro found
      exact (mem_lowercase_iff low).1 (List.mem_of_getLast? found)
    · rintro rfl
      rw [lowercase_of_low low, List.getLast?_singleton]

end Sign
end PackageDoc.Unicode
