import PackageDoc.Proofs.Regex.Attempt

/-! # Parts of a program

The instructions of a word and of a greedy repetition of one set, in front of others. -/
set_option autoImplicit false

namespace PackageDoc.Regex

theorem CharSet.contains_single (c d : Char) : (CharSet.single c).contains d = true ↔ d = c := by
  have equal : c.toNat = d.toNat ↔ d = c :=
    ⟨fun same => (Char.toNat_inj.1 same).symm, fun same => by rw [same]⟩
  have between : c.toNat ≤ d.toNat ∧ d.toNat ≤ c.toNat ↔ c.toNat = d.toNat := by omega
  simp [CharSet.contains, CharSet.single, Unicode.covers, Unicode.CodeRange.contains, ← equal,
    ← between]

namespace Program

/-- What trying a thread gives, whatever stands before the text. -/
def Gives (program : Program) (position : Nat) (text : List Char) (instr : Nat) (slots : Slots)
    (result : Option Slots) : Prop :=
  ∀ previous, program.Tries position previous text instr slots result

/-- The instruction behind those of a word. -/
def behind? (program : Program) : Nat → List Char → Option Nat
  | instr, [] => some instr
  | instr, c :: rest =>
    match program.code[instr]? with
    | some (.take set next) => if set = CharSet.single c then behind? program next rest else none
    | _ => none

/-- A greedy repetition of one set. -/
structure Star (program : Program) (set : CharSet) (instr exit body : Nat) : Prop where
  choice : program.code[instr]? = some (.fork body exit)
  round : program.code[body]? = some (.take set instr)

variable {program : Program} {slots : Slots} {result : Option Slots}

theorem gives_note {position : Nat} {text : List Char} {instr slot next : Nat}
    (note : program.code[instr]? = some (.note slot next))
    (gives : program.Gives position text next (slots.set slot (some position)) result) :
    program.Gives position text instr slots result := fun previous => .note note (gives previous)

theorem behind?_cons {instr exit : Nat} {c : Char} {rest : List Char}
    (spells : program.behind? instr (c :: rest) = some exit) :
    ∃ next, program.code[instr]? = some (.take (CharSet.single c) next) ∧
      program.behind? next rest = some exit := by
  unfold behind? at spells
  split at spells
  next set next code =>
    split at spells
    next same => exact ⟨next, same ▸ code, spells⟩
    next => cases spells
  next => cases spells

theorem gives_word {exit : Nat} {rest : List Char} : ∀ (word : List Char) (instr position : Nat),
    program.behind? instr word = some exit →
    program.Gives (position + word.length) rest exit slots result →
    program.Gives position (word ++ rest) instr slots result := by
  intro word
  induction word with
  | nil =>
    intro instr position spells gives
    cases spells
    exact gives
  | cons c word ih =>
    intro instr position spells gives previous
    obtain ⟨next, code, spells⟩ := behind?_cons spells
    have shifted : position + (c :: word).length = position + 1 + word.length := by
      rw [List.length_cons]
      omega
    rw [shifted] at gives
    exact .take code ((CharSet.contains_single c c).2 rfl) (ih next _ spells gives _)

theorem gives_other_word {exit : Nat} : ∀ (word : List Char) (instr position : Nat)
    (text : List Char), program.behind? instr word = some exit → ¬ word <+: text →
    program.Gives position text instr slots none := by
  intro word
  induction word with
  | nil => intro instr position text _ other; exact absurd List.nil_prefix other
  | cons c word ih =>
    intro instr position text spells other previous
    obtain ⟨next, code, further⟩ := behind?_cons spells
    cases text with
    | nil => exact .stop code
    | cons d text =>
      cases held : (CharSet.single c).contains d with
      | false => exact .refuse code held
      | true =>
        obtain rfl := (CharSet.contains_single c d).1 held
        have shorter : ¬ word <+: text := fun front => other (List.cons_prefix_cons.2 ⟨rfl, front⟩)
        exact .take code held (ih next _ text further shorter _)

/-- A greedy repetition takes all it can.  It has to be known that taking less does not help where
taking all fails. -/
theorem gives_star {set : CharSet} {instr exit body : Nat} {rest : List Char}
    (star : program.Star set instr exit body) (ends : ∀ c ∈ rest.head?, set.contains c = false)
    (early : result = none → ∀ (position : Nat) (more : List Char), more ≠ [] →
      (∀ c ∈ more, set.contains c = true) → program.Gives position (more ++ rest) exit slots none) :
    ∀ (taken : List Char) (position : Nat), (∀ c ∈ taken, set.contains c = true) →
    program.Gives (position + taken.length) rest exit slots result →
    program.Gives position (taken ++ rest) instr slots result := by
  intro taken
  induction taken with
  | nil =>
    intro position _ gives previous
    have leaves : program.Tries position previous rest body slots none := by
      cases rest with
      | nil => exact .stop star.round
      | cons c rest => exact .refuse star.round (ends c rfl)
    exact .other star.choice leaves (gives previous)
  | cons c taken ih =>
    intro position inside gives previous
    have shifted : position + (c :: taken).length = position + 1 + taken.length := by
      rw [List.length_cons]
      omega
    rw [shifted] at gives
    have further := ih (position + 1) (fun d member => inside d (List.mem_cons_of_mem _ member)) gives
    have round : program.Tries position previous (c :: taken ++ rest) body slots result :=
      .take star.round (inside c List.mem_cons_self) (further _)
    cases result with
    | some found => exact .preferred star.choice round
    | none =>
      exact .other star.choice round
        (early rfl position (c :: taken) (List.cons_ne_nil _ _) inside previous)

end Program
end PackageDoc.Regex
