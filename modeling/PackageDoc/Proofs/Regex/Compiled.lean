import PackageDoc.Proofs.Regex.Segment

/-! # Compiled blocks

An expression is compiled from its end.  Instructions that stand are never changed, so what a block
holds is read off the program that it became. -/
set_option autoImplicit false

namespace PackageDoc.Regex

variable {program : Program} {block : Block}

/-! ## Instructions that stand -/

/-- A program has the instructions of some code at the same places. -/
def Program.Begins (program : Program) (code : Array Instr) : Prop :=
  ∀ (place : Nat) (instr : Instr), code[place]? = some instr → program.code[place]? = some instr

theorem Program.Begins.push {code : Array Instr} {instr : Instr}
    (begins : program.Begins (code.push instr)) :
    program.Begins code ∧ program.code[code.size]? = some instr := by
  constructor
  · intro place other found
    apply begins
    obtain ⟨inside, _⟩ := Array.getElem?_eq_some_iff.1 found
    rw [Array.getElem?_push_lt inside, ← Array.getElem?_eq_getElem inside]
    exact found
  · exact begins _ _ Array.getElem?_push_size

namespace Block

theorem begins_before {instr : Nat → Instr} (begins : program.Begins (block.before instr).code) :
    program.Begins block.code ∧
      program.code[(block.before instr).entry]? = some (instr block.entry) :=
  begins.push

/-- A word in front of a block. -/
def word (block : Block) (chars : List Char) : Block :=
  chars.foldr (fun c block => block.before (.take (CharSet.single c))) block

theorem begins_word : ∀ (chars : List Char), program.Begins (block.word chars).code →
    program.Begins block.code ∧
      program.behind? (block.word chars).entry chars = some block.entry := by
  intro chars
  induction chars with
  | nil => intro begins; exact ⟨begins, rfl⟩
  | cons c chars ih =>
    intro begins
    obtain ⟨shorter, code⟩ := begins_before begins
    obtain ⟨behind, reads⟩ := ih shorter
    have first : program.code[(block.word (c :: chars)).entry]? =
        some (.take (CharSet.single c) (block.word chars).entry) := code
    refine ⟨behind, ?_⟩
    rw [Program.behind?, first]
    simpa using reads

/-- A lazy repetition of one set in front of a block. -/
def lazily (block : Block) (set : CharSet) : Block :=
  ⟨(block.code.push (.fork block.entry (block.code.size + 1))).push (.take set block.code.size),
    block.code.size⟩

theorem begins_lazily {set : CharSet} (begins : program.Begins (block.lazily set).code) :
    program.Begins block.code ∧
      program.code[(block.lazily set).entry]? = some (.fork block.entry (block.code.size + 1)) ∧
      program.code[block.code.size + 1]? = some (.take set (block.lazily set).entry) := by
  obtain ⟨shorter, round⟩ := begins.push
  obtain ⟨behind, fork⟩ := shorter.push
  rw [Array.size_push] at round
  exact ⟨behind, fork, round⟩

theorem compile_lazily {set : CharSet} (some : (CharSet.canonical set).isEmpty = false) :
    (Expr.loop (.oneOf set) 0 none false).compile block = block.lazily set := by
  have nullable : ((Expr.oneOf set).minLength.all (· = 0)) = false := by
    simp [Expr.minLength, some]
  have filled : ((block.code.push .accept).push (.take set block.code.size)).setIfInBounds
      block.code.size (.fork block.entry (block.code.size + 1)) =
      (block.code.push (.fork block.entry (block.code.size + 1))).push
        (.take set block.code.size) := by
    apply Array.toList_inj.1
    simp
  simp [Expr.compile, loop, nullable, repeated, before, choice, lazily, filled]

end Block

/-! ## Steps to earlier instructions -/

/-- Instructions lead to earlier ones, or to one that takes a character. -/
def Descending (code : Array Instr) : Prop :=
  ∀ place, ∀ next ∈ (⟨code, 0, 0⟩ : Program).passes place,
    next < place ∨ ∃ set behind, code[next]? = some (.take set behind)

theorem Descending.descends (descending : Descending program.code) : program.Descends := by
  intro place _ next member
  have passes : program.passes place ≠ [] := List.ne_nil_of_mem member
  have rank : program.rank place = place + 1 := if_neg passes
  rw [rank]
  cases descending place next member with
  | inl earlier =>
    have bound : program.rank next ≤ next + 1 := by
      unfold Program.rank
      split
      · exact Nat.zero_le _
      · exact Nat.le_refl _
    omega
  | inr waits =>
    obtain ⟨set, behind, code⟩ := waits
    have none : program.passes next = [] := by
      simp only [Program.passes, code]
    have zero : program.rank next = 0 := if_pos none
    omega

/-- Added instructions do not change where those that stand lead to. -/
theorem Descending.extend {code longer : Array Instr} (descending : Descending code)
    (begins : (⟨longer, 0, 0⟩ : Program).Begins code)
    (added : ∀ place, code.size ≤ place → ∀ next ∈ (⟨longer, 0, 0⟩ : Program).passes place,
      next < place ∨ ∃ set behind, longer[next]? = some (.take set behind)) :
    Descending longer := by
  intro place next member
  rcases Nat.lt_or_ge place code.size with inside | outside
  · have stands : longer[place]? = code[place]? := by
      rw [Array.getElem?_eq_getElem inside]
      exact begins _ _ (Array.getElem?_eq_getElem inside)
    have before : next ∈ (⟨code, 0, 0⟩ : Program).passes place := by
      simpa only [Program.passes, stands] using member
    cases descending place next before with
    | inl earlier => exact .inl earlier
    | inr waits =>
      obtain ⟨set, behind, taken⟩ := waits
      exact .inr ⟨set, behind, begins _ _ taken⟩
  · exact added place outside next member

theorem begins_push (code : Array Instr) (instr : Instr) :
    (⟨code.push instr, 0, 0⟩ : Program).Begins code := by
  have self : (⟨code.push instr, 0, 0⟩ : Program).Begins (code.push instr) := fun _ _ found => found
  exact self.push.1

namespace Block

/-- A block that leads to earlier instructions only, from its entry on. -/
structure Descends (block : Block) : Prop where
  entered : block.entry < block.code.size
  descending : Descending block.code

theorem Descends.before (descends : block.Descends) {instr : Nat → Instr}
    (leads : ∀ next ∈ (⟨(block.before instr).code, 0, 0⟩ : Program).passes block.code.size,
      next = block.entry) : (block.before instr).Descends := by
  constructor
  · show block.code.size < (block.code.push _).size
    rw [Array.size_push]
    exact Nat.lt_succ_self _
  · apply descends.descending.extend (begins_push _ _)
    intro place behind next member
    by_cases last : place = block.code.size
    · subst last
      rw [leads next member]
      exact .inl descends.entered
    · have none : (block.code.push (instr block.entry))[place]? = none := by
        apply Array.getElem?_eq_none
        rw [Array.size_push]
        omega
      simp only [Program.passes, none] at member
      cases member

theorem Descends.note (descends : block.Descends) (slot : Nat) :
    (block.before (.note slot)).Descends := by
  apply descends.before
  intro next member
  simpa [Program.passes, Block.before] using member

theorem Descends.word (descends : block.Descends) : ∀ (chars : List Char),
    (block.word chars).Descends := by
  intro chars
  induction chars with
  | nil => exact descends
  | cons c chars ih =>
    apply ih.before
    intro next member
    simp [Program.passes, Block.before] at member

theorem Descends.lazily (descends : block.Descends) (set : CharSet) : (block.lazily set).Descends := by
  have size : (block.lazily set).code.size = block.code.size + 2 := by
    simp [Block.lazily]
  constructor
  · rw [size]
    exact Nat.lt_add_of_pos_right (by decide)
  · have self : (⟨(block.lazily set).code, 0, 0⟩ : Program).Begins (block.lazily set).code :=
      fun _ _ found => found
    obtain ⟨begins, fork, round⟩ := begins_lazily self
    apply descends.descending.extend begins
    intro place behind next member
    by_cases first : place = block.code.size
    · subst first
      have passes : next = block.entry ∨ next = block.code.size + 1 := by
        have code : (block.lazily set).code[block.code.size]? = _ := fork
        simpa [Program.passes, code] using member
      cases passes with
      | inl exit => exact .inl (exit ▸ descends.entered)
      | inr body => exact .inr ⟨set, _, body ▸ round⟩
    · exfalso
      by_cases second : place = block.code.size + 1
      · subst second
        have code : (block.lazily set).code[block.code.size + 1]? = _ := round
        simp only [Program.passes, code] at member
        cases member
      · have none : (block.lazily set).code[place]? = none := by
          apply Array.getElem?_eq_none
          omega
        simp only [Program.passes, none] at member
        cases member

end Block
end PackageDoc.Regex
