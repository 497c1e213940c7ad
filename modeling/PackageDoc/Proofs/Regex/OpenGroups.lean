import Mathlib.Data.List.Forall2
import PackageDoc.Proofs.Regex.Nesting
import PackageDoc.Regex.Program

/-! # Open groups of a program

An instruction of a compiled expression is reached with the same groups open whatever way a thread took
to it: a note opens or closes one group, and both ways of a choice expect the same ones.  So the groups
that are open before each instruction are written beside the code while it grows. -/
set_option autoImplicit false

namespace PackageDoc.Regex

/-- An instruction that is reached with some groups open leads to places that expect what it leaves
open.  `openAt` has the open groups of each place, the innermost first. -/
def Instr.Leads (openAt : List (List Nat)) (opened : List Nat) : Instr → Prop
  | .accept => opened = []
  | .take _ next => openAt[next]? = some opened
  | .look _ next => openAt[next]? = some opened
  | .fork preferred other => openAt[preferred]? = some opened ∧ openAt[other]? = some opened
  | .note slot next => ∃ group,
    (slot = 2 * group ∧ openAt[next]? = some (group :: opened)) ∨
      (slot = 2 * group + 1 ∧ ∃ rest, opened = group :: rest ∧ openAt[next]? = some rest)

/-- Instructions are added to some code, and their open groups to those of its places. -/
def Grown (allowed : List Nat → Prop) (code : Array Instr) (openAt : List (List Nat))
    (longer : Array Instr) (openAt' : List (List Nat)) : Prop :=
  ∃ added more, longer.toList = code.toList ++ added ∧ openAt' = openAt ++ more ∧
    List.Forall₂ (fun instr opened => allowed opened ∧ instr.Leads openAt' opened) added more

/-- A block where some groups are open at the entry. -/
structure Block.Sits (block : Block) (openAt : List (List Nat)) (opened : List Nat) : Prop where
  filled : block.code.size = openAt.length
  entered : openAt[block.entry]? = some opened

variable {allowed : List Nat → Prop} {code longer longest : Array Instr}
  {openAt openAt' openAt'' : List (List Nat)} {opened before middle behind : List Nat}

/-! ## Code that grows -/

theorem stays {place : Nat} (expected : openAt[place]? = some opened) (more : List (List Nat)) :
    (openAt ++ more)[place]? = some opened := by
  obtain ⟨inside, _⟩ := List.getElem?_eq_some_iff.1 expected
  rw [List.getElem?_append_left inside]
  exact expected

theorem Instr.Leads.extend {instr : Instr} (leads : instr.Leads openAt opened)
    (more : List (List Nat)) : instr.Leads (openAt ++ more) opened := by
  cases instr with
  | accept => exact leads
  | take set next => exact stays leads more
  | look condition next => exact stays leads more
  | fork preferred other => exact ⟨stays leads.1 more, stays leads.2 more⟩
  | note slot next =>
    obtain ⟨group, ⟨same, expected⟩ | ⟨same, rest, around, expected⟩⟩ := leads
    · exact ⟨group, .inl ⟨same, stays expected more⟩⟩
    · exact ⟨group, .inr ⟨same, rest, around, stays expected more⟩⟩

namespace Grown

theorem refl : Grown allowed code openAt code openAt :=
  ⟨[], [], (List.append_nil _).symm, (List.append_nil _).symm, .nil⟩

theorem trans (first : Grown allowed code openAt longer openAt')
    (second : Grown allowed longer openAt' longest openAt'') :
    Grown allowed code openAt longest openAt'' := by
  obtain ⟨added, more, front, rfl, leads⟩ := first
  obtain ⟨added', more', rear, rfl, leads'⟩ := second
  refine ⟨added ++ added', more ++ more', ?_, List.append_assoc _ _ _, ?_⟩
  · rw [rear, front, List.append_assoc]
  · exact List.rel_append (leads.imp fun _ _ held => ⟨held.1, held.2.extend more'⟩) leads'

theorem push {instr : Instr} (allows : allowed opened) (leads : instr.Leads openAt opened) :
    Grown allowed code openAt (code.push instr) (openAt ++ [opened]) :=
  ⟨[instr], [opened], Array.toList_push, rfl, .cons ⟨allows, leads.extend [opened]⟩ .nil⟩

theorem expects (grown : Grown allowed code openAt longer openAt') {place : Nat}
    (expected : openAt[place]? = some opened) : openAt'[place]? = some opened := by
  obtain ⟨_, more, _, rfl, _⟩ := grown
  exact stays expected more

theorem filled (grown : Grown allowed code openAt longer openAt') (filled : code.size = openAt.length) :
    longer.size = openAt'.length := by
  obtain ⟨added, more, same, rfl, leads⟩ := grown
  rw [← Array.length_toList, same, List.length_append, List.length_append, Array.length_toList, filled,
    leads.length_eq]

end Grown

/-! ## Parts of a block -/

namespace Block
variable {block : Block}

/-- Code that is put in front of a block: with `before` open it leads to the block with `behind` open. -/
def Passes (allowed : List Nat → Prop) (before behind : List Nat) (body : Block → Block) : Prop :=
  ∀ (block : Block) (openAt : List (List Nat)), block.Sits openAt behind →
    ∃ openAt', Grown allowed block.code openAt (body block).code openAt' ∧
      (body block).Sits openAt' before

theorem Sits.push (sits : block.Sits openAt behind) {instr : Instr} (allows : allowed before)
    (leads : instr.Leads openAt before) :
    Grown allowed block.code openAt (block.code.push instr) (openAt ++ [before]) ∧
      Sits ⟨block.code.push instr, block.code.size⟩ (openAt ++ [before]) before := by
  have grown : Grown allowed block.code openAt (block.code.push instr) (openAt ++ [before]) :=
    .push allows leads
  refine ⟨grown, grown.filled sits.filled, ?_⟩
  rw [sits.filled]
  exact List.getElem?_concat_length

/-- One instruction. -/
theorem passes_before {instr : Nat → Instr} (allows : allowed before)
    (leads : ∀ (openAt : List (List Nat)) (entry : Nat), openAt[entry]? = some behind →
      (instr entry).Leads openAt before) :
    Passes allowed before behind fun block => block.before instr := by
  intro block openAt sits
  exact ⟨_, sits.push allows (leads openAt block.entry sits.entered)⟩

theorem passes_id : Passes allowed opened opened fun block => block := by
  intro block openAt sits
  exact ⟨openAt, .refl, sits⟩

theorem Passes.comp {front rear : Block → Block} (first : Passes allowed before middle front)
    (second : Passes allowed middle behind rear) :
    Passes allowed before behind fun block => front (rear block) := by
  intro block openAt sits
  obtain ⟨openAt', grown, sits⟩ := second block openAt sits
  obtain ⟨openAt'', grown', sits⟩ := first (rear block) openAt' sits
  exact ⟨openAt'', grown.trans grown', sits⟩

theorem choice_leads {greedy : Bool} {entry exit : Nat} (first : openAt[entry]? = some opened)
    (second : openAt[exit]? = some opened) : (choice greedy entry exit).Leads openAt opened := by
  cases greedy with
  | false => exact ⟨second, first⟩
  | true => exact ⟨first, second⟩

section Rounds
variable {body : Block → Block} (allows : allowed opened) (passes : Passes allowed opened opened body)
  (greedy : Bool)
include passes

theorem copies_passes : ∀ count, Passes allowed opened opened (copies body count) := by
  intro count
  induction count with
  | zero => exact passes_id
  | succ count ih => exact passes.comp ih

include allows

theorem optionals_passes (count : Nat) : Passes allowed opened opened fun block =>
    optionals body greedy block.entry count block := by
  intro block openAt sits
  induction count with
  | zero => exact ⟨openAt, .refl, sits⟩
  | succ count ih =>
    obtain ⟨inner, grown, inside⟩ := ih
    obtain ⟨outer, grown', around⟩ := passes _ _ inside
    have exit := grown'.expects (grown.expects sits.entered)
    obtain ⟨last, chosen⟩ := around.push allows (choice_leads around.entered exit)
    exact ⟨_, (grown.trans grown').trans last, chosen⟩

/-- The choice is put where a place was reserved for it, below the body that leads there. -/
theorem repeated_grows (sits : block.Sits openAt opened) :
    ∃ openAt', Grown allowed block.code openAt (block.repeated body greedy).code openAt' ∧
      (block.repeated body greedy).Sits openAt' opened ∧
      openAt'[block.code.size]? = some opened := by
  have reserved : Sits ⟨block.code.push .accept, block.code.size⟩ (openAt ++ [opened]) opened := by
    refine ⟨?_, ?_⟩
    · rw [Array.size_push, List.length_append, sits.filled]
      rfl
    · rw [sits.filled]
      exact List.getElem?_concat_length
  obtain ⟨openAt', grown, inside⟩ := passes _ _ reserved
  have round := grown.expects reserved.entered
  have exit := grown.expects (stays sits.entered [opened])
  obtain ⟨added, more, same, rfl, leads⟩ := grown
  have chosen : (choice greedy (body ⟨block.code.push .accept, block.code.size⟩).entry
      block.entry).Leads (openAt ++ [opened] ++ more) opened := choice_leads inside.entered exit
  refine ⟨openAt ++ [opened] ++ more, ⟨_ :: added, opened :: more, ?_, ?_, .cons ⟨allows, chosen⟩ leads⟩,
    ⟨?_, inside.entered⟩, round⟩
  · rw [Array.toList_push] at same
    rw [repeated, Array.toList_setIfInBounds, same]
    simp
  · rw [List.append_assoc]
    rfl
  · rw [repeated, Array.size_setIfInBounds]
    exact inside.filled

theorem loop_passes (nullable : Bool) (least : Nat) (most : Option Nat) :
    Passes allowed opened opened fun block => block.loop body nullable least most greedy := by
  have again : Passes allowed opened opened fun block => block.repeated body greedy := by
    intro block openAt sits
    obtain ⟨openAt', grown, inside, _⟩ := repeated_grows allows passes greedy sits
    exact ⟨openAt', grown, inside⟩
  cases most with
  | some most =>
    exact (copies_passes passes least).comp (optionals_passes allows passes greedy (most - least))
  | none =>
    cases least with
    | succ least => exact (copies_passes passes least).comp again
    | zero =>
      intro block openAt sits
      obtain ⟨openAt', grown, inside, round⟩ := repeated_grows allows passes greedy sits
      cases nullable with
      | false => exact ⟨openAt', grown, inside.filled, round⟩
      | true =>
        have exit := grown.expects sits.entered
        obtain ⟨last, chosen⟩ := inside.push allows (choice_leads inside.entered exit)
        exact ⟨_, grown.trans last, chosen⟩

end Rounds

theorem word_passes (allows : allowed opened) (chars : List Char) :
    Passes allowed opened opened fun block =>
      chars.foldr (fun c block => block.before (.take (CharSet.single c))) block := by
  induction chars with
  | nil => exact passes_id
  | cons c chars ih =>
    have first : Passes allowed opened opened fun block => block.before (.take (CharSet.single c)) :=
      passes_before allows fun _ _ expected => expected
    exact first.comp ih

end Block

/-! ## Expressions -/

open Block

mutual

theorem Expr.compile_passes : ∀ (expr : Expr) (opened : List Nat), allowed opened →
    expr.Nests allowed opened → Passes allowed opened opened expr.compile := by
  intro expr opened allows nests
  cases expr with
  | empty => exact passes_id
  | literal chars => exact word_passes allows chars
  | oneOf set => exact passes_before allows fun _ _ expected => expected
  | look condition => exact passes_before allows fun _ _ expected => expected
  | loop body least most greedy =>
    exact loop_passes allows (body.compile_passes opened allows nests) greedy _ least most
  | capture index body =>
    have opens : Passes allowed opened (index :: opened) fun block =>
        block.before (.note (2 * index)) :=
      passes_before allows fun _ _ expected => ⟨index, .inl ⟨rfl, expected⟩⟩
    have closes : Passes allowed (index :: opened) opened fun block =>
        block.before (.note (2 * index + 1)) :=
      passes_before nests.1 fun _ _ expected => ⟨index, .inr ⟨rfl, opened, rfl, expected⟩⟩
    exact opens.comp ((body.compile_passes (index :: opened) nests.1 nests.2).comp closes)
  | concat items => exact Expr.compileAll_passes items opened allows nests
  | alternation branches =>
    intro block openAt sits
    exact Expr.compileAny_grows branches opened allows nests sits sits.entered

theorem Expr.compileAll_passes : ∀ (items : List Expr) (opened : List Nat), allowed opened →
    Expr.NestsAll allowed opened items →
    Passes allowed opened opened (Expr.compileAll items) := by
  intro items opened allows nests
  cases items with
  | nil => exact passes_id
  | cons item rest =>
    exact (item.compile_passes opened allows nests.1).comp
      (Expr.compileAll_passes rest opened allows nests.2)

theorem Expr.compileAny_grows : ∀ (branches : List Expr) (opened : List Nat), allowed opened →
    Expr.NestsAll allowed opened branches → ∀ {block : Block} {openAt : List (List Nat)} {exit : Nat},
    block.Sits openAt opened → openAt[exit]? = some opened →
    ∃ openAt', Grown allowed block.code openAt (Expr.compileAny branches block exit).code openAt' ∧
      (Expr.compileAny branches block exit).Sits openAt' opened := by
  intro branches opened allows nests block openAt exit sits expected
  cases branches with
  | nil => exact ⟨_, sits.push allows sits.entered⟩
  | cons branch rest =>
    cases rest with
    | nil =>
      exact branch.compile_passes opened allows nests.1 { block with entry := exit } openAt
        ⟨sits.filled, expected⟩
    | cons other rest =>
      obtain ⟨openAt', grown, others⟩ :=
        Expr.compileAny_grows (other :: rest) opened allows nests.2 sits expected
      obtain ⟨openAt'', grown', first⟩ := branch.compile_passes opened allows nests.1
        { Expr.compileAny (other :: rest) block exit with entry := exit } openAt'
        ⟨others.filled, grown.expects expected⟩
      have leads : Instr.Leads openAt'' opened (.fork _ _) :=
        ⟨first.entered, grown'.expects others.entered⟩
      obtain ⟨last, chosen⟩ := first.push allows leads
      exact ⟨_, (grown.trans grown').trans last, chosen⟩

end

/-! ## Programs -/

/-- The groups that are open at each place of a program. -/
structure Program.Labelled (allowed : List Nat → Prop) (openAt : List (List Nat))
    (program : Program) : Prop where
  started : openAt[program.start]? = some []
  allows {place : Nat} {opened : List Nat} : openAt[place]? = some opened → allowed opened
  leads {place : Nat} {instr : Instr} {opened : List Nat} : program.code[place]? = some instr →
    openAt[place]? = some opened → instr.Leads openAt opened

theorem Expr.program_labelled {expr : Expr} (none : allowed []) (whole : allowed [0])
    (nests : expr.Nests allowed [0]) : ∃ openAt, expr.program.Labelled allowed openAt := by
  have accepts : Sits ⟨#[.accept], 0⟩ [[]] [] := ⟨rfl, rfl⟩
  obtain ⟨openAt, ⟨added, more, same, rfl, leads⟩, sits⟩ :=
    (Expr.capture 0 expr).compile_passes [] none ⟨whole, nests⟩ _ _ accepts
  have all : List.Forall₂ (fun instr opened => allowed opened ∧ instr.Leads ([[]] ++ more) opened)
      expr.program.code.toList ([[]] ++ more) := by
    unfold Expr.program
    rw [same]
    exact .cons ⟨none, rfl⟩ leads
  have length := all.length_eq
  refine ⟨[[]] ++ more, sits.entered, ?_, ?_⟩
  · intro place opened found
    obtain ⟨inside, rfl⟩ := List.getElem?_eq_some_iff.1 found
    exact (all.get (length ▸ inside) inside).1
  · intro place instr opened code found
    rw [← Array.getElem?_toList] at code
    obtain ⟨inside, rfl⟩ := List.getElem?_eq_some_iff.1 code
    obtain ⟨inside', rfl⟩ := List.getElem?_eq_some_iff.1 found
    exact (all.get inside inside').2

end PackageDoc.Regex
