import PackageDoc.Proofs.Marker.Delimited
import PackageDoc.Proofs.Regex.Compiled

/-! # A pattern written with two texts

The pattern `(?s)(opening)(.*?)(closing)`, read, given its meaning and compiled, is the program of its two
texts, if no sign of the pattern language stands in them. -/
set_option autoImplicit false

namespace PackageDoc.Regex

/-! ## Reading -/

/-- The characters that mean something else than themselves outside a class. -/
def signs : List Char := ['(', ')', '|', '[', '?', '*', '+', '{', '\\', '.', '^', '$']

def IsPlain (text : List Char) : Prop := ∀ c ∈ text, c ∉ signs

def literalOf (c : Char) : Tree := .literal ⟨c, false⟩

namespace Reader
variable {reader next : Reader} {rest : List Char}

theorem skip_plain : skip false false rest = rest := by
  cases rest with
  | nil => rfl
  | cons c rest => rfl

theorem run_step {c : Char} (quiet : reader.verbose = false) (unread : reader.rest = c :: rest)
    (step : reader.step (c :: rest) = .ok next) (fuel : Nat) :
    run (fuel + 1) reader = run fuel next := by
  rw [run, quiet, unread, skip_plain]
  simp only [step]
  rfl

theorem step_plain {c : Char} (plain : c ∉ signs) :
    reader.step (c :: rest) = .ok (reader.push (literalOf c) rest) := by
  unfold step
  split <;> simp_all [signs, literalOf]

theorem run_plain : ∀ (text : List Char) (reader : Reader), reader.verbose = false →
    reader.rest = text ++ rest → IsPlain text → ∀ fuel, run (text.length + fuel) reader =
      run fuel { reader with rest := rest, items := (text.map literalOf).reverse ++ reader.items } := by
  intro text
  induction text with
  | nil =>
    intro reader quiet unread _ fuel
    rw [List.nil_append] at unread
    subst unread
    simp
  | cons c text ih =>
    intro reader quiet unread plain fuel
    have length : (c :: text).length + fuel = text.length + fuel + 1 := by
      rw [List.length_cons]
      omega
    have step : reader.step (c :: (text ++ rest)) =
        .ok (reader.push (literalOf c) (text ++ rest)) := step_plain (plain c List.mem_cons_self)
    rw [length, run_step quiet unread step,
      ih (reader.push (literalOf c) (text ++ rest)) quiet rfl fun d member =>
        plain d (List.mem_cons_of_mem c member)]
    simp [push]

theorem readGroup_plain {text : List Char} (quiet : reader.verbose = false) (plain : IsPlain text) :
    reader.readGroup (text ++ ')' :: rest) = .ok (reader.openCapture (text ++ ')' :: rest)) := by
  unfold readGroup
  rw [quiet, skip_plain]
  cases text with
  | nil => rfl
  | cons c text =>
    have other : c ∉ signs := plain c List.mem_cons_self
    split <;> simp_all [signs]

/-- A text between parentheses. -/
def textTree (text : List Char) : Tree := branchOf (text.map literalOf).reverse

/-- The reader behind a group that it numbers. -/
def withGroup (reader : Reader) (body : Tree) (rest : List Char) : Reader :=
  { reader with
    rest := rest, captures := reader.captures + 1
    items := .group (.capture (reader.captures + 1)) body :: reader.items }

theorem run_textGroup {text : List Char} (quiet : reader.verbose = false)
    (unread : reader.rest = '(' :: (text ++ ')' :: rest)) (plain : IsPlain text) (fuel : Nat) :
    run (text.length + fuel + 2) reader = run fuel (reader.withGroup (textTree text) rest) := by
  have enter : reader.step ('(' :: (text ++ ')' :: rest)) =
      .ok (reader.openCapture (text ++ ')' :: rest)) := readGroup_plain quiet plain
  have length : text.length + fuel + 2 = text.length + (fuel + 1) + 1 := by omega
  rw [length, run_step quiet unread enter]
  cases reader
  cases quiet
  rw [run_plain text _ rfl rfl plain, run_step rfl rfl rfl, openCapture, openGroup]
  dsimp only
  rw [List.append_nil]
  rfl

theorem run_anyGroup (quiet : reader.verbose = false)
    (unread : reader.rest = '(' :: '.' :: '*' :: '?' :: ')' :: rest) (fuel : Nat) :
    run (fuel + 4) reader = run fuel (reader.withGroup (.loop .dot 0 none false) rest) := by
  have enter : reader.step ('(' :: '.' :: '*' :: '?' :: ')' :: rest) =
      .ok (reader.openCapture ('.' :: '*' :: '?' :: ')' :: rest)) := by
    show reader.readGroup _ = _
    unfold readGroup
    rw [quiet]
    rfl
  rw [run_step quiet unread enter]
  cases reader
  cases quiet
  rw [run_step rfl rfl rfl, run_step rfl rfl rfl, run_step rfl rfl rfl]
  rfl

end Reader

/-- A pattern of three groups: a text, the fewest characters possible, and another text. -/
def written (opening closing : List Char) : List Char :=
  '(' :: '?' :: 's' :: ')' :: '(' :: (opening ++ ')' :: '(' :: '.' :: '*' :: '?' :: ')' :: '(' ::
    (closing ++ [')']))

def writtenItems (opening closing : List Char) : List Tree :=
  [.flags [(.dotAll, true)], .group (.capture 1) (Reader.textTree opening),
    .group (.capture 2) (.loop .dot 0 none false), .group (.capture 3) (Reader.textTree closing)]

namespace Reader
variable {opening closing : List Char}

theorem run_written (first : IsPlain opening) (last : IsPlain closing) :
    run ((written opening closing).length + 1) { rest := written opening closing } =
      .ok { rest := [], captures := 3, items := (writtenItems opening closing).reverse } := by
  have length : (written opening closing).length + 1 =
      opening.length + ((closing.length + 5 + 2) + 4) + 2 + 1 := by
    simp only [written, List.length_cons, List.length_append, List.length_nil]
    omega
  rw [length, run_step rfl rfl rfl, run_textGroup rfl rfl first, run_anyGroup rfl rfl,
    run_textGroup rfl rfl last]
  rfl

end Reader
/-! ## Meaning -/

def wordExpr : List Char → Expr
  | [] => .empty
  | c :: text => .literal (c :: text)

def writtenExpr (opening closing : List Char) : Expr :=
  .concat [.capture 1 (wordExpr opening), .capture 2 (.loop (.oneOf anyRanges) 0 none false),
    .capture 3 (wordExpr closing)]

section Meaning
variable {flags : Flags} {opening closing : List Char}

theorem meaning_literal (exact : flags.ignoreCase = false) (wide : flags.unicode = true) (c : Char) :
    (literalOf c).meaning flags = .ok (.literal [c], flags) := by
  simp [literalOf, Tree.meaning, Flags.literal, Flags.char, exact, wide, bind, Except.bind, pure,
    Except.pure]

theorem meaning_literals (exact : flags.ignoreCase = false) (wide : flags.unicode = true) :
    ∀ (text : List Char), Tree.meaningOfAll flags (text.map literalOf) =
      .ok (text.map fun c => .literal [c], flags) := by
  intro text
  induction text with
  | nil => rfl
  | cons c text ih =>
    simp [Tree.meaningOfAll, meaning_literal exact wide, ih, bind, Except.bind, pure, Except.pure]

theorem flatItems_literals : ∀ (c : Char) (text : List Char),
    Expr.flatItems ((c :: text).map fun c => .literal [c]) = [.literal (c :: text)] := by
  intro c text
  induction text generalizing c with
  | nil => rfl
  | cons d text ih =>
    rw [List.map_cons, Expr.flatItems, ih d]
    rfl
    all_goals simp

theorem branchOf_reverse (first second : Tree) (items : List Tree) :
    Reader.branchOf (first :: second :: items).reverse = .concat (first :: second :: items) := by
  cases reversed : (first :: second :: items).reverse with
  | nil => simp at reversed
  | cons last others =>
    cases others with
    | nil =>
      have length := congrArg List.length reversed
      simp at length
    | cons other others =>
      have branch : Reader.branchOf (last :: other :: others) =
          .concat (last :: other :: others).reverse := rfl
      rw [branch, ← reversed, List.reverse_reverse]

theorem meaning_textTree (exact : flags.ignoreCase = false) (wide : flags.unicode = true)
    (text : List Char) : (Reader.textTree text).meaning flags = .ok (wordExpr text, flags) := by
  match text with
  | [] => rfl
  | [c] => exact meaning_literal exact wide c
  | c :: d :: text =>
    have tree : Reader.textTree (c :: d :: text) = .concat ((c :: d :: text).map literalOf) :=
      branchOf_reverse _ _ _
    have items := meaning_literals exact wide (c :: d :: text)
    rw [tree, Tree.meaning, items]
    simp only [bind, Except.bind, pure, Except.pure, Expr.ofItems, flatItems_literals, wordExpr]

theorem meaning_written (opening closing : List Char) :
    ∃ behind, (Tree.concat (writtenItems opening closing)).meaning { multiLine := true } =
      .ok (writtenExpr opening closing, behind) := by
  let flags : Flags := { multiLine := true, dotAll := true }
  have words : ∀ text, (Reader.textTree text).meaning flags = .ok (wordExpr text, flags) :=
    meaning_textTree rfl rfl
  have dot : flags.dot = .ok (.oneOf anyRanges) := rfl
  have dotAll : Flags.apply { multiLine := true } [(.dotAll, true)] = flags := rfl
  refine ⟨flags, ?_⟩
  simp only [writtenItems, Tree.meaning, Tree.meaningOfAll, dotAll, dot, words, bind, Except.bind,
    pure, Except.pure]
  rfl

end Meaning

/-! ## The program -/

theorem compile_wordExpr (text : List Char) (block : Block) :
    (wordExpr text).compile block = block.word text := by
  cases text with
  | nil => rw [wordExpr, Expr.compile]; rfl
  | cons c text => rw [wordExpr, Expr.compile]; rfl

theorem lastGroup_wordExpr (text : List Char) : (wordExpr text).lastGroup = 0 := by
  cases text with
  | nil => rfl
  | cons c text => rfl

theorem compile_textGroup (index : Nat) (text : List Char) (block : Block) :
    (Expr.capture index (wordExpr text)).compile block =
      ((block.before (.note (2 * index + 1))).word text).before (.note (2 * index)) := by
  rw [Expr.compile, compile_wordExpr]

theorem compile_anyGroup (index : Nat) (block : Block) :
    (Expr.capture index (.loop (.oneOf anyRanges) 0 none false)).compile block =
      ((block.before (.note (2 * index + 1))).lazily anyRanges).before (.note (2 * index)) := by
  rw [Expr.compile, Block.compile_lazily rfl]

theorem delimits_written (opening closing : List Char) :
    (writtenExpr opening closing).program.Delimits opening closing := by
  let base : Block := ⟨#[.accept], 0⟩
  let stop := (base.before (.note 1)).before (.note 7)
  let exit := ((stop.word closing).before (.note 6)).before (.note 5)
  let choice := exit.lazily anyRanges
  let start := (choice.before (.note 4)).before (.note 3)
  let whole := ((start.word opening).before (.note 2)).before (.note 0)
  have groups : (writtenExpr opening closing).lastGroup = 3 := by
    simp [writtenExpr, Expr.lastGroup, Expr.lastGroupOfAll, lastGroup_wordExpr]
  have program : (writtenExpr opening closing).program = ⟨whole.code, whole.entry, 3⟩ := by
    rw [Expr.program, groups, writtenExpr, Expr.compile, Expr.compile, Expr.compileAll,
      Expr.compileAll, Expr.compileAll, Expr.compileAll, compile_textGroup, compile_anyGroup,
      compile_textGroup]
  have last : base.Descends := by
    refine ⟨Nat.zero_lt_one, ?_⟩
    intro place next member
    rcases Nat.eq_zero_or_pos place with rfl | behind
    · cases member
    · have none : (#[Instr.accept] : Array Instr)[place]? = none := Array.getElem?_eq_none behind
      simp only [Program.passes, base, none] at member
      cases member
  have descends : whole.Descends :=
    ((((((((last.note 1).note 7).word closing).note 6).note 5).lazily anyRanges).note 4).note 3
      |>.word opening |>.note 2 |>.note 0)
  rw [program]
  -- The blocks are read off from the last to the first.
  have self : Program.Begins ⟨whole.code, whole.entry, 3⟩ whole.code := fun _ _ found => found
  obtain ⟨begins, note0⟩ := Block.begins_before self
  obtain ⟨begins, note2⟩ := Block.begins_before begins
  obtain ⟨begins, front⟩ := Block.begins_word opening begins
  obtain ⟨begins, note3⟩ := Block.begins_before begins
  obtain ⟨begins, note4⟩ := Block.begins_before begins
  obtain ⟨begins, fork, round⟩ := Block.begins_lazily begins
  obtain ⟨begins, note5⟩ := Block.begins_before begins
  obtain ⟨begins, note6⟩ := Block.begins_before begins
  obtain ⟨begins, back⟩ := Block.begins_word closing begins
  obtain ⟨begins, note7⟩ := Block.begins_before begins
  obtain ⟨begins, note1⟩ := Block.begins_before begins
  have accepts := begins base.entry .accept rfl
  refine ⟨rfl, descends.descending.descends, choice.entry, exit.entry, _, ?_, ⟨fork, round⟩, ?_⟩
  · exact ⟨_, _, _, _, note0, note2, front, note3, note4⟩
  · exact ⟨_, _, _, _, _, note5, note6, back, note7, note1, accepts⟩

/-! ## Accepted patterns -/

variable {opening closing : List Char}

theorem parse_written (first : IsPlain opening) (last : IsPlain closing) {tree : Tree}
    (parsed : Tree.parse (written opening closing) = .ok tree) :
    tree = .concat (writtenItems opening closing) := by
  simp only [Tree.parse, Reader.run_written first last, bind, Except.bind, pure, Except.pure,
    List.isEmpty_nil, Bool.not_true, Bool.false_eq_true, if_false] at parsed
  split at parsed
  next => cases parsed
  next =>
    cases parsed
    rfl

theorem ofTree_written {expr : Expr}
    (found : Expr.ofTree? (.concat (writtenItems opening closing)) = .ok expr) :
    expr = writtenExpr opening closing := by
  obtain ⟨behind, meaning⟩ := meaning_written opening closing
  simp only [Expr.ofTree?, meaning, bind, Except.bind, pure, Except.pure] at found
  split at found
  next => cases found
  next =>
    cases found
    rfl

theorem compile_written (first : IsPlain opening) (last : IsPlain closing) {program : Program}
    (compiled : compile (String.ofList (written opening closing)) = .ok program) :
    program = (writtenExpr opening closing).program := by
  rw [compile, String.toList_ofList] at compiled
  cases parsed : Tree.parse (written opening closing) with
  | error reason =>
    rw [parsed] at compiled
    cases compiled
  | ok tree =>
    obtain rfl := parse_written first last parsed
    rw [parsed] at compiled
    cases found : Expr.ofTree? (.concat (writtenItems opening closing)) with
    | error reason => simp [found, bind, Except.bind] at compiled
    | ok expr =>
      obtain rfl := ofTree_written found
      simp only [found, bind, Except.bind, pure, Except.pure, Except.ok.injEq] at compiled
      exact compiled.symm

end PackageDoc.Regex

namespace PackageDoc.MarkerPattern
open PackageDoc.Regex

variable {opening closing : List Char}

theorem delimits_of_parse (first : IsPlain opening)
    (last : IsPlain closing) {pattern : MarkerPattern}
    (parsed : parse (String.ofList (written opening closing)) = .ok pattern) :
    pattern.program.Delimits opening closing := by
  unfold parse at parsed
  split at parsed
  next => cases parsed
  next program compiled =>
    split at parsed
    next =>
      cases parsed
      rw [compile_written first last compiled]
      exact delimits_written opening closing
    next => cases parsed

end PackageDoc.MarkerPattern
