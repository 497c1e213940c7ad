import PackageDoc.Regex.Expr

/-! # Programs

An expression becomes a list of instructions, each of which names those that may follow it.  Of two
followers the first is preferred. -/
set_option autoImplicit false

namespace PackageDoc.Regex

inductive Instr where
  | accept
  /-- Takes one character of a set. -/
  | take (set : CharSet) (next : Nat)
  | fork (preferred other : Nat)
  | look (look : Look) (next : Nat)
  /-- Notes the place: slot `2 * i` is where group `i` begins, slot `2 * i + 1` where it ends. -/
  | note (slot : Nat) (next : Nat)
  deriving DecidableEq, Repr

/-- Instructions so far, and where to begin. -/
structure Block where
  code : Array Instr
  entry : Nat
  deriving Repr

namespace Block

/-- Adds an instruction that is executed before the block. -/
def before (block : Block) (instr : Nat → Instr) : Block :=
  ⟨block.code.push (instr block.entry), block.code.size⟩

/-- A choice between going on at the entry and going on at `exit`. -/
def choice (greedy : Bool) (entry exit : Nat) : Instr :=
  if greedy then .fork entry exit else .fork exit entry

/-- Reserves a place, builds a body that goes on there, and puts the choice there between another
round and leaving.  The entry is that of the body. -/
def repeated (block : Block) (body : Block → Block) (greedy : Bool) : Block :=
  let exit := block.entry
  let place := block.code.size
  let inner := body ⟨block.code.push .accept, place⟩
  ⟨inner.code.setIfInBounds place (choice greedy inner.entry exit), inner.entry⟩

/-- A given number of copies of a body. -/
def copies (body : Block → Block) : Nat → Block → Block
  | 0, block => block
  | count + 1, block => body (copies body count block)

/-- Up to a given number of rounds of a body, each inside the one before. -/
def optionals (body : Block → Block) (greedy : Bool) (exit : Nat) : Nat → Block → Block
  | 0, block => block
  | count + 1, block =>
    (body (optionals body greedy exit count block)).before fun entry => choice greedy entry exit

/-- A loop.  Without an upper bound the last copy is entered again and again; a body that may take
nothing is entered once before the choice is offered. -/
def loop (block : Block) (body : Block → Block) (nullable : Bool) (least : Nat)
    (most : Option Nat) (greedy : Bool) : Block :=
  match most with
  | some most => copies body least (optionals body greedy block.entry (most - least) block)
  | none =>
    match least with
    | 0 =>
      let exit := block.entry
      if nullable then
        (block.repeated body greedy).before fun entry => choice greedy entry exit
      else
        let place := block.code.size
        ⟨(block.repeated body greedy).code, place⟩
    | least + 1 => copies body least (block.repeated body greedy)

end Block

mutual

/-- The instructions of an expression in front of those that follow it. -/
def Expr.compile : Expr → Block → Block
  | .empty, block => block
  | .literal chars, block =>
    chars.foldr (fun c block => block.before (.take (CharSet.single c))) block
  | .oneOf set, block => block.before (.take set)
  | .look condition, block => block.before (.look condition)
  | .loop body least most greedy, block =>
    block.loop body.compile (body.minLength.all (· = 0)) least most greedy
  | .capture index body, block =>
    (body.compile (block.before (.note (2 * index + 1)))).before (.note (2 * index))
  | .concat items, block => Expr.compileAll items block
  | .alternation branches, block => Expr.compileAny branches block block.entry

def Expr.compileAll : List Expr → Block → Block
  | [], block => block
  | item :: rest, block => item.compile (Expr.compileAll rest block)

/-- The branches of an alternation, all of which go on at `exit`. -/
def Expr.compileAny : List Expr → Block → Nat → Block
  | [], block, _ => block.before (.take [])
  | [branch], block, exit => branch.compile { block with entry := exit }
  | branch :: rest, block, exit =>
    let others := Expr.compileAny rest block exit
    (branch.compile { others with entry := exit }).before fun entry => .fork entry others.entry

end

structure Program where
  code : Array Instr
  start : Nat
  groups : Nat
  deriving Repr

/-- The program of an expression; group 0 is the whole match. -/
def Expr.program (expr : Expr) : Program :=
  let block := (Expr.capture 0 expr).compile ⟨#[.accept], 0⟩
  ⟨block.code, block.entry, expr.lastGroup⟩

end PackageDoc.Regex
