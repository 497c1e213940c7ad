import PackageDoc.Regex.Meaning
import PackageDoc.Regex.Parser
import PackageDoc.Regex.Program

/-! # Searching

A search runs all possible threads of a program side by side, in order of preference, one character
at a time.  At each place an instruction is reached by the first thread only, so a place has no
more threads than the program has instructions.  The leftmost place wins, and there the preferred
thread that accepts. -/
set_option autoImplicit false

namespace PackageDoc.Regex

/-- A place in a text: how many characters stand before it, the last of them, and the next one. -/
structure Place where
  position : Nat
  previous : Option Char
  next : Option Char
  deriving DecidableEq, Repr

namespace Look

def edgeHolds (edge : WordEdge) (before behind : Bool) : Bool :=
  match edge with
  | .boundary => before != behind
  | .notBoundary => before == behind
  | .start => !before && behind
  | .stop => before && !behind
  | .startHalf => !before
  | .stopHalf => !behind

def holds (look : Look) (place : Place) : Bool :=
  match look with
  | .textStart => place.previous.isNone
  | .textStop => place.next.isNone
  | .lineStart false => place.previous.all (· = '\n')
  | .lineStop false => place.next.all (· = '\n')
  | .lineStart true =>
    place.previous.all fun c => c = '\n' || (c = '\r' && place.next != some '\n')
  | .lineStop true =>
    place.next.all fun c => c = '\r' || (c = '\n' && place.previous != some '\r')
  | .word edge unicode =>
    edgeHolds edge (place.previous.any (isWordChar unicode)) (place.next.any (isWordChar unicode))

end Look

/-- Where groups begin and end, by slot. -/
abbrev Slots := List (Option Nat)

/-- A thread waits at an instruction that takes a character or accepts. -/
structure Thread where
  instr : Nat
  slots : Slots
  deriving Repr

/-- The threads of a place, last first, and the instructions that were reached. -/
structure Frontier where
  threads : List Thread := []
  reached : List Nat := []

/-- Follows instructions that take no character.  No instruction is followed twice, so the number
of instructions is fuel enough. -/
def Program.explore (program : Program) (place : Place) :
    Nat → Nat → Slots → Frontier → Frontier
  | 0, _, _, frontier => frontier
  | fuel + 1, instr, slots, frontier =>
    if frontier.reached.contains instr then frontier
    else
      let frontier := { frontier with reached := instr :: frontier.reached }
      match program.code[instr]? with
      | none => frontier
      | some .accept | some (.take _ _) =>
        { frontier with threads := ⟨instr, slots⟩ :: frontier.threads }
      | some (.fork preferred other) =>
        program.explore place fuel other slots
          (program.explore place fuel preferred slots frontier)
      | some (.look look next) =>
        if look.holds place then program.explore place fuel next slots frontier else frontier
      | some (.note slot next) =>
        program.explore place fuel next (slots.set slot (some place.position)) frontier

def Program.follow (program : Program) (place : Place) (instr : Nat) (slots : Slots)
    (frontier : Frontier) : Frontier :=
  program.explore place (program.code.size + 1) instr slots frontier

/-- Moves threads over a character to the next place.  Threads behind one that accepts are given
up; the slots of that one are the second result. -/
def Program.advance (program : Program) (c : Char) (place : Place) :
    List Thread → Frontier → Frontier × Option Slots
  | [], frontier => (frontier, none)
  | thread :: rest, frontier =>
    match program.code[thread.instr]? with
    | some .accept => (frontier, some thread.slots)
    | some (.take set next) =>
      if set.contains c then
        program.advance c place rest (program.follow place next thread.slots frontier)
      else program.advance c place rest frontier
    | _ => program.advance c place rest frontier

/-- The slots of the first thread that accepts. -/
def Program.accepted (program : Program) (threads : List Thread) : Option Slots :=
  (threads.find? fun thread => program.code[thread.instr]? = some .accept).map (·.slots)

/-- Runs threads over a text.  `best` is what an earlier place accepted. -/
def Program.runThreads (program : Program) (position : Nat) :
    List Char → List Thread → Option Slots → Option Slots
  | [], threads, best => (program.accepted threads).or best
  | c :: rest, threads, best =>
    if threads.isEmpty then best
    else
      let (frontier, found) :=
        program.advance c ⟨position + 1, some c, rest.head?⟩ threads {}
      program.runThreads (position + 1) rest frontier.threads.reverse (found.or best)

def Program.noSlots (program : Program) : Slots := List.replicate (2 * program.groups + 2) none

/-- The match that begins at a place before the given characters. -/
def Program.matchAt (program : Program) (position : Nat) (previous : Option Char)
    (text : List Char) : Option Slots :=
  let frontier :=
    program.follow ⟨position, previous, text.head?⟩ program.start program.noSlots {}
  program.runThreads position text frontier.threads.reverse none

/-- The first match in a text of which `position` characters have been passed. -/
def Program.searchFrom (program : Program) (position : Nat) (previous : Option Char) :
    List Char → Option Slots
  | [] => program.matchAt position previous []
  | c :: rest =>
    (program.matchAt position previous (c :: rest)).or
      (program.searchFrom (position + 1) (some c) rest)

/-- A part of a text between two positions. -/
structure Span where
  start : Nat
  stop : Nat
  deriving DecidableEq, Repr

namespace Span

def extract (span : Span) (text : List Char) : List Char :=
  (text.drop span.start).take (span.stop - span.start)

/-- A text with the part of a span replaced. -/
def replace (span : Span) (text body : List Char) : List Char :=
  text.take span.start ++ body ++ text.drop span.stop

end Span

/-- The span of a group, if it took part in the match. -/
def Slots.group? (slots : Slots) (index : Nat) : Option Span := do
  let start ← (← slots[2 * index]?)
  let stop ← (← slots[2 * index + 1]?)
  return ⟨start, stop⟩

/-- The slots of the first match of a program in a text. -/
def Program.search (program : Program) (text : List Char) : Option Slots :=
  program.searchFrom 0 none text

/-- The program of a pattern. -/
def compile (pattern : String) : Except PatternError Program := do
  return (← Expr.ofTree? (← Tree.parse pattern.toList)).program

end PackageDoc.Regex
