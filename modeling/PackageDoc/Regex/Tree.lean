/-! # Written patterns

The tree of a pattern as it is written.  Flags are still instructions in it; what they make of the
other parts is decided when the tree becomes an expression. -/
set_option autoImplicit false

namespace PackageDoc.Regex

/-- Why a pattern is refused. -/
inductive PatternError where
  | unclosedGroup
  | unopenedGroup
  | lookAround
  | groupName
  | duplicateGroupName
  | flags
  | nothingToRepeat
  | repetition
  | number
  | escape
  | backReference
  | hexadecimal
  | unclosedClass
  | classItem
  | classRange
  | property
  | wordEdge
  | tooDeep
  | tooLarge
  /-- The pattern could match bytes that are not a whole character. -/
  | partialCharacter
  /-- A property or a character beyond ASCII where the pattern is limited to ASCII. -/
  | asciiOnly
  deriving DecidableEq, Repr

inductive Flag where
  | ignoreCase | multiLine | dotAll | swapGreed | unicode | crlf | verbose
  deriving DecidableEq, Repr

/-- A character of a pattern.  A byte escape has exactly two hexadecimal digits. -/
structure Literal where
  char : Char
  byteEscape : Bool
  deriving DecidableEq, Repr

/-- The classes with a letter of their own. -/
inductive Shorthand where
  | digit | space | word
  deriving DecidableEq, Repr

/-- The classes with a name between colons. -/
inductive AsciiClass where
  | alnum | alpha | ascii | blank | cntrl | digit | graph | lower | print | punct | space | upper
  | word | xdigit
  deriving DecidableEq, Repr

/-- A property by its name, or by the names of a property and one of its values. -/
inductive PropertyName where
  | named (name : List Char)
  | valued (name value : List Char)
  deriving DecidableEq, Repr

inductive SetOperation where
  | inter | sdiff | symmDiff
  deriving DecidableEq, Repr

/-- What stands between brackets. -/
inductive ClassTree where
  | empty
  | literal (literal : Literal)
  | range (first last : Literal)
  | ascii (name : AsciiClass) (negated : Bool)
  | property (name : PropertyName) (negated : Bool)
  | shorthand (kind : Shorthand) (negated : Bool)
  | bracketed (negated : Bool) (inner : ClassTree)
  | union (items : List ClassTree)
  | operation (kind : SetOperation) (left right : ClassTree)

inductive WordEdge where
  | boundary | notBoundary | start | stop | startHalf | stopHalf
  deriving DecidableEq, Repr

/-- The signs that match a place and take no character. -/
inductive Anchor where
  | lineStart | lineStop | textStart | textStop
  | word (edge : WordEdge)
  deriving DecidableEq, Repr

inductive GroupKind where
  | capture (index : Nat)
  | plain (flags : List (Flag × Bool))
  deriving DecidableEq, Repr

inductive Tree where
  | empty
  | flags (changes : List (Flag × Bool))
  | literal (literal : Literal)
  | dot
  | anchor (anchor : Anchor)
  | property (name : PropertyName) (negated : Bool)
  | shorthand (kind : Shorthand) (negated : Bool)
  | bracketed (negated : Bool) (inner : ClassTree)
  | loop (body : Tree) (least : Nat) (most : Option Nat) (greedy : Bool)
  | group (kind : GroupKind) (body : Tree)
  | concat (items : List Tree)
  | alternation (branches : List Tree)

/-! ## Depth -/

mutual

/-- The nesting of a bracketed class below its own brackets. -/
def ClassTree.depth : ClassTree → Nat
  | .bracketed _ inner => inner.depth + 1
  | .union items => ClassTree.depthAll items + 1
  | .operation _ left right => max left.depth right.depth + 1
  | _ => 0

def ClassTree.depthAll : List ClassTree → Nat
  | [] => 0
  | item :: rest => max item.depth (ClassTree.depthAll rest)

end

mutual

def Tree.depth : Tree → Nat
  | .bracketed _ inner => inner.depth + 1
  | .loop body _ _ _ => body.depth + 1
  | .group _ body => body.depth + 1
  | .concat items => Tree.depthAll items + 1
  | .alternation branches => Tree.depthAll branches + 1
  | _ => 0

def Tree.depthAll : List Tree → Nat
  | [] => 0
  | item :: rest => max item.depth (Tree.depthAll rest)

end

/-- The greatest nesting that is accepted. -/
def Tree.depthLimit : Nat := 250

end PackageDoc.Regex
