import PackageDoc.Regex.Expr
import PackageDoc.Regex.Property

/-! # The meaning of a pattern

Flags take effect from where they stand to the end of their group.  A pattern matches whole
characters, so without the Unicode flag only sets within ASCII are accepted. -/
set_option autoImplicit false

namespace PackageDoc.Regex

structure Flags where
  ignoreCase : Bool := false
  multiLine : Bool := false
  dotAll : Bool := false
  swapGreed : Bool := false
  unicode : Bool := true
  crlf : Bool := false
  deriving DecidableEq, Repr

namespace Flags

def set (flags : Flags) (flag : Flag) (value : Bool) : Flags :=
  match flag with
  | .ignoreCase => { flags with ignoreCase := value }
  | .multiLine => { flags with multiLine := value }
  | .dotAll => { flags with dotAll := value }
  | .swapGreed => { flags with swapGreed := value }
  | .unicode => { flags with unicode := value }
  | .crlf => { flags with crlf := value }
  | .verbose => flags

def apply (flags : Flags) (changes : List (Flag × Bool)) : Flags :=
  changes.foldl (fun flags (flag, value) => flags.set flag value) flags

/-- The variants of the members of a set, if case does not count. -/
def fold (flags : Flags) (set : CharSet) : CharSet :=
  if !flags.ignoreCase then set
  else if flags.unicode then set.foldCase
  else set.foldAsciiCase

/-- A set or its complement.  Without the Unicode flag a complement goes beyond ASCII. -/
def negate (flags : Flags) (negated : Bool) (set : CharSet) : Except PatternError CharSet :=
  if !negated then .ok set
  else if flags.unicode then .ok set.complement
  else .error .partialCharacter

def property (flags : Flags) (name : PropertyName) (negated : Bool) :
    Except PatternError CharSet :=
  if !flags.unicode then .error .asciiOnly
  else
    match propertySet? name with
    | none => .error .property
    | some set => flags.negate negated (flags.fold set)

def shorthand (flags : Flags) (kind : Shorthand) (negated : Bool) : Except PatternError CharSet :=
  flags.negate negated (if flags.unicode then kind.set else kind.asciiSet)

/-- The character of a literal.  Without the Unicode flag a byte escape stands for a byte. -/
def literal (flags : Flags) (written : Literal) : Except PatternError Char :=
  if !flags.unicode && written.byteEscape && 0x7F < written.char.toNat then
    .error .partialCharacter
  else .ok written.char

/-- The character of a literal in a class. -/
def classLiteral (flags : Flags) (written : Literal) : Except PatternError Char := do
  let c ← flags.literal written
  if !flags.unicode && 0x7F < c.toNat then .error .asciiOnly else return c

/-- A character with its variants. -/
def char (flags : Flags) (c : Char) : Expr :=
  if flags.ignoreCase && (flags.unicode || c.toNat ≤ 0x7F) then
    Expr.ofSet (flags.fold (CharSet.single c))
  else .literal [c]

def dot (flags : Flags) : Except PatternError Expr :=
  if !flags.unicode then .error .partialCharacter
  else if flags.dotAll then .ok (Expr.ofSet anyRanges)
  else if flags.crlf then .ok (Expr.ofSet (CharSet.ofChars ['\n', '\r']).complement)
  else .ok (Expr.ofSet (CharSet.single '\n').complement)

def anchor (flags : Flags) : Anchor → Look
  | .textStart => .textStart
  | .textStop => .textStop
  | .lineStart => if flags.multiLine then .lineStart flags.crlf else .textStart
  | .lineStop => if flags.multiLine then .lineStop flags.crlf else .textStop
  | .word edge => .word edge flags.unicode

end Flags

mutual

/-- The set of a class before its own negation. -/
def ClassTree.set (flags : Flags) : ClassTree → Except PatternError CharSet
  | .empty => .ok []
  | .literal written => do return CharSet.single (← flags.classLiteral written)
  | .range first last => do
    return CharSet.between (← flags.classLiteral first) (← flags.classLiteral last)
  | .ascii name negated => flags.negate negated (flags.fold name.set)
  | .property name negated => flags.property name negated
  | .shorthand kind negated => flags.shorthand kind negated
  | .bracketed negated inner => do flags.negate negated (flags.fold (← inner.set flags))
  | .union items => ClassTree.setOfAll flags items
  | .operation kind left right => do
    let left := flags.fold (← left.set flags)
    let right := flags.fold (← right.set flags)
    return match kind with
      | .inter => left.inter right
      | .sdiff => left.sdiff right
      | .symmDiff => left.symmDiff right

def ClassTree.setOfAll (flags : Flags) : List ClassTree → Except PatternError CharSet
  | [] => .ok []
  | item :: rest => do return (← item.set flags) ++ (← ClassTree.setOfAll flags rest)

end

mutual

/-- The expression of a tree under flags, and the flags behind it. -/
def Tree.meaning (flags : Flags) : Tree → Except PatternError (Expr × Flags)
  | .empty => .ok (.empty, flags)
  | .flags changes => .ok (.empty, flags.apply changes)
  | .literal written => do return (flags.char (← flags.literal written), flags)
  | .dot => do return (← flags.dot, flags)
  | .anchor sign => .ok (.look (flags.anchor sign), flags)
  | .property name negated => do return (Expr.ofSet (← flags.property name negated), flags)
  | .shorthand kind negated => do return (Expr.ofSet (← flags.shorthand kind negated), flags)
  | .bracketed negated inner => do
    let set ← flags.negate negated (flags.fold (← inner.set flags))
    return (Expr.ofSet set, flags)
  | .loop body least most greedy => do
    let (body, flags) ← body.meaning flags
    return (Expr.ofLoop body least most (greedy != flags.swapGreed), flags)
  | .group (.capture index) body => do
    let (body, _) ← body.meaning flags
    return (.capture index body, flags)
  | .group (.plain changes) body => do
    let (body, _) ← body.meaning (flags.apply changes)
    return (body, flags)
  | .concat items => do
    let (items, flags) ← Tree.meaningOfAll flags items
    return (Expr.ofItems items, flags)
  | .alternation branches => do
    let (branches, flags) ← Tree.meaningOfAll flags branches
    return (Expr.ofBranches branches, flags)

def Tree.meaningOfAll (flags : Flags) : List Tree → Except PatternError (List Expr × Flags)
  | [] => .ok ([], flags)
  | item :: rest => do
    let (item, flags) ← item.meaning flags
    let (rest, flags) ← Tree.meaningOfAll flags rest
    return (item :: rest, flags)

end

/-- The expression of a tree.  In the patterns of this library `^` and `$` match at lines. -/
def Expr.ofTree? (tree : Tree) : Except PatternError Expr := do
  let (expr, _) ← tree.meaning { multiLine := true }
  if Expr.weightLimit < expr.weight then .error .tooLarge else return expr

end PackageDoc.Regex
