import PackageDoc.Regex.CharSet
import PackageDoc.Regex.Tree

/-! # Expressions

What a pattern means once its flags are settled.  The constructing functions keep expressions
simple: no empty parts in a sequence, no alternation inside an alternation, and a common beginning
of all branches taken out of them. -/
set_option autoImplicit false

namespace PackageDoc.Regex

/-- A condition on a place of the text. -/
inductive Look where
  | textStart
  | textStop
  /-- The beginning of a line; the flag tells whether carriage returns end lines too. -/
  | lineStart (crlf : Bool)
  | lineStop (crlf : Bool)
  /-- An edge of a word; the flag tells whether word characters go beyond ASCII. -/
  | word (edge : WordEdge) (unicode : Bool)
  deriving DecidableEq, Repr

inductive Expr where
  | empty
  | literal (chars : List Char)
  | oneOf (set : CharSet)
  | look (look : Look)
  | loop (body : Expr) (least : Nat) (most : Option Nat) (greedy : Bool)
  | capture (index : Nat) (body : Expr)
  | concat (items : List Expr)
  | alternation (branches : List Expr)

namespace Expr

/-! ## Equality -/

mutual

def same : Expr → Expr → Bool
  | .empty, .empty => true
  | .literal left, .literal right => left = right
  | .oneOf left, .oneOf right => left = right
  | .look left, .look right => left = right
  | .loop left least most greedy, .loop right least' most' greedy' =>
    least = least' && most = most' && greedy = greedy' && same left right
  | .capture index left, .capture index' right => index = index' && same left right
  | .concat left, .concat right => sameAll left right
  | .alternation left, .alternation right => sameAll left right
  | _, _ => false

def sameAll : List Expr → List Expr → Bool
  | [], [] => true
  | left :: lefts, right :: rights => same left right && sameAll lefts rights
  | _, _ => false

end

/-! ## Lengths of matches

The number of characters of a match.  An expression that matches nothing has neither bound. -/

mutual

def minLength : Expr → Option Nat
  | .empty => some 0
  | .literal chars => some chars.length
  | .oneOf set => if (CharSet.canonical set).isEmpty then none else some 1
  | .look _ => some 0
  | .loop body least _ _ => (minLength body).map (· * least)
  | .capture _ body => minLength body
  | .concat items => minLengthOfAll items
  | .alternation branches => minLengthOfAny branches

def minLengthOfAll : List Expr → Option Nat
  | [] => some 0
  | item :: rest => do return (← minLength item) + (← minLengthOfAll rest)

def minLengthOfAny : List Expr → Option Nat
  | [] => none
  | [branch] => minLength branch
  | branch :: rest => do return min (← minLength branch) (← minLengthOfAny rest)

end

mutual

def maxLength : Expr → Option Nat
  | .empty => some 0
  | .literal chars => some chars.length
  | .oneOf set => if (CharSet.canonical set).isEmpty then none else some 1
  | .look _ => some 0
  | .loop body _ most _ => do return (← maxLength body) * (← most)
  | .capture _ body => maxLength body
  | .concat items => maxLengthOfAll items
  | .alternation branches => maxLengthOfAny branches

def maxLengthOfAll : List Expr → Option Nat
  | [] => some 0
  | item :: rest => do return (← maxLength item) + (← maxLengthOfAll rest)

def maxLengthOfAny : List Expr → Option Nat
  | [] => none
  | [branch] => maxLength branch
  | branch :: rest => do return max (← maxLength branch) (← maxLengthOfAny rest)

end

/-! ## Construction -/

/-- A set of one character is that character. -/
def ofSet (set : CharSet) : Expr :=
  match CharSet.canonical set with
  | [⟨first, last⟩] => if first = last then .literal [Char.ofNat first] else .oneOf [⟨first, last⟩]
  | set => .oneOf set

/-- A repetition.  Of a body that takes no characters one round is enough. -/
def ofLoop (body : Expr) (least : Nat) (most : Option Nat) (greedy : Bool) : Expr :=
  let still := maxLength body = some 0
  let least := if still then min least 1 else least
  let most := if still then some ((most.map (min · 1)).getD 1) else most
  if least = 0 ∧ most = some 0 then .empty
  else if least = 1 ∧ most = some 1 then body
  else .loop body least most greedy

/-- Puts an item in front of others, joining literals and opening sequences. -/
def consItem (item : Expr) (rest : List Expr) : List Expr :=
  match item, rest with
  | .literal left, .literal right :: rest => .literal (left ++ right) :: rest
  | item, rest => item :: rest

def flatItems : List Expr → List Expr
  | [] => []
  | .empty :: rest => flatItems rest
  | .concat items :: rest => items.foldr consItem (flatItems rest)
  | item :: rest => consItem item (flatItems rest)

def ofItems (items : List Expr) : Expr :=
  match flatItems items with
  | [] => .empty
  | [item] => item
  | items => .concat items

def flatBranches : List Expr → List Expr
  | [] => []
  | .alternation branches :: rest => branches ++ flatBranches rest
  | branch :: rest => branch :: flatBranches rest

/-- The items of a sequence. -/
def items? : Expr → Option (List Expr)
  | .concat items => some items
  | _ => none

/-- The length of the common beginning of two sequences. -/
def commonLength : List Expr → List Expr → Nat
  | left :: lefts, right :: rights =>
    if same left right then commonLength lefts rights + 1 else 0
  | _, _ => 0

/-- The set of a branch that takes exactly one character. -/
def single? : Expr → Option CharSet
  | .literal [c] => some (CharSet.single c)
  | .oneOf set => some set
  | _ => none

/-- Branches without a common beginning.  If each takes one character they are one set. -/
def ofDistinct (branches : List Expr) : Expr :=
  match branches with
  | [] => .oneOf []
  | [branch] => branch
  | branches =>
    match branches.mapM single? with
    | some sets => ofSet sets.flatten
    | none => .alternation branches

/-- An alternation of branches, the length of whose common beginning is known to `fuel`. -/
def factor : Nat → List Expr → Expr
  | 0, branches => ofDistinct branches
  | fuel + 1, branches =>
    match branches.mapM items? with
    | some (first :: second :: others) =>
      let length := (second :: others).foldl (fun length items =>
        commonLength (first.take length) items) first.length
      if length = 0 then ofDistinct branches
      else
        let endings := (first :: second :: others).map fun items => ofItems (items.drop length)
        ofItems (first.take length ++ [factor fuel (flatBranches endings)])
    | _ => ofDistinct branches

def ofBranches (branches : List Expr) : Expr :=
  let branches := flatBranches branches
  factor (branches.length + 1) branches

/-! ## Groups

The groups of a pattern are counted up to the last one that is left in its expression. -/

mutual

def lastGroup : Expr → Nat
  | .loop body _ _ _ => lastGroup body
  | .capture index body => max index (lastGroup body)
  | .concat items => lastGroupOfAll items
  | .alternation branches => lastGroupOfAll branches
  | _ => 0

def lastGroupOfAll : List Expr → Nat
  | [] => 0
  | item :: rest => max (lastGroup item) (lastGroupOfAll rest)

end

/-! ## Weight

The bytes that the states of a compiled expression are taken to occupy. -/

def setWeight (set : CharSet) : Nat :=
  if CharSet.isAscii set then 32 + 8 * set.length else 400 + 65 * set.length

mutual

def weight : Expr → Nat
  | .empty => 32
  | .literal chars => 32 * byteCount chars
  | .oneOf set => setWeight set
  | .look _ => 32
  | .loop body least most _ =>
    match most with
    | none => max least 1 * weight body + 72
    | some most => least * weight body + (most - least) * (weight body + 40) + 32
  | .capture _ body => weight body + 64
  | .concat items => weightOfAll items
  | .alternation branches => weightOfAll branches + 4 * branches.length + 64

def weightOfAll : List Expr → Nat
  | [] => 0
  | item :: rest => weight item + weightOfAll rest

def byteCount : List Char → Nat
  | [] => 0
  | c :: rest => c.utf8Size + byteCount rest

end

/-- The greatest weight that is accepted: ten mebibytes. -/
def weightLimit : Nat := 10 * Nat.pow 2 20

end Expr
end PackageDoc.Regex
