import PackageDoc.Regex.Tree
import PackageDoc.Unicode.WhiteSpace
import PackageDoc.Unicode.Word

/-! # Reading patterns

Each reader takes the rest of the pattern and gives back what it read with the rest behind it.  In
verbose mode white space and comments between signs do not count.  Groups and classes that are
still open are kept on a stack, so each step reads at least one character and the length of the
pattern bounds the number of steps. -/
set_option autoImplicit false

namespace PackageDoc.Regex
open PackageDoc.Unicode

abbrev Attempt := Except PatternError

/-- What was read and the rest behind it. -/
abbrev Read (α : Type) := α × List Char

/-! ## Characters that do not count -/

/-- Drops white space and comments in verbose mode. -/
def skip (verbose : Bool) (comment : Bool := false) : List Char → List Char
  | [] => []
  | c :: rest =>
    if !verbose then c :: rest
    else if comment then skip verbose (c != '\n') rest
    else if isWhiteSpace c then skip verbose false rest
    else if c = '#' then skip verbose true rest
    else c :: rest

/-- The characters of a kind in front, and what follows; what does not count may stand between. -/
def takeKind (verbose : Bool) (kind : Char → Bool) (comment : Bool := false) :
    List Char → List Char × List Char
  | [] => ([], [])
  | c :: rest =>
    if comment then takeKind verbose kind (c != '\n') rest
    else if verbose && isWhiteSpace c then takeKind verbose kind false rest
    else if verbose && c = '#' then takeKind verbose kind true rest
    else if kind c then
      let (found, rest) := takeKind verbose kind false rest
      (c :: found, rest)
    else ([], c :: rest)

/-- The next character that is neither white space nor in a comment, if what does not count is
passed over.  A comment does not end here. -/
def peekBehind (verbose : Bool) (rest : List Char) : Option Char :=
  if !verbose then rest.head?
  else
    let rec go (comment : Bool) : List Char → Option Char
      | [] => rest.head?
      | c :: more =>
        if isWhiteSpace c then go comment more
        else if !comment && c = '#' then go true more
        else some c
    go false rest

/-! ## Numbers and escapes -/

def isHexDigit (c : Char) : Bool :=
  c.isDigit || ('a' ≤ c && c ≤ 'f') || ('A' ≤ c && c ≤ 'F')

def digitValue (c : Char) : Nat :=
  if c.isDigit then c.toNat - '0'.toNat
  else if 'a' ≤ c then c.toNat - 'a'.toNat + 10
  else c.toNat - 'A'.toNat + 10

def numberValue (base : Nat) (digits : List Char) : Nat :=
  digits.foldl (fun value digit => value * base + digitValue digit) 0

/-- The character of a code point, unless it is a surrogate or beyond the last one. -/
def charOf? (code : Nat) : Option Char :=
  if code.isValidChar then some (Char.ofNat code) else none

/-- A decimal number, if there is one.  White space around it does not count. -/
def readDecimal (verbose : Bool) (rest : List Char) : Attempt (Read (Option Nat)) :=
  let (digits, rest) := takeKind verbose Char.isDigit false (rest.dropWhile isWhiteSpace)
  let rest := skip verbose false (rest.dropWhile isWhiteSpace)
  let value := numberValue 10 digits
  if digits.isEmpty then .ok (none, rest)
  else if value < Nat.pow 2 32 then .ok (some value, rest)
  else .error .number

/-- The digits of `\xHH`, `\uHHHH` and `\UHHHHHHHH`. -/
def readHexDigits (verbose : Bool) : Nat → List Char → Attempt (Read (List Char))
  | 0, rest => .ok ([], rest)
  | count + 1, rest =>
    match skip verbose false rest with
    | [] => .error .escape
    | c :: rest =>
      if isHexDigit c then do
        let (digits, rest) ← readHexDigits verbose count rest
        return (c :: digits, rest)
      else .error .hexadecimal

/-- The number of digits of a hexadecimal escape with a given letter. -/
def hexDigitCount (letter : Char) : Nat :=
  if letter = 'x' then 2 else if letter = 'u' then 4 else 8

/-- What follows the letter of a hexadecimal escape: digits, or digits between braces. -/
def readHex (verbose : Bool) (letter : Char) (rest : List Char) : Attempt (Read Literal) := do
  match skip verbose false rest with
  | [] => .error .escape
  | '{' :: rest =>
    let (digits, rest) := takeKind verbose isHexDigit false rest
    match rest with
    | [] => .error .escape
    | '}' :: rest =>
      if digits.isEmpty then .error .hexadecimal
      else
        match charOf? (numberValue 16 digits) with
        | some c => .ok (⟨c, false⟩, rest)
        | none => .error .hexadecimal
    | _ :: _ => .error .hexadecimal
  | rest =>
    let (digits, rest) ← readHexDigits verbose (hexDigitCount letter) rest
    match charOf? (numberValue 16 digits) with
    | some c => .ok (⟨c, letter = 'x'⟩, rest)
    | none => .error .hexadecimal

/-- The text up to a separator and the text behind it. -/
def cutAt? (separator : List Char) : List Char → Option (List Char × List Char)
  | [] => none
  | c :: rest =>
    if separator.isPrefixOf (c :: rest) then some ([], (c :: rest).drop separator.length)
    else (cutAt? separator rest).map fun (before, behind) => (c :: before, behind)

/-- A property name between braces; the flag tells whether `!=` excludes the value. -/
def propertyName (name : List Char) : PropertyName × Bool :=
  match cutAt? ['!', '='] name with
  | some (name, value) => (.valued name value, true)
  | none =>
    match (cutAt? [':'] name).or (cutAt? ['='] name) with
    | some (name, value) => (.valued name value, false)
    | none => (.named name, false)

/-- What follows `\p` or `\P`. -/
def readProperty (verbose : Bool) (rest : List Char) : Attempt (Read (PropertyName × Bool)) :=
  match skip verbose false rest with
  | [] => .error .escape
  | '{' :: rest =>
    let (name, rest) := takeKind verbose (· != '}') false rest
    match rest with
    | [] => .error .escape
    | _ :: rest => .ok (propertyName name, rest)
  | '\\' :: _ => .error .property
  | c :: rest => .ok ((.named [c], false), rest)

/-- The kind of edge that follows `\b` between braces.  Anything but letters and hyphens there is
left for a repetition. -/
def readWordEdge (verbose : Bool) (rest : List Char) : Attempt (Read WordEdge) :=
  let isNameChar := fun (c : Char) => c.isAlpha || c = '-'
  match rest with
  | '{' :: behind =>
    match skip verbose false behind with
    | [] => .error .wordEdge
    | c :: _ =>
      if !isNameChar c then .ok (.boundary, rest)
      else
        let (name, behind) := takeKind verbose isNameChar false behind
        match behind with
        | '}' :: behind =>
          match String.ofList name with
          | "start" => .ok (.start, behind)
          | "end" => .ok (.stop, behind)
          | "start-half" => .ok (.startHalf, behind)
          | "end-half" => .ok (.stopHalf, behind)
          | _ => .error .wordEdge
        | _ => .error .wordEdge
  | _ => .ok (.boundary, rest)

/-- The signs with a meaning of their own; an escape takes it from them. -/
def isMeta (c : Char) : Bool :=
  ['\\', '.', '+', '*', '?', '(', ')', '|', '[', ']', '{', '}', '^', '$', '#', '&', '-',
    '~'].contains c

/-- Whether an escape of a character without meaning is accepted: all of ASCII but letters,
digits and the angle brackets. -/
def isEscapable (c : Char) : Bool :=
  isMeta c || (c.toNat ≤ 0x7F && !c.isAlphanum && c != '<' && c != '>')

def shorthand? (c : Char) : Option (Shorthand × Bool) :=
  match c with
  | 'd' => some (.digit, false)
  | 'D' => some (.digit, true)
  | 's' => some (.space, false)
  | 'S' => some (.space, true)
  | 'w' => some (.word, false)
  | 'W' => some (.word, true)
  | _ => none

/-- The character of a one-letter escape. -/
def controlEscape? (c : Char) : Option Char :=
  match c with
  | 'a' => some '\x07'
  | 'f' => some '\x0C'
  | 't' => some '\t'
  | 'n' => some '\n'
  | 'r' => some '\r'
  | 'v' => some '\x0B'
  | _ => none

/-- What follows a backslash. -/
def readEscape (verbose : Bool) : List Char → Attempt (Read Tree)
  | [] => .error .escape
  | c :: rest =>
    if c.isDigit then .error .backReference
    else if c = 'x' ∨ c = 'u' ∨ c = 'U' then do
      let (literal, rest) ← readHex verbose c rest
      return (.literal literal, rest)
    else if c = 'p' ∨ c = 'P' then do
      let ((name, excluded), rest) ← readProperty verbose rest
      return (.property name ((c == 'P') != excluded), rest)
    else
      match shorthand? c with
      | some (kind, negated) => .ok (.shorthand kind negated, rest)
      | none =>
        if isEscapable c then .ok (.literal ⟨c, false⟩, rest)
        else
          match controlEscape? c with
          | some control => .ok (.literal ⟨control, false⟩, rest)
          | none =>
            match c with
            | 'A' => .ok (.anchor .textStart, rest)
            | 'z' => .ok (.anchor .textStop, rest)
            | 'b' => do
              let (edge, rest) ← readWordEdge verbose rest
              return (.anchor (.word edge), rest)
            | 'B' => .ok (.anchor (.word .notBoundary), rest)
            | '<' => .ok (.anchor (.word .start), rest)
            | '>' => .ok (.anchor (.word .stop), rest)
            | _ => .error .escape

/-! ## Classes -/

/-- A class that is open: one between brackets with the items that stood before it in the class
around it, or the left side of an operation. -/
inductive ClassFrame where
  | bracket (negated : Bool) (before : List ClassTree)
  | operation (kind : SetOperation) (left : ClassTree)

/-- The items of a class, last first, as one tree. -/
def classOfItems : List ClassTree → ClassTree
  | [] => .empty
  | [item] => item
  | items => .union items.reverse

/-- Applies the operation that waits on the stack, if there is one. -/
def applyOperation (right : ClassTree) : List ClassFrame → ClassTree × List ClassFrame
  | .operation kind left :: stack => (.operation kind left right, stack)
  | stack => (right, stack)

/-- What a class begins with: a caret, hyphens, and a bracket that is meant literally. -/
def readClassOpen (verbose : Bool) (rest : List Char) : Attempt (Read (Bool × List ClassTree)) :=
  let afterCaret :=
    match skip verbose false rest with
    | '^' :: rest => (true, skip verbose false rest)
    | rest => (false, rest)
  let (hyphens, rest) := takeKind verbose (· = '-') false afterCaret.2
  let items := hyphens.map fun c => ClassTree.literal ⟨c, false⟩
  match items, rest with
  | _, [] => .error .unclosedClass
  | [], ']' :: rest =>
    if (skip verbose false rest).isEmpty then .error .unclosedClass
    else .ok ((afterCaret.1, [.literal ⟨']', false⟩]), rest)
  | items, rest => .ok ((afterCaret.1, items), rest)

def asciiClass? (name : String) : Option AsciiClass :=
  match name with
  | "alnum" => some .alnum
  | "alpha" => some .alpha
  | "ascii" => some .ascii
  | "blank" => some .blank
  | "cntrl" => some .cntrl
  | "digit" => some .digit
  | "graph" => some .graph
  | "lower" => some .lower
  | "print" => some .print
  | "punct" => some .punct
  | "space" => some .space
  | "upper" => some .upper
  | "word" => some .word
  | "xdigit" => some .xdigit
  | _ => none

/-- A class named between `[:` and `:]`, if that is what follows the bracket. -/
def readAsciiClass? : List Char → Option (ClassTree × List Char)
  | ':' :: rest =>
    let negated := rest.head? = some '^'
    let rest := if negated then rest.drop 1 else rest
    match cutAt? [':'] rest with
    | some (name, ']' :: rest) =>
      (asciiClass? (String.ofList name)).map fun kind => (.ascii kind negated, rest)
    | _ => none
  | _ => none

/-- One item of a class, not yet known to begin a range. -/
def readClassItem (verbose : Bool) : List Char → Attempt (Read Tree)
  | [] => .error .unclosedClass
  | '\\' :: rest => readEscape verbose rest
  | c :: rest => .ok (.literal ⟨c, false⟩, rest)

def classItem : Tree → Attempt ClassTree
  | .literal literal => .ok (.literal literal)
  | .shorthand kind negated => .ok (.shorthand kind negated)
  | .property name negated => .ok (.property name negated)
  | _ => .error .classItem

def rangeEnd : Tree → Attempt Literal
  | .literal literal => .ok literal
  | _ => .error .classRange

/-- An item or a range of a class.  A hyphen before the closing bracket or another hyphen begins
no range. -/
def readClassRange (verbose : Bool) (rest : List Char) : Attempt (Read ClassTree) := do
  let (first, rest) ← readClassItem verbose rest
  match skip verbose false rest with
  | [] => .error .unclosedClass
  | '-' :: behind =>
    let next := peekBehind verbose behind
    if next = some ']' ∨ next = some '-' then
      return (← classItem first, '-' :: behind)
    else
      match skip verbose false behind with
      | [] => .error .unclosedClass
      | behind =>
        let (last, behind) ← readClassItem verbose behind
        let first ← rangeEnd first
        let last ← rangeEnd last
        if first.char ≤ last.char then return (.range first last, behind)
        else .error .classRange
  | rest => return (← classItem first, rest)

/-- Reads a class from behind its opening.  `items` are those read so far, last first. -/
def readClass (verbose : Bool) :
    Nat → List ClassFrame → List ClassTree → List Char → Attempt (Read Tree)
  | 0, _, _, _ => .error .unclosedClass
  | fuel + 1, stack, items, rest =>
    match skip verbose false rest with
    | [] => .error .unclosedClass
    | '[' :: rest =>
      match readAsciiClass? rest with
      | some (named, rest) => readClass verbose fuel stack (named :: items) rest
      | none => do
        let ((negated, begun), rest) ← readClassOpen verbose rest
        readClass verbose fuel (.bracket negated items :: stack) begun.reverse rest
    | ']' :: rest =>
      let (inner, stack) := applyOperation (classOfItems items) stack
      match stack with
      | [.bracket negated _] => .ok (.bracketed negated inner, rest)
      | .bracket negated before :: stack =>
        readClass verbose fuel stack (.bracketed negated inner :: before) rest
      | _ => .error .unclosedClass
    | '&' :: '&' :: rest =>
      let (left, stack) := applyOperation (classOfItems items) stack
      readClass verbose fuel (.operation .inter left :: stack) [] rest
    | '-' :: '-' :: rest =>
      let (left, stack) := applyOperation (classOfItems items) stack
      readClass verbose fuel (.operation .sdiff left :: stack) [] rest
    | '~' :: '~' :: rest =>
      let (left, stack) := applyOperation (classOfItems items) stack
      readClass verbose fuel (.operation .symmDiff left :: stack) [] rest
    | rest => do
      let (item, rest) ← readClassRange verbose rest
      readClass verbose fuel stack (item :: items) rest

/-! ## Groups and flags -/

def flag? (c : Char) : Option Flag :=
  match c with
  | 'i' => some .ignoreCase
  | 'm' => some .multiLine
  | 's' => some .dotAll
  | 'U' => some .swapGreed
  | 'u' => some .unicode
  | 'R' => some .crlf
  | 'x' => some .verbose
  | _ => none

/-- Flags up to the colon or the parenthesis behind them, which is given back too.  Those behind
a hyphen are turned off. -/
def readFlags (changes : List (Flag × Bool)) (negated : Bool) (hanging : Bool) :
    List Char → Attempt (List (Flag × Bool) × Char × List Char)
  | [] => .error .flags
  | c :: rest =>
    if c = ':' ∨ c = ')' then
      if hanging then .error .flags else .ok (changes.reverse, c, rest)
    else if c = '-' then
      if negated then .error .flags else readFlags changes true true rest
    else
      match flag? c with
      | none => .error .flags
      | some flag =>
        if changes.any (·.1 = flag) then .error .flags
        else readFlags ((flag, !negated) :: changes) negated false rest

/-- What a list of flags says of one of them. -/
def flagState? (flag : Flag) (changes : List (Flag × Bool)) : Option Bool :=
  (changes.find? (·.1 = flag)).map (·.2)

def isNameChar (first : Bool) (c : Char) : Bool :=
  if first then c = '_' || isAlphabetic c
  else c = '_' || c = '.' || c = '[' || c = ']' || isAlphanumeric c

/-- The name of a group, up to the angle bracket behind it. -/
def readGroupName (rest : List Char) : Attempt (Read (List Char)) :=
  match cutAt? ['>'] rest with
  | none => .error .groupName
  | some (name, rest) =>
    match name with
    | [] => .error .groupName
    | first :: others =>
      if isNameChar true first && others.all (isNameChar false) then .ok (name, rest)
      else .error .groupName

/-- A group that is open: its kind, and what the group around it held when it began. -/
structure GroupFrame where
  kind : GroupKind
  items : List Tree
  branches : List Tree
  verbose : Bool

/-- What has been read of a pattern: the open groups, innermost first; of the innermost one its
finished branches and the items of the last branch, both last first. -/
structure Reader where
  rest : List Char
  verbose : Bool := false
  captures : Nat := 0
  names : List (List Char) := []
  stack : List GroupFrame := []
  branches : List Tree := []
  items : List Tree := []

namespace Reader

def push (reader : Reader) (item : Tree) (rest : List Char) : Reader :=
  { reader with items := item :: reader.items, rest := rest }

/-- The items of a branch, last first, as one tree. -/
def branchOf : List Tree → Tree
  | [] => .empty
  | [item] => item
  | items => .concat items.reverse

/-- The innermost group's content. -/
def body (reader : Reader) : Tree :=
  match reader.branches with
  | [] => branchOf reader.items
  | branches => .alternation (branchOf reader.items :: branches).reverse

def openGroup (reader : Reader) (kind : GroupKind) (verbose : Bool) (rest : List Char) : Reader :=
  { reader with
    rest := rest, verbose := verbose, items := [], branches := []
    stack := ⟨kind, reader.items, reader.branches, reader.verbose⟩ :: reader.stack }

def openCapture (reader : Reader) (rest : List Char) : Reader :=
  let index := reader.captures + 1
  { reader.openGroup (.capture index) reader.verbose rest with captures := index }

def openNamed (reader : Reader) (rest : List Char) : Attempt Reader := do
  let (name, rest) ← readGroupName rest
  if reader.names.contains name then .error .duplicateGroupName
  else return { reader.openCapture rest with names := name :: reader.names }

/-- What follows an opening parenthesis. -/
def readGroup (reader : Reader) (rest : List Char) : Attempt Reader :=
  match skip reader.verbose false rest with
  | '?' :: '=' :: _ | '?' :: '!' :: _ => .error .lookAround
  | '?' :: '<' :: '=' :: _ | '?' :: '<' :: '!' :: _ => .error .lookAround
  | '?' :: 'P' :: '<' :: rest | '?' :: '<' :: rest => reader.openNamed rest
  | '?' :: rest => do
    let (changes, sign, rest) ← readFlags [] false false rest
    if sign = ')' then
      if changes.isEmpty then .error .nothingToRepeat
      else
        let verbose := (flagState? .verbose changes).getD reader.verbose
        return { reader.push (.flags changes) rest with verbose := verbose }
    else
      let verbose := (flagState? .verbose changes).getD reader.verbose
      return reader.openGroup (.plain changes) verbose rest
  | rest => .ok (reader.openCapture rest)

def closeGroup (reader : Reader) (rest : List Char) : Attempt Reader :=
  match reader.stack with
  | [] => .error .unopenedGroup
  | frame :: stack =>
    .ok { reader with
      rest := rest, verbose := frame.verbose, stack := stack, branches := frame.branches
      items := .group frame.kind reader.body :: frame.items }

/-- Puts the last item under a repetition.  A question mark behind the sign makes it lazy. -/
def repeatLast (reader : Reader) (least : Nat) (most : Option Nat) (rest : List Char) :
    Attempt Reader :=
  match reader.items with
  | [] | .empty :: _ | .flags _ :: _ => .error .nothingToRepeat
  | item :: items =>
    match rest with
    | '?' :: rest =>
      .ok { reader with items := .loop item least most false :: items, rest := rest }
    | rest => .ok { reader with items := .loop item least most true :: items, rest := rest }

/-- What follows an opening brace. -/
def readCounts (reader : Reader) (rest : List Char) : Attempt Reader := do
  let (least, rest) ← readDecimal reader.verbose (skip reader.verbose false rest)
  let finish := fun (least : Nat) (most : Option Nat) (rest : List Char) =>
    match rest with
    | '}' :: rest =>
      if most.any (· < least) then .error .repetition
      else reader.repeatLast least most (skip reader.verbose false rest)
    | _ => .error .repetition
  match rest, least with
  | ',' :: rest, some least =>
    match skip reader.verbose false rest with
    | '}' :: rest => finish least none ('}' :: rest)
    | rest =>
      let (most, rest) ← readDecimal reader.verbose rest
      match most with
      | some most => finish least (some most) rest
      | none => .error .repetition
  | rest, some least => finish least (some least) rest
  | _, none => .error .repetition

/-- Reads one part of a pattern. -/
def step (reader : Reader) : List Char → Attempt Reader
  | [] => .ok { reader with rest := [] }
  | '(' :: rest => reader.readGroup rest
  | ')' :: rest => reader.closeGroup rest
  | '|' :: rest =>
    .ok { reader with
      rest := rest, items := [], branches := branchOf reader.items :: reader.branches }
  | '[' :: rest => do
    let ((negated, begun), behind) ← readClassOpen reader.verbose rest
    let (tree, behind) ←
      readClass reader.verbose (rest.length + 1) [.bracket negated []] begun.reverse behind
    return reader.push tree behind
  | '?' :: rest => reader.repeatLast 0 (some 1) rest
  | '*' :: rest => reader.repeatLast 0 none rest
  | '+' :: rest => reader.repeatLast 1 none rest
  | '{' :: rest =>
    match reader.items with
    | [] | .empty :: _ | .flags _ :: _ => .error .nothingToRepeat
    | _ => reader.readCounts rest
  | '\\' :: rest => do
    let (item, rest) ← readEscape reader.verbose rest
    return reader.push item rest
  | '.' :: rest => .ok (reader.push .dot rest)
  | '^' :: rest => .ok (reader.push (.anchor .lineStart) rest)
  | '$' :: rest => .ok (reader.push (.anchor .lineStop) rest)
  | c :: rest => .ok (reader.push (.literal ⟨c, false⟩) rest)

def run : Nat → Reader → Attempt Reader
  | 0, reader => .ok reader
  | fuel + 1, reader =>
    match skip reader.verbose false reader.rest with
    | [] => .ok reader
    | rest => do run fuel (← reader.step rest)

end Reader

/-- The tree of a pattern. -/
def Tree.parse (pattern : List Char) : Attempt Tree := do
  let reader ← Reader.run (pattern.length + 1) { rest := pattern }
  if !reader.stack.isEmpty then .error .unclosedGroup
  else if Tree.depthLimit < reader.body.depth then .error .tooDeep
  else return reader.body

end PackageDoc.Regex
