import PackageDoc.Toml.Scalar

/-! # Reading documents

A document is a sequence of lines with headers and keys; arrays and inline tables may go on over
several lines. -/
set_option autoImplicit false

namespace PackageDoc.Toml

abbrev Attempt := Except Fault

/-- What was read and the rest behind it. -/
abbrev Read (α : Type) := α × List Char

/-! ## What does not count -/

def isBlank (c : Char) : Bool := c = ' ' || c = '\t'

def skipBlanks (rest : List Char) : List Char := rest.dropWhile isBlank

/-- The characters that no text may hold: controls other than the tab. -/
def isControl (c : Char) : Bool := (c.toNat < 0x20 && c != '\t') || c.toNat = 0x7F

/-- Skips a comment up to the end of its line. -/
def skipComment : List Char → Attempt (List Char)
  | [] => .ok []
  | '\n' :: rest => .ok ('\n' :: rest)
  | '\r' :: '\n' :: rest => .ok ('\r' :: '\n' :: rest)
  | c :: rest => if isControl c then .error .control else skipComment rest

/-- Skips blanks, a comment and the end of a line. -/
def skipLineEnd (rest : List Char) : Attempt (List Char) := do
  let rest ← match skipBlanks rest with
    | '#' :: rest => skipComment rest
    | rest => .ok rest
  match rest with
  | [] => .ok []
  | '\n' :: rest => .ok rest
  | '\r' :: '\n' :: rest => .ok rest
  | _ => .error .malformed

/-- Skips blanks, line ends and comments.  The flag tells whether a comment is being skipped. -/
def skipVoid (comment : Bool) : List Char → Attempt (List Char)
  | [] => .ok []
  | '\n' :: rest => skipVoid false rest
  | '\r' :: '\n' :: rest => skipVoid false rest
  | c :: rest =>
    if comment then if isControl c then .error .control else skipVoid true rest
    else if isBlank c then skipVoid false rest
    else if c = '#' then skipVoid true rest
    else .ok (c :: rest)

/-! ## Strings -/

def charOf? (code : Nat) : Attempt Char :=
  if code.isValidChar then .ok (Char.ofNat code) else .error .escape

/-- A given number of hexadecimal digits as a character. -/
def readCode (count : Nat) (rest : List Char) : Attempt (Read Char) := do
  let digits := rest.take count
  if digits.length = count && digits.all isHexDigit then
    return (← charOf? (numberValue 16 digits), rest.drop count)
  else .error .escape

/-- What follows a backslash. -/
def readEscape : List Char → Attempt (Read Char)
  | 'b' :: rest => .ok ('\x08', rest)
  | 't' :: rest => .ok ('\t', rest)
  | 'n' :: rest => .ok ('\n', rest)
  | 'f' :: rest => .ok ('\x0C', rest)
  | 'r' :: rest => .ok ('\r', rest)
  | 'e' :: rest => .ok ('\x1B', rest)
  | '"' :: rest => .ok ('"', rest)
  | '\\' :: rest => .ok ('\\', rest)
  | 'x' :: rest => readCode 2 rest
  | 'u' :: rest => readCode 4 rest
  | 'U' :: rest => readCode 8 rest
  | _ => .error .escape

/-- The content of a string up to its closing quote on the same line. -/
def readBasic : Nat → List Char → Attempt (Read (List Char))
  | 0, _ | _, [] => .error .malformed
  | fuel + 1, c :: rest =>
    if c = '"' then .ok ([], rest)
    else if c = '\\' then do
      let (c, rest) ← readEscape rest
      let (content, rest) ← readBasic fuel rest
      return (c :: content, rest)
    else if isControl c then .error .control
    else do
      let (content, rest) ← readBasic fuel rest
      return (c :: content, rest)

def readLiteral : List Char → Attempt (Read (List Char))
  | [] => .error .malformed
  | c :: rest =>
    if c = '\'' then .ok ([], rest)
    else if isControl c then .error .control
    else do
      let (content, rest) ← readLiteral rest
      return (c :: content, rest)

/-- The quotes that belong to a string which ends with a run of quotes: all but the last three, two
at most.  A run of fewer than three ends no string. -/
def closing? (quote : Char) (rest : List Char) : Option (Read (List Char)) :=
  let run := (rest.takeWhile (· = quote)).take 5
  if 3 ≤ run.length then some (run.drop 3, rest.drop run.length) else none

/-- Drops a line end right behind the opening quotes. -/
def dropFirstLineEnd : List Char → List Char
  | '\n' :: rest => rest
  | '\r' :: '\n' :: rest => rest
  | rest => rest

/-- A backslash at the end of a line takes all white space up to the next text. -/
def joinLines? (rest : List Char) : Option (List Char) :=
  match skipBlanks rest with
  | '\n' :: rest => some (rest.dropWhile fun c => isBlank c || c = '\n' || c = '\r')
  | '\r' :: '\n' :: rest => some (rest.dropWhile fun c => isBlank c || c = '\n' || c = '\r')
  | _ => none

/-- A character of a string of several lines; a carriage return stands only before a line feed. -/
def isLineControl (c : Char) (rest : List Char) : Bool :=
  if c = '\n' then false
  else if c = '\r' then rest.head? != some '\n'
  else isControl c

def readLongBasic : Nat → List Char → Attempt (Read (List Char))
  | 0, _ | _, [] => .error .malformed
  | fuel + 1, c :: rest =>
    match closing? '"' (c :: rest) with
    | some found => .ok found
    | none =>
      if c = '\\' then
        match joinLines? rest with
        | some rest => readLongBasic fuel rest
        | none => do
          let (c, rest) ← readEscape rest
          let (content, rest) ← readLongBasic fuel rest
          return (c :: content, rest)
      else if isLineControl c rest then .error .control
      else do
        let (content, rest) ← readLongBasic fuel rest
        return (c :: content, rest)

def readLongLiteral : List Char → Attempt (Read (List Char))
  | [] => .error .malformed
  | c :: rest =>
    match closing? '\'' (c :: rest) with
    | some found => .ok found
    | none =>
      if isLineControl c rest then .error .control
      else do
        let (content, rest) ← readLongLiteral rest
        return (c :: content, rest)

/-! ## Keys -/

def isBareKeyChar (c : Char) : Bool := c.isAlphanum || c = '_' || c = '-'

def readKeyPart (rest : List Char) : Attempt (Read String) :=
  match rest with
  | '"' :: rest => do
    let (content, rest) ← readBasic (rest.length + 1) rest
    return (String.ofList content, rest)
  | '\'' :: rest => do
    let (content, rest) ← readLiteral rest
    return (String.ofList content, rest)
  | rest =>
    let word := rest.takeWhile isBareKeyChar
    if word.isEmpty then .error .malformed
    else .ok (String.ofList word, rest.drop word.length)

/-- The greatest number of parts of a key, and of arrays and tables inside each other. -/
def depthLimit : Nat := 80

/-- The parts of a key: those before the last one, and the last one. -/
def readKey : Nat → List Char → Attempt (Read (List String × String))
  | 0, _ => .error .depth
  | fuel + 1, rest => do
    let (part, rest) ← readKeyPart (skipBlanks rest)
    match skipBlanks rest with
    | '.' :: rest =>
      let ((path, key), rest) ← readKey fuel rest
      return ((part :: path, key), rest)
    | rest => return (([], part), rest)

/-! ## Values -/

/-- The characters at which a word ends. -/
def endsWord (c : Char) : Bool :=
  [' ', '\t', '\n', '\r', ',', '[', ']', '{', '}', '#', '=', '"', '\''].contains c

/-- A word; a date and a time behind it are one word with a blank. -/
def readWord (rest : List Char) : Read (List Char) :=
  let word := rest.takeWhile fun c => !endsWord c
  let behind := rest.drop word.length
  match readDate? word, behind with
  | some [], ' ' :: c :: more =>
    if c.isDigit then
      let time := (c :: more).takeWhile fun c => !endsWord c
      (word ++ ' ' :: time, (c :: more).drop time.length)
    else (word, behind)
  | _, _ => (word, behind)

mutual

/-- A value and what stands behind it.  `depth` is the number of arrays and tables around it. -/
def readValue : Nat → Nat → List Char → Attempt (Read Value)
  | 0, _, _ => .error .malformed
  | fuel + 1, depth, rest =>
    match rest with
    | '"' :: '"' :: '"' :: rest => do
      let (content, rest) ← readLongBasic (rest.length + 1) (dropFirstLineEnd rest)
      return (.text (String.ofList content), rest)
    | '"' :: rest => do
      let (content, rest) ← readBasic (rest.length + 1) rest
      return (.text (String.ofList content), rest)
    | '\'' :: '\'' :: '\'' :: rest => do
      let (content, rest) ← readLongLiteral (dropFirstLineEnd rest)
      return (.text (String.ofList content), rest)
    | '\'' :: rest => do
      let (content, rest) ← readLiteral rest
      return (.text (String.ofList content), rest)
    | '[' :: rest =>
      if depthLimit ≤ depth then .error .depth
      else do
        let (items, rest) ← readItems fuel (depth + 1) rest
        return (.array false items, rest)
    | '{' :: rest =>
      if depthLimit ≤ depth then .error .depth
      else do
        let (entries, rest) ← readPairs fuel (depth + 1) [] rest
        return (.table .inline entries, rest)
    | rest => do
      let (word, rest) := readWord rest
      return (← scalar? word, rest)

/-- The items of an array up to its closing bracket.  A comma may follow the last one. -/
def readItems : Nat → Nat → List Char → Attempt (Read (List Value))
  | 0, _, _ => .error .malformed
  | fuel + 1, depth, rest => do
    match ← skipVoid false rest with
    | ']' :: rest => return ([], rest)
    | rest =>
      let (item, rest) ← readValue fuel depth rest
      match ← skipVoid false rest with
      | ']' :: rest => return ([item], rest)
      | ',' :: rest =>
        let (items, rest) ← readItems fuel depth rest
        return (item :: items, rest)
      | _ => .error .malformed

/-- The pairs of an inline table up to its closing brace, added to those before. -/
def readPairs : Nat → Nat → Entries → List Char → Attempt (Read Entries)
  | 0, _, _, _ => .error .malformed
  | fuel + 1, depth, entries, rest => do
    match ← skipVoid false rest with
    | '}' :: rest => return (entries, rest)
    | rest =>
      let ((path, key), rest) ← readKey depthLimit rest
      match ← skipVoid false rest with
      | '=' :: rest =>
        let (value, rest) ← readValue fuel depth (← skipVoid false rest)
        let entries ← entries.addKey path key value
        match ← skipVoid false rest with
        | '}' :: rest => return (entries, rest)
        | ',' :: rest => readPairs fuel depth entries rest
        | _ => .error .malformed
      | _ => .error .malformed

end

/-! ## Documents -/

/-- What has been read of a document: its tables, and the path of the last header. -/
structure Document where
  entries : Entries := []
  header : List String := []

/-- A header, behind its opening brackets, up to the closing ones. -/
def readHeader (closing : List Char) (rest : List Char) :
    Attempt (Read (List String × String)) := do
  let (key, rest) ← readKey depthLimit rest
  if closing.isPrefixOf rest then return (key, rest.drop closing.length)
  else .error .malformed

/-- Reads one line, or several if a value goes on. -/
def Document.readLine (document : Document) (rest : List Char) : Attempt (Read Document) :=
  match rest with
  | '[' :: '[' :: rest => do
    let ((path, key), rest) ← readHeader [']', ']'] rest
    let entries ← document.entries.openItem path key
    return (⟨entries, path ++ [key]⟩, ← skipLineEnd rest)
  | '[' :: rest => do
    let ((path, key), rest) ← readHeader [']'] rest
    let entries ← document.entries.openTable path key
    return (⟨entries, path ++ [key]⟩, ← skipLineEnd rest)
  | rest => do
    let ((path, key), rest) ← readKey depthLimit rest
    match rest with
    | '=' :: rest =>
      let (value, rest) ← readValue (rest.length + 1) 0 (skipBlanks rest)
      let entries ← document.entries.addBelow document.header path key value
      return ({ document with entries := entries }, ← skipLineEnd rest)
    | _ => .error .malformed

def Document.readLines : Nat → Document → List Char → Attempt Document
  | 0, _, _ => .error .malformed
  | fuel + 1, document, rest => do
    match ← skipVoid false rest with
    | [] => return document
    | rest =>
      let (document, rest) ← document.readLine rest
      readLines fuel document rest

/-- The table of a document.  A byte order mark may stand in front. -/
def parse (text : List Char) : Attempt Entries := do
  let rest := match text with
    | '\uFEFF' :: rest => rest
    | rest => rest
  return (← Document.readLines (rest.length + 1) {} rest).entries

end PackageDoc.Toml
