import PackageDoc.Text.Line
import PackageDoc.Unicode.WhiteSpace

/-! # Package declarations

A declaration line is optional indentation, the keyword, a name and a semicolon.  Rewriting a
template for a package replaces the content of its first declaration line and keeps everything
else. -/
set_option autoImplicit false

namespace PackageDoc.Declaration
open PackageDoc.Text PackageDoc.Unicode

def keyword : List Char := ['p', 'a', 'c', 'k', 'a', 'g', 'e']

/-- Blanks separate the parts of a declaration: spaces and tabs. -/
def isBlank (c : Char) : Bool := c = ' ' || c = '\t'

def trimEndBlanks (text : List Char) : List Char := (text.reverse.dropWhile isBlank).reverse

/-- What follows a given text, if it stands in front. -/
def afterKeyword? : List Char → List Char → Option (List Char)
  | [], rest => some rest
  | _ :: _, [] => none
  | expected :: more, c :: rest => if expected = c then afterKeyword? more rest else none

/-- The text before and after the first semicolon. -/
def splitAtSemicolon? : List Char → Option (List Char × List Char)
  | [] => none
  | c :: rest =>
    if c = ';' then some ([], rest)
    else (splitAtSemicolon? rest).map fun (before, behind) => (c :: before, behind)

/-- The name that a line declares, if the line is a declaration and nothing else. -/
def parseLine? (line : List Char) : Option (List Char) := do
  let rest ← afterKeyword? keyword (line.dropWhile isBlank)
  guard (rest.head?.any isBlank)
  let (before, behind) ← splitAtSemicolon? (rest.dropWhile isBlank)
  let name := trimEndBlanks before
  guard (!name.isEmpty && !name.any isWhiteSpace)
  guard (behind.all isBlank)
  return name

/-- The declaration of a package.  The root package has none. -/
def render (package : List Char) : List Char :=
  if package.isEmpty then [] else keyword ++ ' ' :: package ++ [';']

def isDeclaration (line : Line) : Bool := (parseLine? line.content).isSome

/-- Replaces the content of the first declaration line. -/
def rewriteLines (package : List Char) : List Line → List Line
  | [] => []
  | line :: rest =>
    if isDeclaration line then { line with content := render package } :: rest
    else line :: rewriteLines package rest

/-- A template with its first declaration line rewritten for a package. -/
def rewrite (template package : String) : String :=
  String.ofList (unlines (rewriteLines package.toList (lines template.toList)))

/-- A range of byte offsets, without its end. -/
structure ByteRange where
  start : Nat
  stop : Nat
  deriving DecidableEq, Repr

/-- Where the first declaration line stands among lines that begin at a byte offset. -/
def findFrom (offset : Nat) : List Line → Option ByteRange
  | [] => none
  | line :: rest =>
    if isDeclaration line then some ⟨offset, offset + byteLength line.content⟩
    else findFrom (offset + byteLength line.text) rest

/-- The bytes of the first declaration line without its terminator. -/
def find? (template : String) : Option ByteRange := findFrom 0 (lines template.toList)

end PackageDoc.Declaration
