import PackageDoc.Text.Pieces
import PackageDoc.Unicode.Case

/-! # Package globs

A glob and a package name are both read as segments between dots.  `**` stands for any number of
segments; every other segment of the glob stands for one segment of the name, where `*` takes any
run of characters and `?` takes one.  The root package is the empty name. -/
set_option autoImplicit false

namespace PackageDoc.Glob
open PackageDoc.Text PackageDoc.Unicode

abbrev Segment := List Char

def separator : Char := '.'

def anyDepth : Segment := ['*', '*']

/-! ## Segments -/

/-- Drops each `**` that follows another one. -/
def collapse : List Segment → List Segment
  | [] => []
  | segment :: rest =>
    match collapse rest with
    | [] => [segment]
    | next :: others =>
      if segment = anyDepth ∧ next = anyDepth then next :: others else segment :: next :: others

/-- The non-empty segments of a dotted text, with runs of `**` collapsed. -/
def segments (text : List Char) : List Segment :=
  collapse ((pieces separator text).filter fun segment => !segment.isEmpty)

/-- The segments of a glob.  A final dot stands for `.**`. -/
def globSegments (glob : List Char) : List Segment :=
  let found := segments glob
  if glob.getLast? = some separator ∧ found.getLast? ≠ some anyDepth then found ++ [anyDepth]
  else found

/-! ## One segment

The scan compares character by character and stops at a star that is not itself the next character
of the text.  A star is resumed one character further along whenever the scan after it gets
stuck, and an earlier star is never resumed again. -/

inductive Scan where
  /-- The text is used up; the flag says whether only stars are left of the wildcard. -/
  | ended (onlyStars : Bool)
  /-- A star was met: the wildcard after it and the text at it. -/
  | star (wildcard text : List Char)
  | stuck
  deriving DecidableEq, Repr

def scan : List Char → List Char → Scan
  | wildcard, [] => .ended (wildcard.all (· = '*'))
  | [], _ :: _ => .stuck
  | sign :: wildcard, c :: text =>
    if sign = '?' ∨ sign = c then scan wildcard text
    else if sign = '*' then .star wildcard (c :: text)
    else .stuck

/-- Scans on behind a star, which so far takes everything before `text`.  Each round shortens the
wildcard or the text, so their joint length is fuel enough. -/
def scanBehindStar : Nat → List Char → List Char → Bool
  | 0, _, _ => false
  | fuel + 1, wildcard, text =>
    match scan wildcard text with
    | .ended onlyStars => onlyStars
    | .star wildcard text => scanBehindStar fuel wildcard text
    | .stuck =>
      match text with
      | [] => false
      | _ :: text => scanBehindStar fuel wildcard text

/-- Whether a wildcard segment takes a segment of a name. -/
def takes (wildcard text : List Char) : Bool :=
  match scan wildcard text with
  | .ended onlyStars => onlyStars
  | .star wildcard text => scanBehindStar (wildcard.length + text.length + 1) wildcard text
  | .stuck => false

/-- The characters that are compared: as written, or their lowercase expansions. -/
def compared (caseSensitive : Bool) (segment : Segment) : List Char :=
  if caseSensitive then segment else lowercaseAll segment

def segmentAccepts (caseSensitive : Bool) (segment name : Segment) : Bool :=
  takes (compared caseSensitive segment) (compared caseSensitive name)

/-! ## All segments -/

def acceptsSegments (caseSensitive : Bool) : List Segment → List Segment → Bool
  | [], names => names.isEmpty
  | segment :: glob, names =>
    if segment = anyDepth then
      (List.range (names.length + 1)).any fun skipped =>
        acceptsSegments caseSensitive glob (names.drop skipped)
    else
      match names with
      | [] => false
      | name :: names =>
        segmentAccepts caseSensitive segment name && acceptsSegments caseSensitive glob names

/-- Whether a glob accepts a package name. -/
def accepts (glob package : String) (caseSensitive : Bool) : Bool :=
  acceptsSegments caseSensitive (globSegments glob.toList) (segments package.toList)

end PackageDoc.Glob
