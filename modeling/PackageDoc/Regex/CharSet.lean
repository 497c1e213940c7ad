import PackageDoc.Unicode.Case
import PackageDoc.Unicode.CodeRange

/-! # Sets of characters

A set is a list of ranges; a character belongs to it if some range holds it.  Complements are taken
within all characters, so the surrogates belong to no complement. -/
set_option autoImplicit false

namespace PackageDoc.Regex
open PackageDoc.Unicode

abbrev CharSet := List CodeRange

namespace CharSet

def contains (set : CharSet) (c : Char) : Bool := covers set c.toNat

def single (c : Char) : CharSet := [⟨c.toNat, c.toNat⟩]

def between (first last : Char) : CharSet := [⟨first.toNat, last.toNat⟩]

def ofChars (chars : List Char) : CharSet := chars.flatMap single

/-! ## Canonical form -/

/-- Adds a range to ascending ranges that are apart, joining it with those it touches. -/
def insert (range : CodeRange) : CharSet → CharSet
  | [] => [range]
  | head :: rest =>
    if range.last + 1 < head.first then range :: head :: rest
    else if head.last + 1 < range.first then head :: insert range rest
    else insert ⟨min range.first head.first, max range.last head.last⟩ rest

/-- The same set as ascending ranges that are apart. -/
def canonical (set : CharSet) : CharSet := set.foldr insert []

def surrogates : CodeRange := ⟨0xD800, 0xDFFF⟩

def lastCode : Nat := 0x10FFFF

/-- The gaps between ascending ranges from a code point on. -/
def gapsFrom (next : Nat) : CharSet → CharSet
  | [] => if next ≤ lastCode then [⟨next, lastCode⟩] else []
  | head :: rest =>
    if next < head.first then ⟨next, head.first - 1⟩ :: gapsFrom (head.last + 1) rest
    else gapsFrom (head.last + 1) rest

def complement (set : CharSet) : CharSet := gapsFrom 0 (canonical (surrogates :: set))

/-! ## Operations -/

def inter (left right : CharSet) : CharSet := complement (complement left ++ complement right)

def sdiff (left right : CharSet) : CharSet := complement (complement left ++ right)

def symmDiff (left right : CharSet) : CharSet := sdiff left right ++ sdiff right left

/-- Adds every variant of a member under simple case folding. -/
def foldCase (set : CharSet) : CharSet :=
  let images := foldingPairs.filterMap fun (code, image) =>
    if covers set code || covers set image then some image else none
  let variants := foldingPairs.flatMap fun (code, image) =>
    if images.contains image then [⟨code, code⟩, ⟨image, image⟩] else []
  set ++ variants

/-- Adds the other case of the ASCII letters of a set. -/
def foldAsciiCase (set : CharSet) : CharSet :=
  let letters := (List.range 26).flatMap fun letter =>
    let small : CodeRange := ⟨0x61 + letter, 0x61 + letter⟩
    let capital : CodeRange := ⟨0x41 + letter, 0x41 + letter⟩
    if covers set small.first || covers set capital.first then [small, capital] else []
  set ++ letters

def isAscii (set : CharSet) : Bool := set.all (·.last ≤ 0x7F)

end CharSet
end PackageDoc.Regex
