import PackageDoc.Unicode.CodeRange

/-! # Named tables

A property value with the names that select it, and the names in their compared form. -/
set_option autoImplicit false

namespace PackageDoc.Unicode

structure PropertyTable where
  /-- The names, in compared form. -/
  names : List String
  rows : List String

namespace PropertyTable

def ranges (entry : PropertyTable) : List CodeRange := CodeRange.readTable entry.rows

def find? (tables : List PropertyTable) (name : String) : Option (List CodeRange) :=
  (tables.find? (·.names.contains name)).map ranges

end PropertyTable

/-- The compared form of a name: no blanks, hyphens, underscores or characters beyond ASCII, small
letters, and no leading `is`.  A name of which only `c` is left behind an `is` was `isc`. -/
def comparedName (name : List Char) : List Char :=
  let small := fun (text : List Char) =>
    (text.filter fun c => !(c = ' ' || c = '_' || c = '-') && c.toNat ≤ 0x7F).map Char.toLower
  match name with
  | first :: second :: rest =>
    if (first = 'i' ∨ first = 'I') ∧ (second = 's' ∨ second = 'S') then
      if small rest = ['c'] then ['i', 's', 'c'] else small rest
    else small name
  | _ => small name

end PackageDoc.Unicode
