import PackageDoc.Unicode.Binary
import PackageDoc.Unicode.Category

/-! # Printable characters -/
set_option autoImplicit false

namespace PackageDoc.Unicode

/-- Controls, formats, private and unassigned code points and separators. -/
def unprintableRanges : List CodeRange :=
  categoryCc.ranges ++ categoryCf.ranges ++ categoryCo.ranges ++ categoryCn.ranges ++
    categoryZl.ranges ++ categoryZp.ranges ++ categoryZs.ranges

def graphemeExtendRanges : List CodeRange := graphemeExtendTable.ranges

/-- Whether a character can be shown on its own: of the separators only the plain space, and no
character that joins the one before it. -/
def isPrintable (c : Char) : Bool :=
  c = ' ' || !(covers unprintableRanges c.toNat || covers graphemeExtendRanges c.toNat)

end PackageDoc.Unicode
