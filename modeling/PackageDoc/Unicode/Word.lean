import PackageDoc.Unicode.Binary
import PackageDoc.Unicode.Category

/-! # Letters, digits and word characters -/
set_option autoImplicit false

namespace PackageDoc.Unicode

def alphabeticRanges : List CodeRange := alphabeticTable.ranges

def decimalDigitRanges : List CodeRange := categoryNd.ranges

/-- Decimal digits, letter numbers and other numbers. -/
def numericRanges : List CodeRange :=
  decimalDigitRanges ++ categoryNl.ranges ++ categoryNo.ranges

/-- What a word consists of: alphabetic characters, marks, decimal digits, connector punctuation
and the joining controls. -/
def wordRanges : List CodeRange :=
  alphabeticRanges ++ categoryMn.ranges ++ categoryMc.ranges ++ categoryMe.ranges ++
    decimalDigitRanges ++ categoryPc.ranges ++ joinControlTable.ranges

def isAlphabetic (c : Char) : Bool := covers alphabeticRanges c.toNat

def isAlphanumeric (c : Char) : Bool := isAlphabetic c || covers numericRanges c.toNat

end PackageDoc.Unicode
