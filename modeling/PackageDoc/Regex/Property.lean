import PackageDoc.Regex.CharSet
import PackageDoc.Regex.Tree
import PackageDoc.Unicode.Age
import PackageDoc.Unicode.Break
import PackageDoc.Unicode.Script
import PackageDoc.Unicode.WhiteSpace
import PackageDoc.Unicode.Word

/-! # The classes with a name

The sets behind properties, shorthands and the ASCII classes.  A property either
holds or does not, or it has values: the category, the scripts, the age and the breaks. -/
set_option autoImplicit false

namespace PackageDoc.Regex
open PackageDoc.Unicode

def anyRanges : CharSet := [⟨0, CharSet.lastCode⟩]

/-- The categories, with the three sets that count as such. -/
def categorySet? (name : String) : Option CharSet :=
  match name with
  | "any" => some anyRanges
  | "assigned" => some (CharSet.complement categoryCn.ranges)
  | "ascii" => some [⟨0, 0x7F⟩]
  | name => categoryRanges? name

/-- A property by its name alone: binary properties come first, then categories, then scripts. -/
def namedSet? (name : String) : Option CharSet :=
  (binaryRanges? name).or ((categorySet? name).or (scriptRanges? name))

/-- A property with one of its values. -/
def valuedSet? (name value : String) : Option CharSet :=
  match name with
  | "gc" | "generalcategory" | "category" => categorySet? value
  | "sc" | "script" => scriptRanges? value
  | "scx" | "scriptextensions" => scriptExtensionRanges? value
  | "age" => ageRanges? value
  | "gcb" | "graphemeclusterbreak" => PropertyTable.find? graphemeBreakTables value
  | "wb" | "wordbreak" => PropertyTable.find? wordBreakTables value
  | "sb" | "sentencebreak" => PropertyTable.find? sentenceBreakTables value
  | _ => none

def propertySet? : PropertyName → Option CharSet
  | .named name => namedSet? (String.ofList (comparedName name))
  | .valued name value =>
    valuedSet? (String.ofList (comparedName name)) (String.ofList (comparedName value))

/-- A shorthand over all characters. -/
def Shorthand.set : Shorthand → CharSet
  | .digit => decimalDigitRanges
  | .space => whiteSpaceRanges
  | .word => wordRanges

/-- A shorthand over ASCII. -/
def Shorthand.asciiSet : Shorthand → CharSet
  | .digit => [⟨0x30, 0x39⟩]
  | .space => [⟨0x09, 0x0D⟩, ⟨0x20, 0x20⟩]
  | .word => [⟨0x30, 0x39⟩, ⟨0x41, 0x5A⟩, ⟨0x5F, 0x5F⟩, ⟨0x61, 0x7A⟩]

def AsciiClass.set : AsciiClass → CharSet
  | .alnum => [⟨0x30, 0x39⟩, ⟨0x41, 0x5A⟩, ⟨0x61, 0x7A⟩]
  | .alpha => [⟨0x41, 0x5A⟩, ⟨0x61, 0x7A⟩]
  | .ascii => [⟨0, 0x7F⟩]
  | .blank => [⟨0x09, 0x09⟩, ⟨0x20, 0x20⟩]
  | .cntrl => [⟨0, 0x1F⟩, ⟨0x7F, 0x7F⟩]
  | .digit => [⟨0x30, 0x39⟩]
  | .graph => [⟨0x21, 0x7E⟩]
  | .lower => [⟨0x61, 0x7A⟩]
  | .print => [⟨0x20, 0x7E⟩]
  | .punct => [⟨0x21, 0x2F⟩, ⟨0x3A, 0x40⟩, ⟨0x5B, 0x60⟩, ⟨0x7B, 0x7E⟩]
  | .space => [⟨0x09, 0x0D⟩, ⟨0x20, 0x20⟩]
  | .upper => [⟨0x41, 0x5A⟩]
  | .word => [⟨0x30, 0x39⟩, ⟨0x41, 0x5A⟩, ⟨0x5F, 0x5F⟩, ⟨0x61, 0x7A⟩]
  | .xdigit => [⟨0x30, 0x39⟩, ⟨0x41, 0x46⟩, ⟨0x61, 0x66⟩]

/-- Whether a character counts as part of a word. -/
def isWordChar (unicode : Bool) (c : Char) : Bool :=
  if unicode then covers wordRanges c.toNat else covers (Shorthand.asciiSet .word) c.toNat

end PackageDoc.Regex
