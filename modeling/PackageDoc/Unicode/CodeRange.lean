/-! # Ranges of code points

A property of characters is a list of closed ranges of code points.  Short lists are written out;
long ones are kept as text and read by `CodeRange.readTable`. -/
set_option autoImplicit false

namespace PackageDoc.Unicode

/-- The code points from `first` to `last`, both included. -/
structure CodeRange where
  first : Nat
  last : Nat
  deriving DecidableEq, Repr

namespace CodeRange

def contains (range : CodeRange) (code : Nat) : Bool :=
  range.first ≤ code && code ≤ range.last

end CodeRange

/-- Whether some range of the list holds the code point. -/
def covers (ranges : List CodeRange) (code : Nat) : Bool :=
  ranges.any (·.contains code)

/-! ## Tables as text

The ranges of a table ascend.  Each is written as the number of code points skipped since the end
of the one before, followed by `+` and the number of further code points if it holds more than one.
All numbers are hexadecimal with capital digits. -/

namespace CodeRange

/-- What has been read of a table: the ranges, last first, the code point after the last of them,
and the numbers of the range being read. -/
structure TableReader where
  ranges : List CodeRange := []
  next : Nat := 0
  skipped : Nat := 0
  further : Nat := 0
  afterPlus : Bool := false

def hexValue (c : Char) : Nat :=
  if c.isDigit then c.toNat - '0'.toNat else c.toNat - 'A'.toNat + 10

/-- Ends the range being read. -/
def TableReader.close (reader : TableReader) : TableReader :=
  let first := reader.next + reader.skipped
  let last := first + reader.further
  { ranges := ⟨first, last⟩ :: reader.ranges, next := last + 1 }

def TableReader.push (reader : TableReader) (c : Char) : TableReader :=
  if c = ' ' then reader.close
  else if c = '+' then { reader with afterPlus := true }
  else if reader.afterPlus then { reader with further := reader.further * 16 + hexValue c }
  else { reader with skipped := reader.skipped * 16 + hexValue c }

/-- The ranges of a table, ascending.  Blanks and the ends of rows separate them. -/
def readTable (rows : List String) : List CodeRange :=
  let read := rows.foldl (fun (reader : TableReader) row =>
    (row.toList.foldl TableReader.push reader).close) {}
  read.ranges.reverse

end CodeRange
end PackageDoc.Unicode
