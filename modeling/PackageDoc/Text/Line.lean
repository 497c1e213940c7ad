/-! # Lines

A line ends at a line feed or at the end of the text.  Its terminator is the line feed, if there is
one, together with one carriage return right before it or before the end of the text. -/
set_option autoImplicit false

namespace PackageDoc.Text

/-- The number of bytes of the UTF-8 form of a text. -/
def byteLength : List Char → Nat
  | [] => 0
  | c :: rest => c.utf8Size + byteLength rest

structure Line where
  content : List Char
  terminator : List Char
  deriving DecidableEq, Repr

namespace Line

def text (line : Line) : List Char := line.content ++ line.terminator

/-- Puts one more character in front of a line; a carriage return that meets the terminator joins
it. -/
def cons (c : Char) (line : Line) : Line :=
  if c = '\r' ∧ line.content = [] ∧ (line.terminator = [] ∨ line.terminator = ['\n']) then
    ⟨[], c :: line.terminator⟩
  else ⟨c :: line.content, line.terminator⟩

theorem text_cons (c : Char) (line : Line) : (line.cons c).text = c :: line.text := by
  unfold cons
  split
  next absorbed => simp [text, absorbed.2.1]
  next => simp [text]

end Line

/-- The lines of a text.  The empty text has none, and nothing follows a final line feed. -/
def lines : List Char → List Line
  | [] => []
  | c :: rest =>
    if c = '\n' then ⟨[], ['\n']⟩ :: lines rest
    else
      match lines rest with
      | [] => [Line.cons c ⟨[], []⟩]
      | line :: others => line.cons c :: others

/-- The text that consists of the given lines. -/
def unlines (rows : List Line) : List Char := rows.flatMap Line.text

theorem unlines_lines (source : List Char) : unlines (lines source) = source := by
  induction source with
  | nil => simp [lines, unlines]
  | cons c rest ih =>
    simp only [lines]
    split
    next feed => subst feed; simpa [unlines, Line.text] using ih
    next =>
      split
      next last =>
        rw [last] at ih
        have empty : rest = [] := by simpa [unlines] using ih.symm
        have single := Line.text_cons c ⟨[], []⟩
        simpa [unlines, empty, Line.text] using single
      next line others found =>
        rw [found] at ih
        simpa [unlines, Line.text_cons] using ih

end PackageDoc.Text
