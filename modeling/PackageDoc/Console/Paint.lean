/-! # Painted text -/
set_option autoImplicit false

namespace PackageDoc.Console

inductive Paint where
  | red
  | green
  | yellow
  | bold
  deriving DecidableEq, Repr

namespace Paint

/-- The number that turns the paint on, and the one that turns it off again. -/
def codes : Paint → Nat × Nat
  | .red => (31, 39)
  | .green => (32, 39)
  | .yellow => (33, 39)
  | .bold => (1, 0)

/-- The control sequence of a number. -/
def control (code : Nat) : String := "\x1b[" ++ toString code ++ "m"

/-- The number that turns all paint off. -/
def plainCode : Nat := 0

/-- The text between the two control sequences, or the plain text on a screen without colour. -/
def apply (paint : Paint) (coloured : Bool) (text : String) : String :=
  if coloured then control paint.codes.1 ++ text ++ control paint.codes.2 else text

/-- The text in paint, behind which all paint is off. -/
def applyAlone (paint : Paint) (coloured : Bool) (text : String) : String :=
  if coloured then control paint.codes.1 ++ text ++ control plainCode else text

end Paint
end PackageDoc.Console
