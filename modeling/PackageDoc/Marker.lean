import PackageDoc.Regex.Search
import PackageDoc.Text.Quoted

/-! # Marked regions

A marker pattern has three groups: the prefix marker, the body and the suffix marker.  Replacing a
region puts a new body between the markers of the first match and keeps everything else. -/
set_option autoImplicit false

namespace PackageDoc

/-- Why a text is no marker pattern. -/
inductive MarkerFault where
  | refused (reason : Regex.PatternError)
  | groupCount (found : Nat)
  deriving DecidableEq, Repr

/-- A pattern with exactly three groups.  Patterns are compared by how they are written. -/
structure MarkerPattern where
  source : String
  program : Regex.Program

namespace MarkerPattern

/-- A prefix marker, a body and a suffix marker. -/
def groupCount : Nat := 3

def parse (source : String) : Except MarkerFault MarkerPattern :=
  match Regex.compile source with
  | .error reason => .error (.refused reason)
  | .ok program =>
    if program.groups = groupCount then .ok ⟨source, program⟩
    else .error (.groupCount program.groups)

/-- A line comment `<replace>`, the body, and a line comment `</replace>`. -/
def defaultSource : String := "(?s)(\\s*//\\s*<replace>\\s*)(.*?)(\\s*//\\s*</replace>\\s*)"

/-- A program that accepts nothing. -/
def never : Regex.Program := ⟨#[], 0, groupCount⟩

def default : MarkerPattern :=
  ⟨defaultSource, (Regex.compile defaultSource).toOption.getD never⟩

instance : BEq MarkerPattern := ⟨fun left right => left.source == right.source⟩

/-- The pattern as a diagnostic shows it. -/
def render (pattern : MarkerPattern) : String :=
  "MarkerPattern(" ++ Text.quote pattern.source ++ ")"

end MarkerPattern

/-- The outcome of a replacement. -/
structure Replacement where
  content : String
  /-- Whether the region was found. -/
  matched : Bool
  /-- Whether the content is not what it was. -/
  changed : Bool
  deriving DecidableEq, Repr

namespace MarkerPattern

/-- The spans of the three groups, if all take part in the first match. -/
def region? (pattern : MarkerPattern) (source : List Char) :
    Option (Regex.Span × Regex.Span × Regex.Span) := do
  let slots ← pattern.program.search source
  return (← slots.group? 1, ← slots.group? 2, ← slots.group? 3)

/-- Puts a body into the marked region of a text. -/
def replace (pattern : MarkerPattern) (source body : String) : Replacement :=
  match pattern.region? source.toList with
  | none => ⟨source, false, false⟩
  | some (_, existing, _) =>
    let content := String.ofList (existing.replace source.toList body.toList)
    ⟨content, true, content != source⟩

end MarkerPattern
end PackageDoc
