import PackageDoc.Text.Pieces

/-! # Log filters

A filter says which notices are shown.  Its directives stand between commas; each sets a level for
the targets with a given beginning, and the directive that says most about a notice decides. -/
set_option autoImplicit false

namespace PackageDoc.Console
open PackageDoc.Text

/-- How much is shown. -/
inductive LogLevel where
  | off
  | error
  | warn
  | info
  | debug
  | trace
  deriving DecidableEq, Repr

namespace LogLevel

def rank : LogLevel → Nat
  | .off => 0
  | .error => 1
  | .warn => 2
  | .info => 3
  | .debug => 4
  | .trace => 5

def name : LogLevel → String
  | .off => "off"
  | .error => "error"
  | .warn => "warn"
  | .info => "info"
  | .debug => "debug"
  | .trace => "trace"

def all : List LogLevel := [.off, .error, .warn, .info, .debug, .trace]

/-- The value of decimal digits, which a plus sign may precede. -/
def decimal? (text : List Char) : Option Nat :=
  let digits := if text.head? = some '+' then text.drop 1 else text
  if digits.isEmpty ∨ !digits.all Char.isDigit then none
  else some (digits.foldl (fun value c => 10 * value + (c.toNat - '0'.toNat)) 0)

/-- A level is given by its rank or by its name, in small or capital letters. -/
def parse? (text : List Char) : Option LogLevel :=
  let rank := decimal? text
  let name := String.ofList (text.map Char.toLower)
  all.find? fun level => rank = some level.rank ∨ level.name = name

/-- The level behind an equals sign; without a level there everything is shown. -/
def parseSet? (text : List Char) : Option LogLevel :=
  if text.isEmpty then some .trace else parse? text

end LogLevel

/-- One directive of a filter. -/
structure LogDirective where
  /-- How the targets begin. -/
  target : List Char := []
  /-- The fields that a notice must have. -/
  fields : List (List Char) := []
  /-- Whether it asks for more than a notice outside any span has. -/
  spanOnly : Bool := false
  level : LogLevel := .trace
  deriving DecidableEq, Repr

namespace LogDirective

/-- Puts a field of a directive to the others.  A value that is asked for is only found in spans. -/
def addField? (directive : LogDirective) (field : List Char) : Option LogDirective :=
  if field.isEmpty then none
  else some { directive with
    fields := directive.fields ++ [field.takeWhile (· ≠ '=')]
    spanOnly := directive.spanOnly || field.contains '=' }

/-- The end of a directive behind its target: nothing, or a level behind an equals sign. -/
def parseEnd? (directive : LogDirective) : List Char → Option LogDirective
  | [] => some directive
  | '=' :: level => (LogLevel.parseSet? level).map fun level => { directive with level := level }
  | _ => none

/-- A span between brackets, which may have a field between braces, and the end of the directive. -/
def parseSpan? (directive : LogDirective) (text : List Char) : Option LogDirective :=
  let span := text.takeWhile fun c => c ≠ ']' ∧ c ≠ '{'
  match text.drop span.length with
  | ']' :: rest => parseEnd? { directive with spanOnly := true } rest
  | '{' :: inside =>
    let field := inside.takeWhile (· ≠ '}')
    match inside.drop field.length with
    | '}' :: ']' :: rest => do
      parseEnd? (← addField? { directive with spanOnly := !span.isEmpty } field) rest
    | _ => none
  | _ => none

/-- Whether a directive may begin with a character. -/
def isOpening (c : Char) : Bool :=
  c = '-' ∨ c = ':' ∨ c = '_' ∨ c.isAlphanum ∨ '\x7f' < c

/-- A level, a target, a target with its level, or one with a span. -/
def parse? (text : List Char) : Option LogDirective :=
  let name := text.takeWhile fun c => c ≠ '=' ∧ c ≠ '['
  match name.dropWhile (· = ' '), text.drop name.length with
  | [], '[' :: rest => parseSpan? {} rest
  | [], _ => none
  | c :: _, rest =>
    if !isOpening c then none
    else
      match rest with
      | [] => some (match LogLevel.parse? name with
          | some level => { level := level }
          | none => { target := name })
      | '[' :: rest => parseSpan? { target := name } rest
      | rest => parseEnd? { target := name } rest

/-- Whether a directive speaks of notices with a target and fields. -/
def concerns (directive : LogDirective) (target : List Char) (fields : List (List Char)) : Bool :=
  !directive.spanOnly && directive.target.isPrefixOf target &&
    directive.fields.all fields.contains

/-- Whether a directive says no more than another one. -/
def yields (directive other : LogDirective) : Bool :=
  directive.target.length < other.target.length ∨
    (directive.target.length = other.target.length ∧
      directive.fields.length ≤ other.fields.length)

end LogDirective

abbrev LogFilter := List LogDirective

namespace LogFilter

/-- The filter that a text stands for.  An empty one shows errors only. -/
def parse? (text : List Char) : Option LogFilter :=
  match (pieces ',' text).filter (!·.isEmpty) with
  | [] => some [{ level := .error }]
  | directives => directives.mapM LogDirective.parse?

/-- The filter of a run: the one that is asked for, or the one for a level. -/
def choose (asked : Option String) (level : LogLevel) : LogFilter :=
  (asked.bind fun text => parse? text.toList).getD [{ level := level }]

/-- The directive that decides on notices with a target and fields; of equals the last. -/
def decisive? (filter : LogFilter) (target : List Char) (fields : List (List Char)) :
    Option LogDirective :=
  (filter.filter (·.concerns target fields)).foldl (fun best directive =>
    match best with
    | none => some directive
    | some chosen => if chosen.yields directive then some directive else some chosen) none

/-- Whether a notice is shown. -/
def shows (filter : LogFilter) (level : LogLevel) (target : String) (fields : List String) :
    Bool :=
  match filter.decisive? target.toList (fields.map String.toList) with
  | some directive => level.rank ≤ directive.level.rank
  | none => false

end LogFilter
end PackageDoc.Console
