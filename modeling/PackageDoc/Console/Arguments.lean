import PackageDoc.Disk.Path

/-! # Arguments

The arguments are read on two levels: those in front of the command and those behind it.  Each level
knows its own switches and options; some of them are known on both, and then the value behind the
command wins. -/
set_option autoImplicit false

namespace PackageDoc.Console

/-- How a result is written. -/
inductive Format where
  | text
  | json
  deriving DecidableEq, Repr

inductive Command where
  | init
  | generate (dryRun generate inline : Bool) (format : Format)
  | check (showDiff : Bool) (format : Format)
  | list
  deriving DecidableEq, Repr

/-- What all commands are told. -/
structure Setting where
  root : Option Path := none
  verbose : Bool := false
  plain : Bool := false
  deriving DecidableEq, Repr

/-- What the arguments ask for. -/
inductive Request where
  | run (setting : Setting) (command : Option Command)
  | help
  | version
  deriving DecidableEq, Repr

/-! ## Names -/

/-- An argument that has no value. -/
inductive Switch where
  | verbose
  | plain
  | help
  | version
  | dryRun
  | noGenerate
  | noInline
  | diff
  deriving DecidableEq, Repr

namespace Switch

def name : Switch → String
  | .verbose => "verbose"
  | .plain => "no-color"
  | .help => "help"
  | .version => "version"
  | .dryRun => "dry-run"
  | .noGenerate => "no-generate"
  | .noInline => "no-inline"
  | .diff => "diff"

def letter? : Switch → Option Char
  | .verbose => some 'v'
  | .help => some 'h'
  | .version => some 'V'
  | _ => none

end Switch

/-- An argument that has a value. -/
inductive Choice where
  | path
  | format
  deriving DecidableEq, Repr

namespace Choice

def name : Choice → String
  | .path => "path"
  | .format => "format"

def letter? : Choice → Option Char
  | .path => some 'p'
  | .format => none

end Choice

/-- The names that are known on a level. -/
structure Vocabulary where
  switches : List Switch
  choices : List Choice

namespace Vocabulary

/-- The names on every level, and some more. -/
def common (switches : List Switch) (choices : List Choice) : Vocabulary :=
  ⟨[.verbose, .plain, .help] ++ switches, .path :: choices⟩

def top : Vocabulary := common [.version] []

end Vocabulary

/-! ## One level -/

/-- What was given on a level. -/
structure Given where
  switches : List Switch := []
  path : Option Path := none
  format : Option Format := none
  deriving DecidableEq, Repr

/-- Why reading stops early. -/
inductive Halt where
  | refused
  | help
  | version
  deriving DecidableEq, Repr

def Format.parse? : String → Option Format
  | "text" => some .text
  | "json" => some .json
  | _ => none

namespace Given

/-- Takes a switch, which may be given once. -/
def take (given : Given) (switch : Switch) : Except Halt Given :=
  match switch with
  | .help => .error .help
  | .version => .error .version
  | _ =>
    if given.switches.contains switch then .error .refused
    else .ok { given with switches := switch :: given.switches }

/-- Takes a value, which may be given once and may not be empty. -/
def set (given : Given) (choice : Choice) (value : String) : Except Halt Given :=
  match choice with
  | .path =>
    if given.path.isSome ∨ value.isEmpty then .error .refused
    else .ok { given with path := some (Path.ofString value) }
  | .format =>
    match given.format, Format.parse? value with
    | none, some format => .ok { given with format := some format }
    | _, _ => .error .refused

end Given

namespace Vocabulary

/-- Reads a cluster of letters.  What stands behind the letter of an option is its value, without an
equals sign in front; if there is nothing, the option still waits for its value. -/
def readLetters (vocabulary : Vocabulary) :
    List Char → Given → Except Halt (Given × Option Choice)
  | [], given => .ok (given, none)
  | letter :: rest, given =>
    match vocabulary.switches.find? (·.letter? = some letter) with
    | some switch => do readLetters vocabulary rest (← given.take switch)
    | none =>
      match vocabulary.choices.find? (·.letter? = some letter) with
      | none => .error .refused
      | some choice =>
        match rest with
        | [] => .ok (given, some choice)
        | '=' :: value => do return (← given.set choice (String.ofList value), none)
        | value => do return (← given.set choice (String.ofList value), none)

/-- Reads a name, which may have a value behind an equals sign. -/
def readName (vocabulary : Vocabulary) (text : List Char) (given : Given) :
    Except Halt (Given × Option Choice) :=
  let name := String.ofList (text.takeWhile (· ≠ '='))
  let value := text.dropWhile (· ≠ '=')
  match vocabulary.switches.find? (·.name = name) with
  | some switch =>
    if value.isEmpty then do return (← given.take switch, none) else .error .refused
  | none =>
    match vocabulary.choices.find? (·.name = name), value with
    | none, _ => .error .refused
    | some choice, [] => .ok (given, some choice)
    | some choice, _ :: value => do return (← given.set choice (String.ofList value), none)

/-- Whether an argument may be the value of the option in front of it. -/
def isValue (argument : String) : Bool :=
  argument = "-" || argument.toList.head? ≠ some '-'

/-- Reads what stands behind the first dash of an argument. -/
def readOption (vocabulary : Vocabulary) (c : Char) (letters : List Char) (given : Given) :
    Except Halt (Given × Option Choice) :=
  if c = '-' then vocabulary.readName letters given
  else vocabulary.readLetters (c :: letters) given

/-- Reads up to the first word that belongs to no option; the word and what follows are left.
Nothing but options can be ended by two dashes, so no word may stand behind them. -/
def read (vocabulary : Vocabulary) :
    List String → Given → Except Halt (Given × List String)
  | [], given => .ok (given, [])
  | argument :: rest, given =>
    match argument.toList with
    | ['-', '-'] => if rest.isEmpty then .ok (given, []) else .error .refused
    | '-' :: c :: letters =>
      match vocabulary.readOption c letters given with
      | .error halt => .error halt
      | .ok (given, none) => read vocabulary rest given
      | .ok (given, some choice) =>
        match rest with
        | [] => .error .refused
        | value :: rest =>
          if isValue value then
            match given.set choice value with
            | .error halt => .error halt
            | .ok given => read vocabulary rest given
          else .error .refused
    | _ => .ok (given, argument :: rest)

end Vocabulary

/-! ## Commands -/

/-- A command with its vocabulary and its meaning. -/
structure CommandForm where
  name : String
  vocabulary : Vocabulary
  command : Given → Command

def Given.has (given : Given) (switch : Switch) : Bool := given.switches.contains switch

def commandForms : List CommandForm :=
  [⟨"init", .common [] [], fun _ => .init⟩,
    ⟨"generate", .common [.dryRun, .noGenerate, .noInline] [.format], fun given =>
      .generate (given.has .dryRun) (!given.has .noGenerate) (!given.has .noInline)
        (given.format.getD .text)⟩,
    ⟨"check", .common [.diff] [.format], fun given =>
      .check (given.has .diff) (given.format.getD .text)⟩,
    ⟨"list", .common [] [], fun _ => .list⟩]

/-- What both levels say together. -/
def Setting.ofGiven (front behind : Given) : Setting :=
  { root := behind.path <|> front.path
    verbose := front.has .verbose || behind.has .verbose
    plain := front.has .plain || behind.has .plain }

def helpWord : String := "help"

/-- Whether the words behind `help` name a command, or nothing. -/
def namesCommand : List String → Bool
  | [] => true
  | word :: _ => word = helpWord || commandForms.any (·.name = word)

/-- Reads the command, its options and nothing else. -/
def readCommand (front : Given) : List String → Except Halt Request
  | [] => .ok (.run (.ofGiven front {}) none)
  | word :: rest =>
    if word = helpWord then .error (if namesCommand rest then .help else .refused)
    else
      match commandForms.find? (·.name = word) with
      | none => .error .refused
      | some form => do
        match ← form.vocabulary.read rest {} with
        | (behind, []) => .ok (.run (.ofGiven front behind) (some (form.command behind)))
        | _ => .error .refused

/-- What the arguments ask for, unless they are refused. -/
def Request.parse? (arguments : List String) : Option Request :=
  let request := do
    let (front, rest) ← Vocabulary.top.read arguments {}
    readCommand front rest
  match request with
  | .ok request => some request
  | .error .help => some .help
  | .error .version => some .version
  | .error .refused => none

end PackageDoc.Console
