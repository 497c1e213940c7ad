import PackageDoc.Disk.Resolve
import PackageDoc.Disk.Operation
import PackageDoc.Failure
import PackageDoc.Toml.Parser

/-! # Settings

What a project says about its packages, and where it says so. -/
set_option autoImplicit false

namespace PackageDoc

/-- One package entry as it is written.  What is missing is reported later, with its index. -/
structure PackageEntry where
  pattern : Option String := none
  caseSensitive : Bool := true
  template : Option Path := none
  deriving DecidableEq, Repr

structure Settings where
  /-- Root of the source tree. -/
  sourceDirectory : Path := Path.ofString "src/main/java"
  /-- Root of the tree that receives new files. -/
  outputDirectory : Path := Path.ofString "target/generated-sources/package-info"
  /-- Whether packages without a marker file get one. -/
  generate : Bool := true
  /-- Whether the region of an existing marker file is replaced. -/
  inline : Bool := true
  markerPattern : String := MarkerPattern.defaultSource
  /-- Name of the documentation file of a package. -/
  markerFile : String := "package-info.java"
  /-- Extensions, without the dot, of the files that make a directory a package. -/
  sourceExtensions : List String := ["java"]
  packages : List PackageEntry := []
  deriving DecidableEq, Repr

namespace Toml

/-! ## Reading values of a known shape -/

def Value.asText : Value → Attempt String
  | .text content => .ok content
  | _ => .error .shape

def Value.asBoolean : Value → Attempt Bool
  | .boolean value => .ok value
  | _ => .error .shape

def Value.asPath (value : Value) : Attempt Path := value.asText.map Path.ofString

def Value.asItems : Value → Attempt (List Value)
  | .array _ items => .ok items
  | _ => .error .shape

mutual

/-- Whether a value that nobody asks for can be passed over: its numbers must be in range. -/
def Value.inRange : Value → Bool
  | .integer value => integerFits value
  | .float overflow => !overflow
  | .array _ items => itemsInRange items
  | .table _ entries => entriesInRange entries
  | _ => true

def itemsInRange : List Value → Bool
  | [] => true
  | item :: rest => item.inRange && itemsInRange rest

def entriesInRange : List (String × Value) → Bool
  | [] => true
  | (_, value) :: rest => value.inRange && entriesInRange rest

end

/-- The value of a key, read as its shape asks, or else a default. -/
def Entries.field {α : Type} (entries : Entries) (key : String)
    (read : Value → Attempt α) (default : α) : Attempt α :=
  match entries.get? key with
  | some value => read value
  | none => .ok default

/-- Checks the values of the keys that nobody asks for. -/
def Entries.checkOthers (entries : Entries) (known : List String) : Attempt Unit :=
  if entries.all fun entry => known.contains entry.1 || entry.2.inRange then .ok ()
  else .error .range

end Toml

open Toml

namespace PackageEntry

def ofTable (entries : Entries) : Toml.Attempt PackageEntry := do
  entries.checkOthers ["pattern", "case_sensitive", "template"]
  return {
    pattern := ← entries.field "pattern" (fun value => value.asText.map some) none
    caseSensitive := ← entries.field "case_sensitive" Value.asBoolean true
    template := ← entries.field "template" (fun value => value.asPath.map some) none }

/-- An entry may also be written as an array of its fields in order. -/
def ofItems (items : List Value) : Toml.Attempt PackageEntry := do
  return {
    pattern := ← items[0]?.mapM Value.asText
    caseSensitive := (← items[1]?.mapM Value.asBoolean).getD true
    template := ← items[2]?.mapM Value.asPath }

/-- The entry of a value.  A date has none of the fields, so all of them are missing. -/
def ofValue : Value → Toml.Attempt PackageEntry
  | .table _ entries => ofTable entries
  | .array _ items => ofItems items
  | .dateTime => .ok {}
  | _ => .error .shape

end PackageEntry

namespace Settings

def keys : List String :=
  ["source_directory", "output_directory", "generate", "inline", "inline_replace_pattern",
    "marker_file", "source_extensions", "packages"]

def ofTable (entries : Entries) : Toml.Attempt Settings := do
  let initial : Settings := {}
  entries.checkOthers keys
  return {
    sourceDirectory := ← entries.field "source_directory" Value.asPath initial.sourceDirectory
    outputDirectory := ← entries.field "output_directory" Value.asPath initial.outputDirectory
    generate := ← entries.field "generate" Value.asBoolean initial.generate
    inline := ← entries.field "inline" Value.asBoolean initial.inline
    markerPattern := ← entries.field "inline_replace_pattern" Value.asText initial.markerPattern
    markerFile := ← entries.field "marker_file" Value.asText initial.markerFile
    sourceExtensions := ← entries.field "source_extensions"
      (fun value => do (← value.asItems).mapM Value.asText) initial.sourceExtensions
    packages := ← entries.field "packages"
      (fun value => do (← value.asItems).mapM PackageEntry.ofValue) initial.packages }

/-- The settings of a document. -/
def parse (source : String) : Except Failure Settings :=
  match (do ofTable (← Toml.parse source.toList) : Toml.Attempt Settings) with
  | .ok settings => .ok settings
  | .error _ => .error .configParse

/-- Where a project may keep its settings, the preferred place first. -/
def candidates : List String := ["pkginfo.toml", ".pkginfo.toml", ".config/pkginfo.toml"]

/-- The first candidate below a root that is a file. -/
def locate (disk : Disk) (root : Path) : Option Path :=
  (candidates.map fun name => root.join (Path.ofString name)).find? disk.isFile

/-- The settings of the project at a root, if it has any. -/
def load (disk : Disk) (root : Path) : Except Failure (Option Settings) := do
  match locate disk root with
  | none => return none
  | some path =>
    match disk.readText path with
    | .error cause => .error (.disk cause)
    | .ok source => return some (← parse source)

end Settings
end PackageDoc
