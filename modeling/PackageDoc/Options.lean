import PackageDoc.Rule
import PackageDoc.Settings

/-! # Options

The settings of a run, with all paths taken from the root of the project. -/
set_option autoImplicit false

namespace PackageDoc

structure Options where
  /-- Root of the source tree, the root package. -/
  source : Path
  /-- Root of the tree that receives new files. -/
  output : Path
  packages : List PackageEntry := []
  markerPattern : MarkerPattern := MarkerPattern.default
  generate : Bool := true
  inline : Bool := true
  markerFile : String := "package-info.java"
  sourceExtensions : List String := ["java"]
  /-- Whether the run only tells what it would do. -/
  dryRun : Bool := false

namespace Options

/-- The marker pattern that a text stands for. -/
def markerPattern? (source : String) : Except Failure MarkerPattern :=
  (MarkerPattern.parse source).mapError (Failure.invalidMarkerPattern source)

def ofSettings (root : Path) (settings : Settings) : Except Failure Options := do
  return {
    source := root.join settings.sourceDirectory
    output := root.join settings.outputDirectory
    packages := settings.packages.map fun entry =>
      { entry with template := entry.template.map root.join }
    markerPattern := ← markerPattern? settings.markerPattern
    generate := settings.generate
    inline := settings.inline
    markerFile := settings.markerFile
    sourceExtensions := settings.sourceExtensions }

/-- Whether a name has the extension of a source file. -/
def isSourceName (options : Options) (name : Name) : Bool :=
  match Path.extension? name with
  | some extension => options.sourceExtensions.any fun known => Text.bytes known = extension
  | none => false

/-! ## Validation -/

/-- The rule of a package entry, or the first thing that is wrong with it. -/
def validateEntry (disk : Disk) (index : Nat) (entry : PackageEntry) : Except Failure Rule :=
  match entry.pattern.filter (!·.isEmpty) with
  | none => .error (.missingPattern index)
  | some pattern =>
    match entry.template with
    | none => .error (.missingTemplate index)
    | some template =>
      if !disk.holds template then .error (.templateNotFound index template.display)
      else if !disk.isFile template then .error (.templateNotFile index template.display)
      else .ok ⟨index, pattern, entry.caseSensitive, template⟩

def validateEntries (disk : Disk) : Nat → List PackageEntry → Except Failure (List Rule)
  | _, [] => .ok []
  | index, entry :: rest => do
    let rule ← validateEntry disk index entry
    return rule :: (← validateEntries disk (index + 1) rest)

/-- Checks both roots and every package entry, and gives the rules in order. -/
def validate (options : Options) (disk : Disk) : Except Failure (List Rule) :=
  if !disk.isDirectory options.source then
    .error (.sourceNotDirectory options.source.display)
  else if options.generate && disk.holds options.output && !disk.isDirectory options.output then
    .error (.outputNotDirectory options.output.display)
  else validateEntries disk 0 options.packages

end Options
end PackageDoc
