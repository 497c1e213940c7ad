import PackageDoc.Declaration
import PackageDoc.Options
import PackageDoc.Report
import PackageDoc.TemplateStore

/-! # Generation

A run validates its options, reads all templates and walks the source tree, one package a
directory.  What happens to a package is decided by reading alone; only then is a file written, and
in a dry run not even that.  A run that fails leaves what was written before. -/
set_option autoImplicit false

namespace PackageDoc
open PackageDoc.Text

/-- What a walk works with. -/
structure Plan where
  options : Options
  rules : List Rule
  templates : TemplateStore

/-- How far a walk has come. -/
structure Progress where
  disk : Disk
  visits : List Visit := []
  changes : List Change := []

/-- What is to happen to a package. -/
structure Decision where
  rule : Option Nat
  outcome : Outcome
  change : Option Change := none

namespace Plan

/-! ## Deciding -/

/-- The template of a rule for a package. -/
def render (plan : Plan) (disk : Disk) (rule : Rule) (package : String) :
    Except Failure String := do
  return Declaration.rewrite (← plan.templates.get disk rule.template) package

/-- The content of a file, if there is one. -/
def previous (disk : Disk) (file : Path) : Except Failure (Option Bytes) :=
  if !disk.isFile file then .ok none
  else
    match disk.read file with
    | .ok content => .ok (some content)
    | .error cause => .error (.reading file.display cause)

/-- For a package without a marker file: the file in the output tree. -/
def decideNew (plan : Plan) (disk : Disk) (rule : Rule) (package : String) (output : Path) :
    Except Failure Decision := do
  let file := output.join (Path.ofString plan.options.markerFile)
  let content ← plan.render disk rule package
  let previous ← previous disk file
  if previous = some (bytes content) then
    return ⟨some rule.index, .generatedUpToDate file, none⟩
  else
    let change : Change := ⟨file, package, previous.map lossyString, content⟩
    return ⟨some rule.index, .generated file, some change⟩

/-- For a package with a marker file: the region of that file. -/
def decideRegion (plan : Plan) (disk : Disk) (rule : Rule) (package : String) (file : Path) :
    Except Failure Decision := do
  if plan.templates.contains disk file then
    return ⟨some rule.index, .templateSource file, none⟩
  else
    match disk.readText file with
    | .error cause => .error (.reading file.display cause)
    | .ok source =>
      let rendered ← plan.render disk rule package
      let body := String.ofList (Unicode.trim rendered.toList)
      let result := plan.options.markerPattern.replace source body
      if !result.matched then return ⟨some rule.index, .markerNotFound file, none⟩
      else if !result.changed then return ⟨some rule.index, .markerUpToDate file, none⟩
      else
        let change : Change := ⟨file, package, some source, result.content⟩
        return ⟨some rule.index, .replaced file, some change⟩

def decide (plan : Plan) (disk : Disk) (package : String) (marker : Option Path)
    (output : Path) : Except Failure Decision :=
  match Rule.find? plan.rules package with
  | none => .ok ⟨none, .noMatch, none⟩
  | some rule =>
    match marker with
    | none =>
      if plan.options.generate then plan.decideNew disk rule package output
      else .ok ⟨some rule.index, .generateDisabled, none⟩
    | some file =>
      if plan.options.inline then plan.decideRegion disk rule package file
      else .ok ⟨some rule.index, .skipExisting file, none⟩

/-! ## Writing -/

/-- Makes a directory unless something has its path. -/
def ensureDirectory (disk : Disk) (path : Path) : Disk × Option Failure :=
  if disk.holds path then (disk, none)
  else
    match disk.createDirectories path with
    | (disk, none) => (disk, none)
    | (disk, some cause) => (disk, some (.creating path.display cause))

def writeChange (disk : Disk) (change : Change) : Disk × Option Failure :=
  match disk.write change.file (bytes change.content) with
  | (disk, none) => (disk, none)
  | (disk, some cause) => (disk, some (.writing change.file.display cause))

/-- Writes what was decided.  A new file may need its directory first. -/
def commit (disk : Disk) (output : Path) (decision : Decision) : Disk × Option Failure :=
  match decision.change with
  | none => (disk, none)
  | some change =>
    match decision.outcome with
    | .generated _ =>
      match ensureDirectory disk output with
      | (disk, some failure) => (disk, some failure)
      | (disk, none) => writeChange disk change
    | _ => writeChange disk change

/-! ## Walking -/

/-- The source files and the visible directories in a directory, ascending by name. -/
structure Listing where
  files : List Name
  directories : List Name

def list (plan : Plan) (disk : Disk) (directory : Path) : Except Failure Listing :=
  match disk.list directory with
  | .error cause => .error (.listing directory.display cause)
  | .ok names =>
    .ok ⟨names.filter fun name =>
        disk.isFile (directory.child name) && plan.options.isSourceName name,
      names.filter fun name =>
        disk.isDirectory (directory.child name) && !Path.isHidden name⟩

/-- The package of a directory in the directory of another package. -/
def subpackage (package name : String) : String :=
  if package.isEmpty then name else package ++ String.singleton Glob.separator ++ name

/-- Visits a directory with source files. -/
def visit (plan : Plan) (directory output : Path) (package : String) (files : List Name)
    (progress : Progress) : Except (Failure × Progress) Progress :=
  let marker := (files.find? (· = bytes plan.options.markerFile)).map directory.child
  match plan.decide progress.disk package marker output with
  | .error failure => .error (failure, progress)
  | .ok decision =>
    let written :=
      if plan.options.dryRun then (progress.disk, none)
      else commit progress.disk output decision
    match written with
    | (disk, some failure) => .error (failure, { progress with disk := disk })
    | (disk, none) =>
      .ok ⟨disk, progress.visits ++ [⟨directory, package, decision.rule, decision.outcome⟩],
        progress.changes ++ decision.change.toList⟩

/-- Walks a directory and those below it.  `ancestors` are the places of the directories on the way
to it.  Each step makes the path longer, and a path of `Disk.pathLimit` bytes leads nowhere, so that
is fuel enough. -/
def walk (plan : Plan) :
    Nat → List (List Path.Part) → Path → Path → String → Progress →
      Except (Failure × Progress) Progress
  | 0, _, _, _, _, progress => .ok progress
  | fuel + 1, ancestors, directory, output, package, progress => do
    let place := progress.disk.key directory
    if ancestors.contains place then
      .error (.symlinkCycle directory.display, progress)
    else
      match plan.list progress.disk directory with
      | .error failure => .error (failure, progress)
      | .ok listing =>
        let progress ←
          if listing.files.isEmpty then .ok progress
          else plan.visit directory output package listing.files progress
        listing.directories.foldlM (fun progress name =>
          match string? name with
          | none => .ok progress
          | some text =>
            walk plan fuel (place :: ancestors) (directory.child name) (output.child name)
              (subpackage package text) progress) progress

end Plan

/-! ## Runs -/

/-- Makes the root of the output tree, if new files are to be written there. -/
def Options.prepareOutput (options : Options) (disk : Disk) : Disk × Option Failure :=
  if options.generate && !options.dryRun then Plan.ensureDirectory disk options.output
  else (disk, none)

/-- The rules and templates of a run. -/
def Options.plan (options : Options) (disk : Disk) : Except Failure Plan := do
  let rules ← options.validate disk
  return ⟨options, rules, ← TemplateStore.ofRules disk rules⟩

/-- Generates or updates the marker file of every package below the source directory.  The disk is
the one that the run leaves, also when it fails. -/
def generate (options : Options) (disk : Disk) : Except Failure Report × Disk :=
  if options.packages.isEmpty || !disk.holds options.source then
    (.ok { dryRun := options.dryRun }, disk)
  else
    match options.plan disk with
    | .error failure => (.error failure, disk)
    | .ok plan =>
      match options.prepareOutput disk with
      | (disk, some failure) => (.error failure, disk)
      | (disk, none) =>
        match plan.walk Disk.pathLimit [] options.source options.output "" { disk := disk } with
        | .error (failure, progress) => (.error failure, progress.disk)
        | .ok progress => (.ok ⟨options.dryRun, progress.visits, progress.changes⟩, progress.disk)

end PackageDoc
