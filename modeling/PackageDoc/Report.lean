import PackageDoc.Disk.Path

/-! # Reports

What a run did, or would do, to each package. -/
set_option autoImplicit false

namespace PackageDoc

/-- What happened to a package. -/
inductive Outcome where
  /-- No rule claims the package. -/
  | noMatch
  /-- A new marker file was written. -/
  | generated (file : Path)
  /-- The new marker file had its content already. -/
  | generatedUpToDate (file : Path)
  /-- There is no marker file, and none is to be written. -/
  | generateDisabled
  /-- The region of a marker file was replaced. -/
  | replaced (file : Path)
  /-- The region had its content already. -/
  | markerUpToDate (file : Path)
  /-- The marker file has no region. -/
  | markerNotFound (file : Path)
  /-- The marker file is a template and is left alone. -/
  | templateSource (file : Path)
  /-- There is a marker file, and none is to be changed. -/
  | skipExisting (file : Path)
  deriving DecidableEq, Repr

namespace Outcome

/-- Whether a file is written. -/
def isWrite : Outcome → Bool
  | .generated _ | .replaced _ => true
  | _ => false

/-- The marker file that the outcome speaks of. -/
def file? : Outcome → Option Path
  | .noMatch | .generateDisabled => none
  | .generated file | .generatedUpToDate file | .replaced file | .markerUpToDate file
  | .markerNotFound file | .templateSource file | .skipExisting file => some file

/-- The name of the outcome in reports. -/
def kind : Outcome → String
  | .noMatch => "no_match"
  | .generated _ => "generated"
  | .generatedUpToDate _ => "generated_up_to_date"
  | .generateDisabled => "generate_disabled"
  | .replaced _ => "replaced"
  | .markerUpToDate _ => "marker_up_to_date"
  | .markerNotFound _ => "marker_not_found"
  | .templateSource _ => "template_source"
  | .skipExisting _ => "skip_existing"

end Outcome

/-- A directory with source files, its package, the rule that claims it and what happened. -/
structure Visit where
  directory : Path
  package : String
  rule : Option Nat
  outcome : Outcome
  deriving DecidableEq, Repr

/-- A file that is written, before and after.  A new file has no text before. -/
structure Change where
  file : Path
  package : String
  previous : Option String
  content : String
  deriving DecidableEq, Repr

/-- Visits and changes in the order of the walk. -/
structure Report where
  /-- Whether the changes are only pending. -/
  dryRun : Bool
  visits : List Visit := []
  changes : List Change := []
  deriving DecidableEq, Repr

namespace Report

/-- Whether nothing is written. -/
def isClean (report : Report) : Bool := report.changes.isEmpty

def writtenFiles (report : Report) : List Path := report.changes.map (·.file)

/-- The number of visits with an outcome of a kind. -/
def count (report : Report) (kind : Outcome → Bool) : Nat :=
  (report.visits.filter fun visit => kind visit.outcome).length

/-- The first visit of a package. -/
def visit? (report : Report) (package : String) : Option Visit :=
  report.visits.find? (·.package = package)

end Report
end PackageDoc
