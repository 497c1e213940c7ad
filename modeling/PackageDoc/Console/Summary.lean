import PackageDoc.Console.Session
import PackageDoc.Text.Json

/-! # Summaries of a report -/
set_option autoImplicit false

namespace PackageDoc.Console.Session
open PackageDoc.Text

/-! ## For programs -/

def changeSummary (session : Session) (change : Change) : Json :=
  .object [("created", .boolean change.previous.isNone),
    ("file", .text (session.shown change.file)), ("package", .text change.package)]

/-- An outcome names its file as it is, not from the root and not as it is shown.  So there is no
summary of an outcome whose file has a path that is not a text. -/
def outcomeSummary? (outcome : Outcome) : Option Json :=
  match outcome.file? with
  | none => some (.object [("kind", .text outcome.kind)])
  | some file =>
    file.text?.map fun path => .object [("file", .text path), ("kind", .text outcome.kind)]

def visitSummary? (session : Session) (visit : Visit) : Option Json :=
  (outcomeSummary? visit.outcome).map fun outcome =>
    .object [("directory", .text (session.shown visit.directory)), ("outcome", outcome),
      ("package", .text visit.package), ("rule", (visit.rule.map Json.number).getD .null)]

/-- A report is in order if nothing is left to be written. -/
def reportSummary? (session : Session) (report : Report) : Option Json :=
  (report.visits.mapM session.visitSummary?).map fun visits =>
    .object [("changes", .array (report.changes.map session.changeSummary)),
      ("dry_run", .boolean report.dryRun),
      ("ok", .boolean (report.isClean || !report.dryRun)),
      ("visits", .array visits)]

/-- Answers with the summary of a report, which is made after the run. -/
def summaryResponse (session : Session) (code : Nat) (report : Report) : Response :=
  match session.reportSummary? report with
  | some summary => ⟨lines [summary.render], .exit code ""⟩
  | none => .brokenOff "path contains invalid UTF-8 characters"

/-! ## For people -/

def changeLines (session : Session) (report : Report) : List String :=
  report.changes.map fun change => "  " ++ session.shown change.file

/-- Marker files without a region are left alone; whoever keeps them is told. -/
def markerWarnings (session : Session) (report : Report) : List String :=
  report.visits.filterMap fun visit =>
    match visit.outcome with
    | .markerNotFound file =>
      some (session.paint .yellow "warning:" ++ " no marker region in " ++ session.shown file)
    | _ => none

end PackageDoc.Console.Session
