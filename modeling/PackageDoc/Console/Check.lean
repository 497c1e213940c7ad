import PackageDoc.Console.Summary
import PackageDoc.Text.LineDiff

/-! # The command `check`

A dry run that fails if anything is left to be written. -/
set_option autoImplicit false

namespace PackageDoc.Console.Session
open PackageDoc.Text

/-- A row as it is shown: with a line feed if it has no end. -/
def shownRow (row : List Char) : String :=
  String.ofList
    (if row.getLast? = some '\n' ∨ row.getLast? = some '\r' then row else row ++ ['\n'])

def shownEdit (session : Session) : Edit (List Char) → String
  | .keep row => "     " ++ shownRow row
  | .delete row => "    " ++ session.paint .red ("-" ++ shownRow row)
  | .insert row => "    " ++ session.paint .green ("+" ++ shownRow row)

/-- What a change does to a file, row by row. -/
def shownDiff (session : Session) (change : Change) : String :=
  String.join ((edits (rows (change.previous.getD "").toList)
    (rows change.content.toList)).map session.shownEdit) ++ "\n"

def pendingChange (session : Session) (showDiff : Bool) (change : Change) : String :=
  let action := if change.previous.isSome then "update" else "create"
  lines ["  " ++ session.paint .yellow action ++ " " ++ session.shown change.file ++ " (" ++
    shownPackage change.package ++ ")"] ++
  (if showDiff then session.shownDiff change else "")

def pendingChanges (session : Session) (showDiff : Bool) (report : Report) : String :=
  lines ["Check failed.", "  pending writes: " ++ toString report.changes.length, ""] ++
  String.join (report.changes.map (session.pendingChange showDiff)) ++
  lines ["", "Run `pkginfo generate` to write them."]

def checkResponse (session : Session) (showDiff : Bool) (format : Format) (report : Report) :
    Response :=
  let code := if report.isClean then 0 else 1
  match format with
  | .json => session.summaryResponse code report
  | .text =>
    if report.isClean then
      ⟨lines ["Check passed: all package-info files are up to date."], .exit code ""⟩
    else ⟨"", .exit code (session.pendingChanges showDiff report)⟩

def check (session : Session) (showDiff : Bool) (format : Format) (disk : Disk) :
    Response × Disk :=
  session.withOptions disk fun options =>
    session.withReport { options with dryRun := true } disk (session.checkResponse showDiff format)

end PackageDoc.Console.Session
