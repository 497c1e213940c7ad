import PackageDoc.Console.Check
import PackageDoc.Console.Initial
import PackageDoc.Console.Listing
import PackageDoc.Console.Summary

/-! # Commands

From the arguments to the response and the disk that the command leaves. -/
set_option autoImplicit false

namespace PackageDoc.Console

namespace Session

def generateResponse (session : Session) (format : Format) (report : Report) : Response :=
  match format with
  | .json => session.summaryResponse 0 report
  | .text =>
    let count := toString report.changes.length
    let output :=
      if report.isClean then ["All package-info files are already up to date."]
      else if report.dryRun then
        ("Dry run: would write " ++ count ++ " file(s):") :: session.changeLines report
      else
        ("Wrote " ++ count ++ " file(s).") ::
          (if session.verbose then session.changeLines report else [])
    ⟨lines output, .exit 0 (lines (session.markerWarnings report))⟩

/-- The command `generate`.  What is switched off in the settings or by the arguments is off. -/
def generate (session : Session) (dryRun generate inline : Bool) (format : Format) (disk : Disk) :
    Response × Disk :=
  session.withOptions disk fun options =>
    let options := { options with
      dryRun := dryRun
      generate := options.generate && generate
      inline := options.inline && inline }
    session.withReport options disk (session.generateResponse format)

def perform (session : Session) (disk : Disk) : Command → Response × Disk
  | .init => session.init disk
  | .generate dryRun generate inline format => session.generate dryRun generate inline format disk
  | .check showDiff format => session.check showDiff format disk
  | .list => session.list disk

end Session

def versionText : String := "pkginfo_cli 0.1.0\n"

def helpText : String := lines [
  "Generate and maintain package-info.java files from pattern-matched templates.",
  "",
  "Usage: pkginfo [OPTIONS] [COMMAND]",
  "",
  "Commands:",
  "  init      Create a sample config and template",
  "  generate  Write and refresh package-info files",
  "  check     Verify everything is up to date",
  "  list      List the configured rules and the packages each one claims"]

/-- Answers the arguments of the program. -/
def respond (surroundings : Surroundings) (arguments : List String) (disk : Disk) :
    Response × Disk :=
  match Request.parse? arguments with
  | none => (.refused, disk)
  | some .help => (.success helpText, disk)
  | some .version => (.success versionText, disk)
  | some (.run _ none) =>
    (⟨"", .exit 1 (lines ["No subcommand specified. Run `pkginfo --help` for usage."])⟩, disk)
  | some (.run setting (some command)) =>
    (Session.begin surroundings setting).perform disk command

end PackageDoc.Console
