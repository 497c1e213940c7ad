import PackageDoc.Console.Arguments
import PackageDoc.Console.LogFilter
import PackageDoc.Console.Paint
import PackageDoc.Console.Response
import PackageDoc.Generation

/-! # Sessions

What the commands share: the root of the project, the look of the screen, and the way from the
settings on disk to a report. -/
set_option autoImplicit false

namespace PackageDoc.Console

/-- What a command finds around it. -/
structure Surroundings where
  /-- The absolute path of the current directory. -/
  directory : Path
  /-- Whether colour is switched off for all programs. -/
  colourless : Bool
  /-- The log filter that is asked for. -/
  log : Option String

structure Session where
  root : Path
  coloured : Bool
  verbose : Bool
  filter : LogFilter

/-- A command without a root works in the current directory. -/
def Session.begin (surroundings : Surroundings) (setting : Setting) : Session :=
  { root := setting.root.getD surroundings.directory
    coloured := !setting.plain && !surroundings.colourless
    verbose := setting.verbose
    filter := .choose surroundings.log (if setting.verbose then .debug else .warn) }

namespace Session

def paint (session : Session) (paint : Paint) (text : String) : String :=
  paint.apply session.coloured text

/-- A path as it is shown to someone at the root. -/
def shown (session : Session) (path : Path) : String := Path.displayFrom session.root path

/-- A package as it is shown; the root package has no name. -/
def shownPackage (package : String) : String := if package.isEmpty then "<root>" else package

/-! ## Notices -/

/-- The target of the notices of a run. -/
def runTarget : String := "pkginfo_core::walker"

/-- What the log has to say about a run. -/
def notice (session : Session) (options : Options) : String :=
  if options.packages.isEmpty && session.filter.shows .warn runTarget ["message"] then
    Paint.applyAlone .yellow session.coloured " WARN" ++
      " skipping generate, no packages configured\n"
  else ""

/-! ## From settings to a report -/

def missingSettings (session : Session) : Response :=
  .success (lines ["No pkginfo.toml found in " ++ session.root.display ++
    ". Run `pkginfo init` to create one."])

/-- Goes on with the options of the project, if it has settings. -/
def withOptions (session : Session) (disk : Disk) (act : Options → Response × Disk) :
    Response × Disk :=
  match Settings.load disk session.root with
  | .error failure => (.failed failure, disk)
  | .ok none => (session.missingSettings, disk)
  | .ok (some settings) =>
    match Options.ofSettings session.root settings with
    | .error failure => (.failed failure, disk)
    | .ok options => act options

/-- Runs, and tells about the report. -/
def withReport (session : Session) (options : Options) (disk : Disk)
    (tell : Report → Response) : Response × Disk :=
  match PackageDoc.generate options disk with
  | (.error failure, disk) => (.failed failure, disk)
  | (.ok report, disk) => ((tell report).precede (session.notice options), disk)

end Session
end PackageDoc.Console
