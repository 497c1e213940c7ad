import PackageDoc.Console.Session

/-! # The command `init`

Puts settings and a template into a project.  Neither is put where there is one. -/
set_option autoImplicit false

namespace PackageDoc.Console
open PackageDoc.Text

/-- Settings that name the usual places and one rule for all packages. -/
def sampleSettings : String := lines [
  "# pkginfo configuration",
  "",
  "source_directory = \"src/main/java\"",
  "output_directory = \"target/generated-sources/package-info\"",
  "",
  "# Write new package-info.java files into output_directory.",
  "generate = true",
  "# Refresh the marked region of existing package-info.java files.",
  "inline = true",
  "",
  "# Rules are tried in order. The first matching pattern wins.",
  "[[packages]]",
  "pattern = \"**\"",
  "template = \"templates/package-info.java\""]

def sampleTemplate : String := lines ["/**", " * Package documentation.", " */", "package example;"]

namespace Session

def settingsName : String := "pkginfo.toml"

def settingsPath (session : Session) : Path := session.root.join (.ofString settingsName)

def templateDirectory (session : Session) : Path := session.root.join (.ofString "templates")

def templatePath (session : Session) : Path :=
  session.templateDirectory.join (.ofString "package-info.java")

/-- What was done so far, and what went wrong then. -/
def interrupted (session : Session) (done : List String) (cause : DiskError) : Response :=
  ⟨lines done, .exit 2 (lines [session.paint .red "error:" ++ " " ++ cause.message])⟩

/-- Writes the template, in a directory that may have to be made. -/
def placeTemplate (session : Session) (disk : Disk) : Disk × Option DiskError :=
  match disk.createDirectories session.templateDirectory with
  | (disk, some cause) => (disk, some cause)
  | (disk, none) => disk.write session.templatePath (bytes sampleTemplate)

/-- What is left to do for someone who had no settings. -/
def nextSteps (session : Session) : List String := [
  "",
  "Next steps:",
  "  1. Edit " ++ session.templatePath.display ++ " to describe your packages",
  "  2. Add package rules to " ++ settingsName,
  "  3. Run `pkginfo generate` to write package-info files"]

/-- The second half of the command, behind the settings.  Whether there was a template is asked
before anything is written. -/
def finishInit (session : Session) (done farewell : List String) (hadTemplate : Bool)
    (disk : Disk) : Response × Disk :=
  if hadTemplate then
    let said := "Template file already exists: " ++ session.templatePath.display
    (.success (lines (done ++ [said] ++ farewell)), disk)
  else
    match session.placeTemplate disk with
    | (disk, some cause) => (session.interrupted done cause, disk)
    | (disk, none) =>
      let said := "Created template file: " ++ session.templatePath.display
      (.success (lines (done ++ [said] ++ farewell)), disk)

def init (session : Session) (disk : Disk) : Response × Disk :=
  let hadTemplate := disk.holds session.templatePath
  if (Settings.locate disk session.root).isSome then
    session.finishInit ["Config file already exists in " ++ session.root.display] [] hadTemplate disk
  else
    match disk.write session.settingsPath (bytes sampleSettings) with
    | (disk, some cause) => (session.interrupted [] cause, disk)
    | (disk, none) =>
      session.finishInit ["Created " ++ settingsName] session.nextSteps hadTemplate disk

end Session
end PackageDoc.Console
