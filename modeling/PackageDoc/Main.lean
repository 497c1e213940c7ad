import PackageDoc.Console.Commands
import PackageDoc.Disk.Change

/-! # The program

The program reads the current directory and the project root into a disk, answers its arguments on
that disk, and writes back what has changed there. -/
set_option autoImplicit false

namespace PackageDoc.Program
open PackageDoc.Console PackageDoc.Text

/-- The names on the way from the root of the disk to an absolute path. -/
def locationOf (path : String) : Location := (Path.ofString path).segments.filter (!·.isEmpty)

/-- The absolute path of a location. -/
def pathOf (location : Location) : String := "/" ++ (Path.ofSegments location).display

/-- Reads an entry with everything below it.  A link becomes a link to where it leads in the end. -/
partial def readEntry (disk : Disk) (entry : IO.FS.DirEntry) : IO Disk := do
  let location := locationOf entry.path.toString
  match (← entry.path.symlinkMetadata).type with
  | .dir =>
    let mut disk := disk.put location .directory
    for child in ← entry.path.readDir do
      disk ← readEntry disk child
    return disk
  | .file =>
    let content ← IO.FS.readBinFile entry.path
    return disk.put location (.file content.toList)
  | .symlink =>
    let goal ← try pure (← IO.FS.realPath entry.path).toString catch _ => pure entry.path.toString
    return disk.put location (.link (Path.ofString goal))
  | .other => return disk

/-- Reads a directory with everything below it. -/
def readDirectory (disk : Disk) (path : String) : IO Disk := do
  let goal ← IO.FS.realPath path
  let mut disk := (disk.createDirectories (Path.ofString goal.toString)).1
  for entry in ← goal.readDir do
    disk ← readEntry disk entry
  return disk

/-- Writes what a location of the disk is to hold. -/
def writeChange (location : Location) : Option Node → IO Unit
  | some .directory => IO.FS.createDirAll (pathOf location)
  | some (.file content) => IO.FS.writeBinFile (pathOf location) ⟨content.toArray⟩
  | _ => return

/-- The project root that arguments name, if they name one. -/
def rootOf (arguments : List String) : Option String :=
  match Request.parse? arguments with
  | some (.run setting _) => setting.root.map Path.display
  | _ => none

/-- Says how a command ended, as far as it did not come to its end. -/
def complain : Ending → String
  | .exit _ problems => problems
  | .failed failure => lines ["error: " ++ failure.code ++ failure.message?.elim "" (": " ++ ·)]
  | .refused => lines ["error: the arguments are not understood"]

end PackageDoc.Program

section Entry
open PackageDoc PackageDoc.Console PackageDoc.Program

/-- Answers the arguments in the current directory. -/
def main (arguments : List String) : IO UInt32 := do
  let directory := (← IO.currentDir).toString
  let mut disk ← readDirectory (Disk.empty (locationOf directory)) directory
  if let some root := rootOf arguments then
    disk ← try readDirectory disk root catch _ => pure disk
  let colourless := (← IO.getEnv "NO_COLOR").isSome
  let surroundings := ⟨Path.ofString directory, colourless, ← IO.getEnv "PKGINFO_LOG"⟩
  let (response, after) := respond surroundings arguments disk
  for (location, node) in disk.changesTo after do
    writeChange location node
  IO.print response.output
  IO.eprint (complain response.ending)
  return UInt32.ofNat response.code

end Entry
