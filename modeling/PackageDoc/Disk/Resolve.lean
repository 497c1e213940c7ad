import PackageDoc.Disk.Basic
import PackageDoc.Disk.Error

/-! # Where a path leads

A path is followed name by name from the root or the current directory.  A symbolic link on the way
is replaced by its target, relative to the directory of the link, at most forty times. -/
set_option autoImplicit false

namespace PackageDoc

/-- The names of a path that are looked up one after another.  A final slash asks for a directory,
as a final dot does. -/
def Path.lookups (path : Path) : List Name :=
  path.segments.filter (!·.isEmpty) ++
    (if path.bytes.getLast? = some slash then [here] else [])

/-- Where names lead: to something that is there, or to a free name in a directory. -/
inductive Reach where
  | present (location : Location)
  | vacant (directory : Location) (name : Name)
  deriving DecidableEq, Repr

namespace Disk

def nameLimit : Nat := 255

/-- The paths that can be followed are shorter than this. -/
def pathLimit : Nat := 4096

def linkLimit : Nat := 40

/-- How far names lead without following a link. -/
inductive Stop where
  | reach (reach : Reach)
  | link (directory : Location) (target : Path) (rest : List Name)
  | failed (cause : DiskError)
  deriving DecidableEq, Repr

def walk (disk : Disk) : Location → List Name → Stop
  | location, [] => .reach (.present location)
  | location, name :: rest =>
    if disk.node? location ≠ some .directory then .failed .notADirectory
    else if name = Path.here then disk.walk location rest
    else if name = Path.up then disk.walk location.dropLast rest
    else if nameLimit < name.length then .failed .nameTooLong
    else
      match disk.node? (location ++ [name]) with
      | some (.link target) => .link location target rest
      | some _ => disk.walk (location ++ [name]) rest
      | none => if rest.isEmpty then .reach (.vacant location name) else .failed .notFound

/-- Where a path begins. -/
def start (path : Path) (directory : Location) : Location :=
  if path.isAbsolute then [] else directory

/-- Where names lead if at most a given number of links is followed. -/
def follow (disk : Disk) : Nat → Location → List Name → Except DiskError Reach
  | links, location, names =>
    match disk.walk location names with
    | .reach reach => .ok reach
    | .failed cause => .error cause
    | .link directory target rest =>
      match links with
      | 0 => .error .linkLoop
      | links + 1 => disk.follow links (start target directory) (target.lookups ++ rest)

/-- Whether a path can be followed at all. -/
def admits (path : Path) : Except DiskError Unit :=
  if path.bytes.contains 0 then .error .zeroByte
  else if path.bytes.isEmpty then .error .notFound
  else if pathLimit ≤ path.bytes.length then .error .nameTooLong
  else .ok ()

def reach (disk : Disk) (path : Path) : Except DiskError Reach := do
  admits path
  disk.follow linkLimit (start path disk.current) path.lookups

/-- The location of what a path leads to. -/
def locate (disk : Disk) (path : Path) : Except DiskError Location := do
  match ← disk.reach path with
  | .present location => .ok location
  | .vacant _ _ => .error .notFound

/-- What a path leads to. -/
def find? (disk : Disk) (path : Path) : Option Node :=
  match disk.locate path with
  | .ok location => disk.node? location
  | .error _ => none

def holds (disk : Disk) (path : Path) : Bool := (disk.find? path).isSome

def isDirectory (disk : Disk) (path : Path) : Bool := disk.find? path = some .directory

def isFile (disk : Disk) (path : Path) : Bool :=
  match disk.find? path with
  | some (.file _) => true
  | _ => false

/-- The parts of the path without links and dots to what a path leads to; of a path that leads
nowhere its own parts. -/
def key (disk : Disk) (path : Path) : List Path.Part :=
  match disk.locate path with
  | .ok location => .root :: location.map .name
  | .error _ => path.parts

end Disk
end PackageDoc
