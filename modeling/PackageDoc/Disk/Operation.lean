import PackageDoc.Disk.Resolve

/-! # Reading and writing -/
set_option autoImplicit false

namespace PackageDoc
open PackageDoc.Text

namespace Disk

/-! ## Reading -/

def read (disk : Disk) (path : Path) : Except DiskError Bytes := do
  let location ← disk.locate path
  match disk.node? location with
  | some (.file content) => .ok content
  | some .directory => .error .isADirectory
  | _ => .error .notFound

def readText (disk : Disk) (path : Path) : Except DiskError String := do
  match string? (← disk.read path) with
  | some text => .ok text
  | none => .error .notText

/-- The names in the directory that a path leads to, ascending. -/
def list (disk : Disk) (path : Path) : Except DiskError (List Name) := do
  let location ← disk.locate path
  match disk.node? location with
  | some .directory => .ok (disk.names location)
  | _ => .error .notADirectory

/-! ## Writing

An operation that fails gives the cause; the disk it leaves is given back in any case. -/

/-- The directory in which the last name of a path lies, and that name; the root has none.  The last
name is not followed. -/
def lastName (disk : Disk) (path : Path) : Except DiskError (Location × Option Name) := do
  admits path
  let names := path.segments.filter (!·.isEmpty)
  match ← disk.follow linkLimit (start path disk.current) (names.dropLast ++ [Path.here]) with
  | .present directory => .ok (directory, names.getLast?)
  | .vacant _ _ => .error .notFound

/-- Where a file with a path would be written. -/
def target (disk : Disk) (path : Path) : Except DiskError Location := do
  if path.bytes.getLast? = some Path.slash then
    let _ ← disk.lastName path
    .error .isADirectory
  else
    match ← disk.reach path with
    | .vacant directory name => .ok (directory ++ [name])
    | .present location =>
      if disk.node? location = some .directory then .error .isADirectory else .ok location

/-- Writes a file, through links.  Its directory has to be there. -/
def write (disk : Disk) (path : Path) (content : Bytes) : Disk × Option DiskError :=
  match disk.target path with
  | .ok location => (disk.put location (.file content), none)
  | .error cause => (disk, some cause)

/-- A free location that a path names. -/
def free (disk : Disk) (path : Path) : Except DiskError Location := do
  match ← disk.lastName path with
  | (_, none) => .error .alreadyExists
  | (directory, some name) =>
    if name = Path.here ∨ name = Path.up then .error .alreadyExists
    else if nameLimit < name.length then .error .nameTooLong
    else if (disk.node? (directory ++ [name])).isSome then .error .alreadyExists
    else .ok (directory ++ [name])

/-- Makes one directory. -/
def makeDirectory (disk : Disk) (path : Path) : Disk × Option DiskError :=
  match disk.free path with
  | .ok location => (disk.put location .directory, none)
  | .error cause => (disk, some cause)

/-- Makes a directory where its parent is known to be there, if it is not there already. -/
def settle (disk : Disk) (path : Path) : Disk × Option DiskError :=
  match disk.makeDirectory path with
  | (made, none) => (made, none)
  | (_, some cause) => if disk.isDirectory path then (disk, none) else (disk, some cause)

/-- Makes a directory and those it lies in, from the first one that is missing.  A parent is
shorter than its path, so the length of the path is fuel enough. -/
def createWithin : Nat → Disk → Path → Disk × Option DiskError
  | 0, disk, _ => (disk, some .wholePath)
  | fuel + 1, disk, path =>
    if path.bytes.isEmpty then (disk, none)
    else
      match disk.makeDirectory path with
      | (made, none) => (made, none)
      | (_, some .notFound) =>
        match path.parent? with
        | none => (disk, some .wholePath)
        | some parent =>
          match createWithin fuel disk parent with
          | (disk, some cause) => (disk, some cause)
          | (disk, none) => disk.settle path
      | (_, some cause) => if disk.isDirectory path then (disk, none) else (disk, some cause)

def createDirectories (disk : Disk) (path : Path) : Disk × Option DiskError :=
  createWithin (path.bytes.length + 1) disk path

/-! ## Rearranging -/

/-- Makes a symbolic link. -/
def link (disk : Disk) (path target : Path) : Disk × Option DiskError :=
  match disk.free path with
  | .ok location => (disk.put location (.link target), none)
  | .error cause => (disk, some cause)

/-- The location that a path names itself, without following its last name. -/
def itself (disk : Disk) (path : Path) : Except DiskError Location := do
  match ← disk.lastName path with
  | (_, none) => .ok []
  | (directory, some name) =>
    if name = Path.here ∨ name = Path.up then disk.locate path
    else .ok (directory ++ [name])

/-- Removes what a path names, with everything below it. -/
def remove (disk : Disk) (path : Path) : Disk × Option DiskError :=
  match disk.itself path with
  | .ok location => (disk.erase location, none)
  | .error cause => (disk, some cause)

/-- Gives what a path names another path. -/
def rename (disk : Disk) (path destination : Path) : Disk × Option DiskError :=
  match disk.itself path, disk.itself destination with
  | .ok source, .ok goal =>
    let moved := disk.below source
    let cleared := (disk.erase source).erase goal
    (moved.foldl (fun disk entry =>
      disk.put (goal ++ entry.1.drop source.length) entry.2) cleared, none)
  | .error cause, _ => (disk, some cause)
  | _, .error cause => (disk, some cause)

end Disk
end PackageDoc
