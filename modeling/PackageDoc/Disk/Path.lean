import PackageDoc.Text.Pieces
import PackageDoc.Text.Utf8

/-! # Paths

A path is kept as it is written, so that it is shown as it is written.  Its parts are the names
between slashes; empty parts and single dots count only at the beginning. -/
set_option autoImplicit false

namespace PackageDoc
open PackageDoc.Text

/-- The name of an entry of a directory. -/
abbrev Name := Bytes

structure Path where
  bytes : Bytes
  deriving DecidableEq, Repr

namespace Path

def slash : UInt8 := 0x2F

def dot : UInt8 := 0x2E

def here : Name := [dot]

def up : Name := [dot, dot]

def ofString (text : String) : Path := ⟨Text.bytes text⟩

/-- The path as messages show it. -/
def display (path : Path) : String := lossyString path.bytes

/-- The path as a text, if it is one. -/
def text? (path : Path) : Option String := string? path.bytes

def isAbsolute (path : Path) : Bool := path.bytes.head? = some slash

/-- A path below another one; an absolute path replaces the other one. -/
def join (base path : Path) : Path :=
  if path.isAbsolute then path
  else if base.bytes.isEmpty ∨ base.bytes.getLast? = some slash then ⟨base.bytes ++ path.bytes⟩
  else ⟨base.bytes ++ slash :: path.bytes⟩

/-- An entry of the directory at a path. -/
def child (base : Path) (name : Name) : Path := base.join ⟨name⟩

/-! ## Parts -/

def segments (path : Path) : List Name := pieces slash path.bytes

/-- A part of a path that says something. -/
inductive Part where
  | root
  | here
  | up
  | name (name : Name)
  deriving DecidableEq, Repr

def partOf (segment : Name) : Option Part :=
  if segment.isEmpty ∨ segment = Path.here then none
  else if segment = Path.up then some .up
  else some (.name segment)

/-- The parts of a path.  Two paths with equal parts are the same path. -/
def parts (path : Path) : List Part :=
  match path.segments with
  | [] => []
  | first :: rest =>
    let front :=
      if path.isAbsolute then some Part.root
      else if first = Path.here then some .here
      else partOf first
    front.toList ++ rest.filterMap partOf

/-- Drops the segments in front that say nothing. -/
def dropIdle (segments : List Name) : List Name := segments.dropWhile fun s => (partOf s).isNone

/-- Drops the segments in front and behind that say nothing. -/
def trimIdle (segments : List Name) : List Name :=
  (dropIdle (dropIdle segments).reverse).reverse

def ofSegments (segments : List Name) : Path := ⟨Text.join slash segments⟩

/-- The segments behind those that say the given parts. -/
def segmentsBehind? : List Part → List Name → Option (List Name)
  | [], segments => some segments
  | _ :: _, [] => none
  | part :: parts, segment :: segments =>
    match partOf segment with
    | none => segmentsBehind? (part :: parts) segments
    | some found => if found = part then segmentsBehind? parts segments else none

/-- What is left of a path below another one. -/
def relativeTo? (path base : Path) : Option Path :=
  match base.parts with
  | [] => some path
  | .root :: parts =>
    if path.isAbsolute then (segmentsBehind? parts path.segments).map (ofSegments ∘ trimIdle)
    else none
  | .here :: parts =>
    match path.segments with
    | first :: rest =>
      if first = here then (segmentsBehind? parts rest).map (ofSegments ∘ trimIdle) else none
    | [] => none
  | parts =>
    if path.isAbsolute || path.segments.head? = some here then none
    else (segmentsBehind? parts path.segments).map (ofSegments ∘ trimIdle)

/-- The path as it is shown to someone at `base`. -/
def displayFrom (base path : Path) : String := ((path.relativeTo? base).getD path).display

/-- The path without its last part, and what ends in front of it. -/
def parent? (path : Path) : Option Path :=
  let idle := fun (segment : Name) => (partOf segment).isNone
  match path.segments.reverse.dropWhile idle with
  | [] =>
    if !path.isAbsolute && path.segments.head? = some here then some ⟨[]⟩ else none
  | _ :: before =>
    match before.dropWhile idle with
    | [] =>
      if path.isAbsolute then some ⟨[slash]⟩
      else if before.getLast? = some here then some ⟨here⟩
      else some ⟨[]⟩
    | kept => some (ofSegments kept.reverse)

/-! ## Names -/

/-- What stands behind the last dot of a name, unless the dot is its first character. -/
def extension? (name : Name) : Option Name :=
  let behind := name.reverse.takeWhile (· != dot)
  if behind.length + 1 < name.length then some behind.reverse else none

def isHidden (name : Name) : Bool := name.head? = some dot

end Path
end PackageDoc
