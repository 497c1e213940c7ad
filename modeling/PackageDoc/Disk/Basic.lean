import PackageDoc.Disk.Path

/-! # Disks

A disk holds directories, files and symbolic links.  A location is the list of names from the root;
the entries are kept in ascending order of location, so a disk is determined by what it holds where.
Relative paths start from the current directory. -/
set_option autoImplicit false

namespace PackageDoc
open PackageDoc.Text

abbrev Location := List Name

inductive Node where
  | directory
  | file (content : Bytes)
  | link (target : Path)
  deriving DecidableEq, Repr

/-- Entries in strictly ascending order of location. -/
def Ordered (entries : List (Location × Node)) : Prop :=
  entries.Pairwise fun left right => left.1 < right.1

structure Disk where
  entries : List (Location × Node)
  current : Location
  ordered : Ordered entries

namespace Disk

def empty (current : Location) : Disk := ⟨[], current, List.Pairwise.nil⟩

/-- What a disk holds at a location.  The root is always a directory. -/
def node? (disk : Disk) (location : Location) : Option Node :=
  if location.isEmpty then some .directory
  else (disk.entries.find? (·.1 = location)).map (·.2)

/-! ## Writing an entry -/

/-- The entries with one of them set. -/
def setEntry (location : Location) (node : Node) (entries : List (Location × Node)) :
    List (Location × Node) :=
  entries.filter (·.1 < location) ++ (location, node) :: entries.filter (location < ·.1)

theorem ordered_setEntry (location : Location) (node : Node) {entries : List (Location × Node)}
    (ordered : Ordered entries) : Ordered (setEntry location node entries) := by
  unfold Ordered setEntry
  rw [List.pairwise_append, List.pairwise_cons]
  refine ⟨ordered.filter _, ⟨?_, ordered.filter _⟩, ?_⟩
  · intro entry found
    simpa using (List.mem_filter.1 found).2
  · intro left leftFound right rightFound
    have before : left.1 < location := by simpa using (List.mem_filter.1 leftFound).2
    rcases List.mem_cons.1 rightFound with same | behind
    · subst same; exact before
    · have after : location < right.1 := by simpa using (List.mem_filter.1 behind).2
      exact List.lt_trans before after

/-- Puts a node at a location below the root. -/
def put (disk : Disk) (location : Location) (node : Node) : Disk :=
  ⟨setEntry location node disk.entries, disk.current,
    ordered_setEntry location node disk.ordered⟩

/-- Removes a location with everything below it. -/
def erase (disk : Disk) (location : Location) : Disk :=
  ⟨disk.entries.filter fun entry => !location.isPrefixOf entry.1, disk.current,
    disk.ordered.filter _⟩

/-- The entries at a location and below it. -/
def below (disk : Disk) (location : Location) : List (Location × Node) :=
  disk.entries.filter fun entry => location.isPrefixOf entry.1

/-- The names in a directory, ascending. -/
def names (disk : Disk) (location : Location) : List Name :=
  disk.entries.filterMap fun entry =>
    if entry.1.dropLast = location then entry.1.getLast? else none

end Disk
end PackageDoc
