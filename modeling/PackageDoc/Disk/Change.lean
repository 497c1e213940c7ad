import PackageDoc.Disk.Basic

/-! # What changed on a disk -/
set_option autoImplicit false

namespace PackageDoc.Disk

/-- The locations at which two disks differ, with what the second one holds there. -/
def changesTo (before after : Disk) : List (Location × Option Node) :=
  let gone := before.entries.filterMap fun entry =>
    if (after.node? entry.1).isNone then some (entry.1, none) else none
  let set := after.entries.filterMap fun entry =>
    if before.node? entry.1 = some entry.2 then none else some (entry.1, some entry.2)
  gone ++ set

end PackageDoc.Disk
