import BootNote.Disk

/-!
What the system does with directories by path. A directory can be made together with those that lead
to it; what is made before a failure stays, so that operation gives a disk in either case.
-/

set_option autoImplicit false
set_option relaxedAutoImplicit false

namespace BootNote.Disk

/-- Whether a path leads to a directory. -/
def isDirectory (disk : Disk) (path : SystemText) : Bool :=
  match disk.locate path with
  | .ok (_, .directory) => true
  | _ => false

/-- Makes a directory. -/
def makeDirectory (disk : Disk) (path : SystemText) : Except SystemFault Disk := do
  let target ← disk.target path
  if isDots target.name then throw .alreadyExists
  let place ← child target.directory target.name
  if (disk.get? place).isSome then throw .alreadyExists
  disk.device.create place
  return disk.put place .directory

/-- Makes the first of some paths a directory, after those behind it as far as they are needed. -/
def makeDirectories (disk : Disk) : List SystemText → Except SystemFault Unit × Disk
  | [] => (.ok (), disk)
  | path :: shorter =>
    match disk.makeDirectory path with
    | .ok made => (.ok (), made)
    | .error .noEntry =>
      match disk.makeDirectories shorter with
      | (.error fault, left) => (.error fault, left)
      | (.ok (), left) =>
        match left.makeDirectory path with
        | .ok made => (.ok (), made)
        | .error fault => (if left.isDirectory path then .ok () else .error fault, left)
    | .error fault => (if disk.isDirectory path then .ok () else .error fault, disk)

/-- Makes a directory and those that lead to it. -/
def ensureDirectory (disk : Disk) (path : SystemText) : Except SystemFault Unit × Disk :=
  disk.makeDirectories (Path.ancestors path)

/-- What lies in a directory and in those inside it, each with the names that lead to it from
there. -/
def listing (disk : Disk) (place : Place) : List (Place × Entry) :=
  disk.entries.filterMap fun (p, entry) ↦
    if place.isPrefixOf p && p != place then some (p.drop place.length, entry) else none

end BootNote.Disk
