import BootNote.Disk

/-!
What the system does with files by path. Each operation gives the disk as it is afterwards, or the
reason why the system refuses. A file is given bytes in two steps, by opening it and by writing to
it as often as it takes; what was written before a failure stays, so that operation gives a disk in
either case.
-/

set_option autoImplicit false
set_option relaxedAutoImplicit false

namespace BootNote.Disk

/-- The permission bits of a file that is created. -/
def newMode : Nat := 0o644

/-- The bytes of a file. -/
def read (disk : Disk) (path : SystemText) : Except SystemFault ByteArray := do
  match ← disk.locate path with
  | (place, .file _ data) =>
    disk.device.read place
    return data
  | (_, .directory) => throw .isDirectory

/-- The permission bits of a file. -/
def mode? (disk : Disk) (path : SystemText) : Option Nat :=
  match disk.locate path with
  | .ok (_, entry) => entry.mode?
  | .error _ => none

/-- Puts bytes in the place of those of a file, or makes a file with them. A file that is there
keeps its permission bits. -/
def write (disk : Disk) (path : SystemText) (data : ByteArray) : Except SystemFault Disk := do
  let target ← disk.target path
  if target.slash || isDots target.name then throw .isDirectory
  let place ← child target.directory target.name
  if disk.get? place = some .directory then throw .isDirectory
  disk.device.create place
  return disk.put place (.file (((disk.get? place).bind Entry.mode?).getD newMode) data)

/-- Opens a file for writing. A file that is there is emptied, and where none is one is made. -/
def create (disk : Disk) (path : SystemText) : Except SystemFault Disk := disk.write path .empty

/-- Writes bytes behind those of a file, as many of them as are taken at once. Gives their
number. -/
def append (disk : Disk) (path : SystemText) (data : ByteArray) :
    Except SystemFault (Nat × Disk) := do
  match ← disk.locate path with
  | (place, .file mode old) =>
    let taken := min (← disk.device.write place old.size data.size) data.size
    return (taken, disk.put place (.file mode (old ++ data.extract 0 taken)))
  | (_, .directory) => throw .isDirectory

/-- Writes bytes behind those of a file until all of them are taken. -/
def writeAll (disk : Disk) (path : SystemText) (data : ByteArray) :
    Except SystemFault Unit × Disk :=
  if data.size = 0 then (.ok (), disk)
  else
    match disk.append path data with
    | .error fault => (.error fault, disk)
    | .ok (0, left) => (.error .writeZero, left)
    | .ok (taken + 1, left) => left.writeAll path (data.extract (taken + 1) data.size)
termination_by data.size
decreasing_by simp only [ByteArray.size_extract]; omega

/-- Waits until what was written to a file lasts. -/
def sync (disk : Disk) (path : SystemText) : Except SystemFault Unit := do
  let (place, _) ← disk.locate path
  disk.device.sync place

/-- Gives a file new permission bits. -/
def setMode (disk : Disk) (path : SystemText) (mode : Nat) : Except SystemFault Disk := do
  match ← disk.locate path with
  | (place, .file _ data) =>
    disk.device.setMode place mode
    return disk.put place (.file mode data)
  | (_, .directory) => throw .isDirectory

/-- Removes a file. -/
def remove (disk : Disk) (path : SystemText) : Except SystemFault Disk := do
  match ← disk.locate path with
  | (place, .file _ _) => return disk.erase place
  | (_, .directory) => throw .isDirectory

/-- Moves a file to a path, in place of a file that is there. -/
def rename (disk : Disk) (source path : SystemText) : Except SystemFault Disk := do
  let old ← disk.target source
  let new ← disk.target path
  if isDots old.name || isDots new.name then throw .busy
  let oldPlace ← child old.directory old.name
  match disk.get? oldPlace with
  | none => throw .noEntry
  | some .directory => throw .isDirectory
  | some entry =>
    let newPlace ← child new.directory new.name
    if old.slash || new.slash then throw .notDirectory
    if disk.get? newPlace = some .directory then throw .isDirectory
    disk.device.rename oldPlace newPlace
    return (disk.erase oldPlace).put newPlace entry

end BootNote.Disk
