import BootNote.Bytes
import BootNote.Disk.Path
import BootNote.Error

/-!
Disks: files and directories, how a path leads to one, and what the device behind them refuses. A
path is walked from the root or from the home directory, every name on the way has to lead to a
directory, and a slash at its end asks for one; where it leads nowhere, the fault says what the
system answers. `get?` is the view in which disks are compared, and `get?_put` and `get?_erase` say
what the two changes that all operations are made of do to it.
-/

set_option autoImplicit false
set_option relaxedAutoImplicit false

namespace BootNote

/-- Where an entry lies: the names that lead to it from the root. -/
abbrev Place := List SystemText

/-- What a place holds. -/
inductive Entry where
  | file (mode : Nat) (data : ByteArray)
  | directory
  deriving DecidableEq

/-- The permission bits of a file. -/
def Entry.mode? : Entry → Option Nat
  | file mode _ => some mode
  | directory => none

/-- What may stop a step on a file that the paths allow: the device behind a disk is full or broken,
or a permission is missing. Unless it says otherwise, a device stops nothing. That a file is taken
out of a directory in which it could be made is never stopped, and a step that is only interrupted
is taken again. -/
structure Device where
  /-- Reading the file at a place. -/
  read : Place → Except SystemFault Unit := fun _ ↦ .ok ()
  /-- Making a file or a directory at a place, or opening the file there for writing. -/
  create : Place → Except SystemFault Unit := fun _ ↦ .ok ()
  /-- Writing `count` bytes to a file that has `size`. Gives how many of them are taken at once. -/
  write : (place : Place) → (size count : Nat) → Except SystemFault Nat := fun _ _ count ↦ .ok count
  /-- Making what was written to a file last. -/
  sync : Place → Except SystemFault Unit := fun _ ↦ .ok ()
  /-- Giving a file permission bits. -/
  setMode : Place → (mode : Nat) → Except SystemFault Unit := fun _ _ ↦ .ok ()
  /-- Moving a file from one place to another. -/
  rename : (old new : Place) → Except SystemFault Unit := fun _ _ ↦ .ok ()

/-- Files and directories. -/
structure Disk where
  /-- What lies where. The root is a directory and has no entry of its own. -/
  entries : List (Place × Entry) := []
  /-- The directory in which relative paths start. -/
  home : Place := []
  device : Device := {}

namespace Disk

/-- The number of bytes from which a path is too long. -/
def pathLimit : Nat := 4096

/-- The number of bytes in the longest name. -/
def nameLimit : Nat := 255

/-! ### Entries -/

/-- What a place holds, if it holds anything. -/
def get? (disk : Disk) (place : Place) : Option Entry :=
  if place = [] then some .directory else disk.entries.lookup place

/-- A disk without what a place holds. -/
def erase (disk : Disk) (place : Place) : Disk :=
  { disk with entries := disk.entries.filter fun (other, _) ↦ other != place }

/-- A disk with another entry at a place. -/
def put (disk : Disk) (place : Place) (entry : Entry) : Disk :=
  { disk with entries := (place, entry) :: (disk.erase place).entries }

theorem device_put (disk : Disk) (place : Place) (entry : Entry) :
    (disk.put place entry).device = disk.device := rfl

theorem lookup_filter_ne (entries : List (Place × Entry)) (place other : Place) :
    (entries.filter fun (p, _) ↦ p != place).lookup other =
      if other = place then none else entries.lookup other := by
  induction entries with
  | nil => simp
  | cons e rest ih =>
    obtain ⟨p, entry⟩ := e
    by_cases hp : p = place
    · rw [List.filter_cons_of_neg (by simp [hp]), ih]
      by_cases ho : other = place
      · simp [ho]
      · simp [hp, ho, List.lookup_cons, beq_eq_false_iff_ne.mpr]
    · rw [List.filter_cons_of_pos (by simp [hp]), List.lookup_cons, List.lookup_cons, ih]
      by_cases ho : other = p
      · simp [ho, hp]
      · simp [beq_eq_false_iff_ne.mpr ho]

theorem get?_erase (disk : Disk) {place : Place} (other : Place) (h : place ≠ []) :
    (disk.erase place).get? other = if other = place then none else disk.get? other := by
  by_cases ho : other = [] <;> simp_all [get?, erase, lookup_filter_ne, eq_comm]

theorem get?_put (disk : Disk) {place : Place} (entry : Entry) (other : Place) (h : place ≠ []) :
    (disk.put place entry).get? other =
      if other = place then some entry else disk.get? other := by
  by_cases hp : other = place
  · simp [get?, put, hp, h]
  · simp [get?, put, erase, lookup_filter_ne, List.lookup_cons, hp, beq_eq_false_iff_ne.mpr hp]

/-! ### Paths -/

/-- Where the last name of a path is to be looked up. -/
structure Target where
  /-- An existing directory. -/
  directory : Place
  name : SystemText
  /-- Whether only a directory will do. -/
  slash : Bool

/-- The place that a name leads to from a directory. -/
def child (here : Place) (name : SystemText) : Except SystemFault Place :=
  if name = "." then .ok here
  else if name = ".." then .ok here.dropLast
  else if nameLimit < name.bytes.length then .error .nameTooLong
  else .ok (here ++ [name])

/-- The directory that a name leads to from a directory. -/
def enter (disk : Disk) (here : Place) (name : SystemText) : Except SystemFault Place := do
  let place ← child here name
  match disk.get? place with
  | some .directory => return place
  | some (.file _ _) => throw .notDirectory
  | none => throw .noEntry

/-- Walks along a path up to its last name. -/
def target (disk : Disk) (path : SystemText) : Except SystemFault Target := do
  if path.bytes.contains 0 then throw .nulInPath
  if path.bytes.isEmpty then throw .noEntry
  if pathLimit ≤ path.bytes.length then throw .nameTooLong
  let start := if Path.isAbsolute path then [] else disk.home
  let names := Path.names path
  let directory ← (start ++ names.dropLast).foldlM disk.enter []
  return ⟨directory, names.getLast?.getD ".", Path.hasFinalSlash path⟩

/-- Whether a name leads to a directory that is already there: the one it is looked up in, or the
one above. -/
def isDots (name : SystemText) : Bool := name == "." || name == ".."

/-- The place that a path leads to and what it holds. -/
def locate (disk : Disk) (path : SystemText) : Except SystemFault (Place × Entry) := do
  let target ← disk.target path
  let place ← child target.directory target.name
  match disk.get? place with
  | none => throw .noEntry
  | some .directory => return (place, .directory)
  | some (.file mode data) =>
    if target.slash then throw .notDirectory else return (place, .file mode data)

end Disk

end BootNote
