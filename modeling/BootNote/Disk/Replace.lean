import BootNote.Action
import BootNote.Disk.File

/-!
Replacing a file as a whole. The new bytes go to a temporary file in the same directory, which takes
the place of the file only when it is complete; if anything fails before, the temporary file is
removed, so that the disk is either as it was or has the whole new file.
-/

set_option autoImplicit false
set_option relaxedAutoImplicit false

namespace BootNote.Disk

/-- Asks the disk for something, and fails with what was being done if the system refuses. -/
def ask {α : Type} (task : FileTask) (question : Disk → Except SystemFault α) : Action Disk α := do
  let disk ← Action.get
  Action.ofExcept ((question disk).mapError (.io task))

/-- Changes the disk, and fails with what was being done if the system refuses. -/
def change (task : FileTask) (step : Disk → Except SystemFault Disk) : Action Disk Unit :=
  Action.update fun disk ↦ (step disk).mapError (.io task)

/-- Changes the disk in steps, of which those before a refusal stay made. -/
def changeAll (task : FileTask) (steps : Disk → Except SystemFault Unit × Disk) :
    Action Disk Unit := fun disk ↦
  let (result, left) := steps disk
  ⟨result.mapError (.io task), left, []⟩

/-- Makes a file with bytes and waits until they last. -/
def writeFile (path : SystemText) (data : ByteArray) : Action Disk Unit := do
  change (.create path) (·.create path)
  changeAll (.write path) (·.writeAll path data)
  ask (.write path) (·.sync path)

/-- Gives the file at a path new bytes and the permission bits of the file at a second path. The
mark of the run tells its temporary file apart from those of other runs. -/
def replace (run : String) (path model : SystemText) (data : ByteArray) : Action Disk Unit :=
  let temporary := Path.temporary run path
  let steps : Action Disk Unit := do
    writeFile temporary data
    let disk ← Action.get
    if let some mode := disk.mode? model then
      change (.setPermissions temporary) (·.setMode temporary mode)
    change (.move temporary path) (·.rename temporary path)
  steps.cleanup fun disk ↦ (disk.remove temporary).toOption.getD disk

end BootNote.Disk
