import BootNote.Disk.Replace
import BootNote.Patch

/-!
Patching a kernel on a disk. The output is written as a whole or not at all, and it may be the input
itself.
-/

set_option autoImplicit false
set_option relaxedAutoImplicit false

namespace BootNote

/-- Adds a note with the entry address to the kernel at the input path and writes the result to the
output path, with the permission bits of the input. -/
def patchFile (options : Options) (source : Source) (run : String)
    (input output : SystemText) (address : Option UInt64) : Action Disk Report := do
  Action.emit (.reading input)
  let bytes ← Disk.ask (.read input) (·.read input)
  let (patched, report) ← patchBytes options source input bytes address
  Disk.replace run output input patched
  Action.emit (.wrote patched.size output)
  return report

end BootNote
