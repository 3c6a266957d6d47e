import BootNote.Image
import BootNote.Note.Records

/-!
The boot notes of an image: those in its note segments, in the order of the segment table. A segment
that does not lie in the file has none.
-/

set_option autoImplicit false
set_option relaxedAutoImplicit false

namespace BootNote.Image

open Elf

/-- The boot notes in a segment. -/
def notesIn (img : Image) (s : Segment) : List Note :=
  match img.slice s.offset.toNat s.filesz.toNat with
  | .ok data => Note.readAll data
  | .error _ => []

/-- The boot notes of an image. -/
def notes (img : Image) : List Note :=
  (img.segments.filter (·.type = Segment.note)).flatMap img.notesIn

end BootNote.Image
