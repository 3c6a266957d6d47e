import BootNote.Image

/-!
The gap behind a position: the bytes up to the first place where content starts. Content is the
section table, every section that is not null, and every segment with bytes in the file; where there
is none, the gap ends with the file.
-/

set_option autoImplicit false
set_option relaxedAutoImplicit false

namespace BootNote.Image

open Elf

/-- The offsets at which content starts. -/
def contentStarts (img : Image) : List Nat :=
  (if img.header.shnum = 0 then [] else [img.header.shoff.toNat]) ++
    (img.sections.filter (!·.isNull)).map (·.offset.toNat) ++
    (img.segments.filter (·.filesz ≠ 0)).map (·.offset.toNat)

/-- The first offset from `start` on at which content starts, or the end of the file. -/
def firstContent (img : Image) (start : Nat) : Nat :=
  (img.contentStarts.filter (start ≤ ·)).foldl min img.size

end BootNote.Image
