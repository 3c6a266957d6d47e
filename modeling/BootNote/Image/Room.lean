import BootNote.Action
import BootNote.Image

/-!
Making room in an image: zero bytes are inserted at a position and everything that the header and
the tables place at or behind it moves along. All offsets are moved first, so an offset that would
leave the 64-bit range stops the action before it changes anything.
-/

set_option autoImplicit false
set_option relaxedAutoImplicit false

namespace BootNote

open Elf

/-- Where an offset comes to lie when `len` bytes are inserted at `pos`. -/
def relocate (pos len : Nat) (offset : UInt64) : Except Error UInt64 :=
  if offset.toNat < pos then .ok offset
  else if offset.toNat + len ≤ lastOffset then .ok (.ofNat (offset.toNat + len))
  else .error (.format (.offsetOverflow offset.toNat len))

namespace Elf

/-- A header with its section table moved, if it has one. -/
def Header.relocate (pos len : Nat) (h : Header) : Except Error Header :=
  if h.shnum = 0 then .ok h
  else do return { h with shoff := ← BootNote.relocate pos len h.shoff }

/-- A section moved. A null entry places nothing and stays as it is. -/
def Section.relocate (pos len : Nat) (s : Section) : Except Error Section :=
  if s.isNull then .ok s
  else do return { s with offset := ← BootNote.relocate pos len s.offset }

/-- A segment moved. -/
def Segment.relocate (pos len : Nat) (s : Segment) : Except Error Segment := do
  return { s with offset := ← BootNote.relocate pos len s.offset }

end Elf

namespace Image

/-- Inserts `len` zero bytes at `pos`, which lies behind the segment table, and moves along what the
header and the tables place there. -/
def makeRoom (pos len : Nat) : Action Image Unit := do
  let img ← Action.get
  let header ← Action.ofExcept (img.header.relocate pos len)
  if header.shoff ≠ img.header.shoff then
    Action.emit (.sectionTableMoved img.header.shoff header.shoff)
  let sections ← Action.ofExcept (img.sections.mapM (Section.relocate pos len))
  let segments ← Action.ofExcept (img.segments.mapM (Segment.relocate pos len))
  Action.update (·.insertAt pos (Bytes.zeros len))
  Action.update fun img ↦ .ok (img.writeHeader header)
  Action.updateEach (fun (s, index) img ↦ img.writeSection index s) sections.zipIdx
  Action.updateEach (fun (s, index) img ↦ img.writeSegment index s) segments.zipIdx

end Image

end BootNote
