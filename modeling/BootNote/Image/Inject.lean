import BootNote.Image.Gap
import BootNote.Image.Room
import BootNote.Note

/-!
Adding a note to an image. The note goes to the end of the file, and an entry for it to the end of
the segment table. Room for the entry is found in one of two ways: if the gap behind the table is
large enough, the content behind it moves; otherwise zero bytes behind the table are used, unless
they are part of the section table.
-/

set_option autoImplicit false
set_option relaxedAutoImplicit false

namespace BootNote.Image

open Elf

/-- How an entry finds room behind the segment table, with the size of the gap there. -/
def findRoom (img : Image) : Except Error (Strategy × Nat) :=
  let tableEnd := img.header.segmentTable.stop
  let entrySize := img.header.phentsize.toNat
  let available := img.firstContent tableEnd - tableEnd
  if 65535 ≤ img.header.phnum.toNat + 1 then .error (.format .segmentCountOverflow)
  else if entrySize ≤ available then .ok (.shifted, available)
  else if (img.header.shnum = 0 ∨
        !img.header.sectionTable.meets tableEnd (tableEnd + entrySize)) ∧
      img.isZeroed tableEnd entrySize then
    .ok (.reusedPadding, available)
  else .error (.noSpace entrySize available)

/-- Appends a note and writes an entry for it behind the last one of the segment table. Gives the
offset of the note. -/
def appendNote (note : Note) : Action Image Nat := do
  let img ← Action.get
  let index := img.header.phnum.toNat
  let noteOffset := Bytes.alignUp img.size Note.alignment
  Action.update fun img ↦ .ok (img.appendAligned note.encode.toByteArray Note.alignment)
  Action.update (·.writeSegment index (.ofNotes noteOffset Note.size Note.alignment))
  Action.update fun img ↦ .ok (img.writeHeader { img.header with phnum := img.header.phnum + 1 })
  return noteOffset

/-- Adds a note to the image. -/
def inject (note : Note) : Action Image Injection := do
  let img ← Action.get
  let tableEnd := img.header.segmentTable.stop
  let index := img.header.phnum.toNat
  let (strategy, available) ← Action.ofExcept img.findRoom
  Action.emit (.roomFound tableEnd available strategy)
  if strategy = .shifted then makeRoom tableEnd img.header.phentsize.toNat
  let noteOffset ← appendNote note
  let injection : Injection :=
    { strategy, available, segmentOffset := tableEnd, noteOffset, index }
  Action.emit (.injected injection)
  return injection

end BootNote.Image
