import BootNote.Image.Notes
import BootNote.Proofs.Image.Stretch
import BootNote.Proofs.Note
import Mathlib.Data.List.Basic

/-!
The notes of an image after an injection: where the segments of notes are clear and the new entry
takes the place of none of their bytes, the notes are those from before with the new one at the end
(`notes_injected`). The segment of the new note is clear again (`isClear_noteEntry`).
-/

set_option autoImplicit false
set_option relaxedAutoImplicit false

namespace BootNote.Image

open Bytes Elf

variable {img : Image} (note : Note) {strategy : Strategy} {available : Nat}
  (fits : img.header.FitsIn img.size) (hsize : img.size < lastOffset)
  (found : img.findRoom = .ok (strategy, available)) (checked : img.checkFor strategy = .ok ())

include fits hsize found checked

/-- A segment keeps its notes. -/
theorem notesIn_injected {s : Segment} (hs : s ∈ img.segments)
    (clear : img.IsClear s.offset.toNat s.filesz.toNat)
    (beside : strategy = .reusedPadding → img.IsBesideEntry s.offset.toNat s.filesz.toNat) :
    ((img.roomFor strategy).withNote note).notesIn (s.moved img.entryOffset strategy.growth) =
      img.notesIn s := by
  have hslice := slice_injected note fits hsize found checked clear beside
  rw [← toNat_moved ((movable_of_checkFor checked).segments s hs)] at hslice
  rw [notesIn, notesIn, ← hslice]
  rfl

/-- The note ends the image. -/
theorem slice_injected_note : ((img.roomFor strategy).withNote note).slice
    (alignUp (img.size + strategy.growth) Note.alignment) Note.size =
      .ok note.encode.toByteArray := by
  obtain ⟨fits', room⟩ := hasRoom_roomFor fits hsize found checked
  have hnote : toList (Bytes.slice ((img.roomFor strategy).withNote note).bytes
      (alignUp (img.roomFor strategy).size Note.alignment) Note.size) = note.encode :=
    slice_withNote_note room fits'
  rw [size_roomFor fits checked] at hnote
  rw [Image.slice, if_pos (Nat.le_of_eq (size_injected note fits hsize found checked).symm),
    toList_inj.mp (hnote.trans (toList_toByteArray _).symm)]

variable (hsize' : ((img.roomFor strategy).withNote note).size < lastOffset)

include hsize'

/-- The new segment holds the note and nothing else. -/
theorem notesIn_noteEntry :
    ((img.roomFor strategy).withNote note).notesIn (img.roomFor strategy).noteEntry = [note] := by
  have hfilesz : (img.roomFor strategy).noteEntry.filesz.toNat = Note.size := rfl
  rw [notesIn, toNat_offset_noteEntry note fits hsize found checked hsize', hfilesz,
    slice_injected_note note fits hsize found checked]
  exact Note.readAll_encode note

/-- The note is no part of the header and of the tables. -/
theorem isClear_noteEntry : ((img.roomFor strategy).withNote note).IsClear
    (img.roomFor strategy).noteEntry.offset.toNat
    (img.roomFor strategy).noteEntry.filesz.toNat := by
  obtain ⟨fits', room⟩ := hasRoom_roomFor fits hsize found checked
  have hoffset := toNat_offset_noteEntry note fits hsize found checked hsize'
  have hend := size_injected note fits hsize found checked
  have hle : (img.roomFor strategy).size ≤ (img.roomFor strategy).noteEntry.offset.toNat := by
    rw [hoffset, ← size_roomFor fits checked]
    exact size_le_alignUp _
  rw [← hoffset] at hend
  refine isClear_of_le (Nat.le_of_eq hend.symm) (Nat.le_trans fits'.headerSize_le_size hle)
    (Or.inr ?_) fun hnum ↦ Or.inr (Nat.le_trans (fits'.sections_le hnum) hle)
  rw [entryOffset_injected note fits hsize found checked, ← entryOffset_roomFor]
  exact Nat.le_trans room.entry_le hle

/-- The notes of the old segments come first, each read where its segment has moved, and the new
note comes last. -/
theorem notes_injected_eq : ((img.roomFor strategy).withNote note).notes =
    ((img.segments.filter (·.type = Segment.note)).flatMap fun s ↦
      ((img.roomFor strategy).withNote note).notesIn (s.moved img.entryOffset strategy.growth)) ++
        [note] := by
  have hmoved : (img.segments.map (Segment.moved img.entryOffset strategy.growth)).filter
      (·.type = Segment.note) = (img.segments.filter (·.type = Segment.note)).map
        (Segment.moved img.entryOffset strategy.growth) := List.filter_map
  have hentry : [(img.roomFor strategy).noteEntry].filter (·.type = Segment.note) =
      [(img.roomFor strategy).noteEntry] := rfl
  rw [notes, segments_injected note fits hsize found checked, List.filter_append, hmoved,
    hentry, List.flatMap_append, List.flatMap_map, List.flatMap_singleton,
    notesIn_noteEntry note fits hsize found checked hsize']

theorem notes_injected
    (clear : ∀ s ∈ img.segments, s.type = Segment.note →
      img.IsClear s.offset.toNat s.filesz.toNat)
    (beside : strategy = .reusedPadding → ∀ s ∈ img.segments, s.type = Segment.note →
      img.IsBesideEntry s.offset.toNat s.filesz.toNat) :
    ((img.roomFor strategy).withNote note).notes = img.notes ++ [note] := by
  rw [notes_injected_eq note fits hsize found checked hsize', notes]
  refine congrArg (· ++ [note]) (List.flatMap_congr fun s hs ↦ ?_)
  obtain ⟨hmem, hdecide⟩ := List.mem_filter.mp hs
  have htype := of_decide_eq_true hdecide
  exact notesIn_injected note fits hsize found checked hmem (clear s hmem htype)
    fun reuses ↦ beside reuses s hmem htype

end BootNote.Image
