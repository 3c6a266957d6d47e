import BootNote.Image.Inject
import BootNote.Proofs.Image.Load
import BootNote.Proofs.Image.Write

/-!
The image after a note is appended. `withNote` appends the note, writes an entry for it directly
behind the segment table and counts the entry. Where there is room for the entry this does not fail
(`effect_appendNote`): the segment table reads back with the entry at its end (`segments_withNote`),
a section table that does not reach into that room reads back as it was (`sections_withNote`), and
the bytes outside the front and the entry are those of the appended file (`get?_withNote`).
-/

set_option autoImplicit false
set_option relaxedAutoImplicit false

namespace BootNote.Image

open Bytes Elf

/-- The entry of the segment table for a note that is appended to an image. -/
def noteEntry (img : Image) : Segment :=
  .ofNotes (alignUp img.size Note.alignment) Note.size Note.alignment

/-- An image with a note at its end. -/
def noted (img : Image) (note : Note) : Image :=
  img.appendAligned note.encode.toByteArray Note.alignment

/-- An image with a note at its end and an entry for it behind the segment table, before the entry
is counted. -/
def entered (img : Image) (note : Note) : Image where
  bytes := overwrite (img.noted note).bytes
    (img.header.phoff.toNat + img.header.phnum.toNat * segmentSize)
    img.noteEntry.encode.toByteArray
  header := img.header

/-- An image with a note at its end and an entry for it at the end of the segment table. -/
def withNote (img : Image) (note : Note) : Image :=
  (img.entered note).writeHeader { img.header with phnum := img.header.phnum + 1 }

/-- There is room for one more entry: the segment table can count it, and the image holds the bytes
behind the table. -/
structure HasRoom (img : Image) : Prop where
  phnum_lt : img.header.phnum.toNat + 1 < 65535
  entry_le : img.header.phoff.toNat + img.header.phnum.toNat * segmentSize + segmentSize ≤ img.size

variable {img : Image} {note : Note}

theorem size_le_alignUp (img : Image) : img.size ≤ alignUp img.size Note.alignment :=
  le_alignUp img.size (by decide)

theorem size_noted : (img.noted note).size = alignUp img.size Note.alignment + Note.size := by
  have hle := img.size_le_alignUp
  show (Bytes.appendAligned img.bytes _ _).size = _
  rw [size_appendAligned, size_toByteArray, Note.length_encode]
  show img.size + (alignUp img.size Note.alignment - img.size) + Note.size = _
  omega

/-- Appending changes nothing in front of the end. -/
theorem get?_noted {i : Nat} (hi : i < img.size) :
    get? (img.noted note).bytes i = get? img.bytes i := by
  rw [noted, appendAligned, get?_appendAligned (by decide)]
  exact if_pos hi

section Room

variable (room : img.HasRoom)

include room

theorem toNat_phnum_succ : (img.header.phnum + 1).toNat = img.header.phnum.toNat + 1 := by
  have := room.phnum_lt
  rw [UInt16.toNat_add]
  show (img.header.phnum.toNat + 1) % 65536 = _
  omega

theorem entry_room : img.header.phoff.toNat + img.header.phnum.toNat * segmentSize +
    img.noteEntry.encode.toByteArray.size ≤ (img.noted note).bytes.size := by
  have hle := img.size_le_alignUp
  have hsize : (img.noted note).bytes.size = alignUp img.size Note.alignment + Note.size :=
    size_noted
  rw [size_toByteArray, Segment.size_encode, hsize]
  exact Nat.le_trans room.entry_le (by omega)

theorem size_entered : (img.entered note).size = (img.noted note).size :=
  size_overwrite (entry_room room)

variable (fits : img.header.FitsIn img.size)

include fits

/-- The entry can be written, because there is room for it. -/
theorem writeSegment_noted : (img.noted note).writeSegment img.header.phnum.toNat img.noteEntry =
    .ok (img.entered note) := by
  show Image.overwriteAt _ (img.header.phoff.toNat +
    img.header.phnum.toNat * img.header.phentsize.toNat) _ = _
  rw [fits.phentsize_eq]
  exact overwriteAt_eq_ok_iff.mpr ⟨entry_room room, rfl⟩

/-- Where there is room for the entry, a note is appended without failure. -/
theorem effect_appendNote : (appendNote note).effect img =
    (.ok (alignUp img.size Note.alignment), img.withNote note) := by
  have happend : (Action.update fun img ↦ .ok (Image.appendAligned img note.encode.toByteArray
      Note.alignment)).effect img = (.ok (), img.noted note) := Action.effect_update_total _ img
  have hentry : (Action.update (Image.writeSegment · img.header.phnum.toNat img.noteEntry)).effect
      (img.noted note) = (.ok (), img.entered note) :=
    Action.effect_update_ok (writeSegment_noted room fits)
  rw [appendNote, Action.effect_bind_ok (Action.effect_get img), Action.effect_bind_ok happend]
  refine (Action.effect_bind_ok hentry _).trans ?_
  rw [Action.effect_bind_ok (Action.effect_update_total _ _)]
  rfl

theorem headerSize_le_entered : headerSize ≤ (img.entered note).size := by
  have hle := img.size_le_alignUp
  have hsize := fits.headerSize_le_size
  rw [size_entered room, size_noted]
  omega

theorem size_withNote :
    (img.withNote note).size = alignUp img.size Note.alignment + Note.size := by
  rw [withNote, size_writeHeader (headerSize_le_entered room fits), size_entered room, size_noted]

theorem fitsIn_withNote (note : Note) :
    (img.withNote note).header.FitsIn (img.withNote note).size := by
  have hle := img.size_le_alignUp
  have hentry := room.entry_le
  have hcount := toNat_phnum_succ room
  rw [size_withNote room fits]
  refine ⟨fun hzero ↦ ?_, fits.phentsize_eq, fits.headerSize_le, ?_, fits.shoff_eq_zero,
    fits.shentsize_eq, fun hnum ↦ ?_⟩
  · change img.header.phnum + 1 = 0 at hzero
    rw [hzero, UInt16.toNat_zero] at hcount
    omega
  · show img.header.phoff.toNat + (img.header.phnum + 1).toNat * segmentSize ≤ _
    rw [hcount, Nat.succ_mul]
    omega
  · have hsections := fits.sections_le hnum
    show img.header.shoff.toNat + img.header.shnum.toNat * sectionSize ≤ _
    omega

/-- Behind the front and outside the new entry, the bytes are those of the appended file. -/
theorem get?_withNote {i : Nat} (hfront : headerSize ≤ i)
    (hentry : i < img.header.phoff.toNat + img.header.phnum.toNat * segmentSize ∨
      img.header.phoff.toNat + img.header.phnum.toNat * segmentSize + segmentSize ≤ i) :
    get? (img.withNote note).bytes i = get? (img.noted note).bytes i := by
  rw [withNote, get?_writeHeader (headerSize_le_entered room fits) hfront, entered,
    get?_overwrite (entry_room room), size_toByteArray, Segment.size_encode, if_neg (by omega)]

/-- The bytes behind the old segment table are those of the new entry. -/
theorem slice_withNote_entry : toList (Bytes.slice (img.withNote note).bytes
    (img.header.phoff.toNat + img.header.phnum.toNat * segmentSize) segmentSize) =
      img.noteEntry.encode := by
  have hphoff := fits.headerSize_le
  have hentered : Bytes.slice (img.withNote note).bytes
      (img.header.phoff.toNat + img.header.phnum.toNat * segmentSize) segmentSize =
        Bytes.slice (img.entered note).bytes
          (img.header.phoff.toNat + img.header.phnum.toNat * segmentSize) segmentSize :=
    slice_congr fun i _ ↦ get?_writeHeader (headerSize_le_entered room fits) (by omega)
  rw [hentered, entered, slice_overwrite_self (entry_room room) (by simp; rfl), toList_toByteArray]

/-- The segment table reads back with the entry at its end. -/
theorem segments_withNote : (img.withNote note).segments = img.segments ++ [img.noteEntry] := by
  have hphoff := fits.headerSize_le
  have hsegments := fits.segments_le
  have hold : records (img.withNote note).bytes img.header.phoff.toNat segmentSize
      img.header.phnum.toNat =
        records img.bytes img.header.phoff.toNat segmentSize img.header.phnum.toNat := by
    refine records_congr fun i hi ↦ ?_
    rw [get?_withNote room fits (by omega) (Or.inl (by omega)), get?_noted (by omega)]
  show (records _ img.header.phoff.toNat img.header.phentsize.toNat
    (img.header.phnum + 1).toNat).map Segment.decode = (records _ _ _ _).map Segment.decode ++ _
  rw [fits.phentsize_eq, toNat_phnum_succ room, records_succ, List.map_append, hold,
    slice_withNote_entry room fits, List.map_singleton, Segment.decode_encode]

/-- A section table behind the front that the entry does not touch stays as it is. -/
theorem sections_withNote (hd : img.header.shnum ≠ 0 → headerSize ≤ img.header.shoff.toNat ∧
    (img.header.shoff.toNat + img.header.shnum.toNat * sectionSize ≤
        img.header.phoff.toNat + img.header.phnum.toNat * segmentSize ∨
      img.header.phoff.toNat + img.header.phnum.toNat * segmentSize + segmentSize ≤
        img.header.shoff.toNat)) :
    (img.withNote note).sections = img.sections := by
  refine sections_congr rfl rfl rfl fun i hi ↦ ?_
  have hnum : img.header.shnum ≠ 0 := fun hzero ↦ by simp [hzero] at hi
  rw [fits.shentsize_eq hnum] at hi
  have hsections := fits.sections_le hnum
  obtain ⟨hfront, hside⟩ := hd hnum
  rw [get?_withNote room fits (by omega) (by omega), get?_noted (by omega)]

/-- The note stands at the end, where its entry says. -/
theorem slice_withNote_note : toList (Bytes.slice (img.withNote note).bytes
    (alignUp img.size Note.alignment) Note.size) = note.encode := by
  have hphoff := fits.headerSize_le
  have hle := img.size_le_alignUp
  have hentry := room.entry_le
  have hnote : Bytes.slice (img.withNote note).bytes (alignUp img.size Note.alignment) Note.size =
      note.encode.toByteArray := by
    refine eq_of_get? fun i ↦ ?_
    rw [get?_slice]
    split_ifs with hi
    · rw [get?_withNote room fits (by omega) (Or.inr (by omega)), noted, appendAligned,
        get?_appendAligned (by decide)]
      show (if _ < img.size then _ else if _ < alignUp img.size _ then _ else _) = _
      rw [if_neg (by omega), if_neg (by omega)]
      congr 1
      exact Nat.add_sub_cancel_left _ _
    · exact (get?_eq_none (by simpa using hi)).symm
  rw [hnote, toList_toByteArray]

/-- Between the old end and the note there are zeros. -/
theorem get?_withNote_padding {i : Nat} (hi : img.size ≤ i)
    (hi' : i < alignUp img.size Note.alignment) : get? (img.withNote note).bytes i = some 0 := by
  have hphoff := fits.headerSize_le
  have hentry := room.entry_le
  rw [get?_withNote room fits (by omega) (Or.inr (by omega)), noted, appendAligned,
    get?_appendAligned (by decide)]
  show (if _ < img.size then _ else if _ < alignUp img.size _ then _ else _) = _
  rw [if_neg (by omega), if_pos hi']

theorem atFront_withNote : Header.atFront (img.withNote note).bytes =
    { Header.atFront img.bytes with
      shoff := img.header.shoff, phnum := img.header.phnum + 1 } := by
  have hsize := fits.headerSize_le_size
  have hphoff := fits.headerSize_le
  rw [withNote, atFront_writeHeader (headerSize_le_entered room fits)]
  have hfront : Header.atFront (img.entered note).bytes = Header.atFront img.bytes := by
    refine Header.atFront_congr (slice_congr fun i hi ↦ ?_)
    rw [entered, get?_overwrite (entry_room room), if_neg (by omega), get?_noted (by omega)]
  rw [hfront]

/-- The image with the note is what loading its bytes gives, if that holds of the image before. -/
theorem load_withNote (hsize : img.size < lastOffset) (loaded : load img.bytes = .ok img)
    (hsize' : (img.withNote note).size < lastOffset) :
    load (img.withNote note).bytes = .ok (img.withNote note) := by
  have hfront := fits.headerSize_le_size
  have hphoff := fits.headerSize_le
  obtain ⟨-, -, hheader, -⟩ := (load_eq_ok_iff hsize).mp loaded
  refine load_of_front hsize loaded hsize' (fitsIn_withNote room fits note) ?_ ?_
  · rw [withNote, slice_writeHeader_ident (headerSize_le_entered room fits)]
    refine slice_congr fun i hi ↦ ?_
    change 64 ≤ img.header.phoff.toNat at hphoff
    change 64 ≤ img.size at hfront
    rw [entered, get?_overwrite (entry_room room), if_neg (by omega), get?_noted (by omega)]
  · rw [atFront_withNote room fits, ← hheader]
    rfl

/-- The tables stay apart if the section table is apart from the entry too. -/
theorem apart_withNote (hsize' : (img.withNote note).size < lastOffset)
    (hd : img.header.shnum ≠ 0 → headerSize ≤ img.header.shoff.toNat ∧
      (img.header.shoff.toNat + img.header.shnum.toNat * sectionSize ≤ img.header.phoff.toNat ∨
        img.header.phoff.toNat + img.header.phnum.toNat * segmentSize + segmentSize ≤
          img.header.shoff.toNat)) : (img.withNote note).header.Apart := by
  refine ((fitsIn_withNote room fits note).apart_iff hsize').mpr fun hnum ↦ ?_
  obtain ⟨hfront, hside⟩ := hd hnum
  show _ ∧ (img.header.shoff.toNat + img.header.shnum.toNat * sectionSize ≤
    img.header.phoff.toNat ∨ img.header.phoff.toNat + (img.header.phnum + 1).toNat * segmentSize ≤
      img.header.shoff.toNat)
  rw [toNat_phnum_succ room, Nat.succ_mul]
  exact ⟨hfront, by omega⟩

end Room

end BootNote.Image
