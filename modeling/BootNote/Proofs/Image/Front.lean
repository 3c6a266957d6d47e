import BootNote.Proofs.Image.Frame

/-!
The header after an injection, wherever the section table lies. Loading bounds the section table
from above only, so a file may place it over its own header. Making room writes the entries of that
table after the header, and where the first entry moves, its offset is written into the header's
fields: `SpoilsHeader` says when a field changes in this way. An injection leaves a file that loads
with the header it should have exactly if that does not happen (`header_of_load_iff`); it never
happens to a file whose tables lie apart (`not_spoilsHeader_of_apart`).
-/

set_option autoImplicit false
set_option relaxedAutoImplicit false

namespace BootNote.Image

open Bytes Elf

/-- Where `len` bytes are inserted at `pos`, the first section moves, and a byte of its offset that
changes is a byte of a field of the header that has to stay. The offset is at byte 24 of the
entry. -/
def SpoilsHeader (img : Image) (pos len : Nat) : Prop :=
  ∃ s ∈ img.sections.head?, ∃ k, Header.Kept (img.header.shoff.toNat + 24 + k) ∧
    (Word.ofLong (s.moved pos len).offset)[k]? ≠ (Word.ofLong s.offset)[k]?

variable {img out : Image} {pos len p : Nat}

/-- Without an insertion, nothing moves. -/
theorem not_spoilsHeader_zero : ¬ img.SpoilsHeader pos 0 := by
  rintro ⟨s, -, k, -, hne⟩
  exact hne (by simp)

/-- From byte 40 on, a section table has the offset of its first section behind the header. -/
theorem not_spoilsHeader_of_le (hshoff : 40 ≤ img.header.shoff.toNat) :
    ¬ img.SpoilsHeader pos len := by
  rintro ⟨s, -, k, kept, -⟩
  have hlt := kept.lt_headerSize
  rw [headerSize] at hlt
  omega

theorem not_spoilsHeader_of_apart (fits : img.header.FitsIn img.size)
    (hsize : img.size < lastOffset) (apart : img.header.Apart) : ¬ img.SpoilsHeader pos len := by
  by_cases hnum : img.header.shnum = 0
  · rintro ⟨s, hs, -⟩
    have hnone : img.sections = [] := List.eq_nil_of_length_eq_zero (by simp [hnum])
    simp [hnone] at hs
  · exact not_spoilsHeader_of_le (Nat.le_trans (by decide)
      ((fits.apart_iff hsize).mp apart hnum).1)

/-! ### Bytes of the front after room is made -/

/-- The entry of a section that moves changes where its offset does. -/
theorem getElem?_encode_moved_eq_iff (s : Section) (i : Nat) :
    (s.moved pos len).encode[i]? = s.encode[i]? ↔
      ¬ ∃ k, 24 + k = i ∧
        (Word.ofLong (s.moved pos len).offset)[k]? ≠ (Word.ofLong s.offset)[k]? := by
  have hmoved : s.moved pos len = { s with offset := (s.moved pos len).offset } := by
    unfold Section.moved
    split_ifs <;> rfl
  have hat (o : UInt64) := s.getElem?_encode_offset o i
  have hs := hat s.offset
  rw [show ({ s with offset := s.offset } : Section) = s from rfl] at hs
  rw [hmoved, hat]
  by_cases hfield : 24 ≤ i ∧ i < 32
  · rw [if_pos hfield] at hs ⊢
    rw [hs]
    constructor
    · rintro heq ⟨k, rfl, hne⟩
      rw [Nat.add_sub_cancel_left] at heq
      exact hne heq
    · intro h
      by_contra hne
      exact h ⟨i - 24, by omega, hne⟩
  · rw [if_neg hfield]
    refine iff_of_true rfl ?_
    rintro ⟨k, rfl, hne⟩
    refine hne ?_
    rw [List.getElem?_eq_none (by simp; omega), List.getElem?_eq_none (by simp; omega)]

section WithRoom

variable (fits : img.header.FitsIn img.size) (movable : img.Movable pos len)
  (hpos : headerSize ≤ pos) (hle : pos ≤ img.size) (kept : Header.Kept p)

include fits hpos hle kept

theorem get?_grown_of_kept : get? (img.grown pos len).bytes p = get? img.bytes p := by
  have hp := kept.lt_headerSize
  have hsize : headerSize ≤ size { img with bytes := insert img.bytes pos (zeros len) } := by
    show headerSize ≤ (insert img.bytes pos (zeros len)).size
    rw [size_insert]
    exact Nat.le_trans fits.headerSize_le_size (Nat.le_add_right _ _)
  rw [grown, get?_writeHeader_of_kept hsize kept, get?_insert hle, if_pos (by omega)]

include movable

/-- In the front, room changes the two fields of the header and what lies there of the section
table. -/
theorem get?_withRoom_of_kept : get? (img.withRoom pos len).bytes p =
    if img.header.shnum ≠ 0 ∧ img.header.shoff.toNat ≤ p then
      ((img.sections.map (Section.moved pos len)).flatMap Section.encode)[
        p - img.header.shoff.toNat]?
    else get? img.bytes p := by
  have hp := kept.lt_headerSize
  have hphoff := fits.headerSize_le
  have hsecs : (img.sections.map (Section.moved pos len)).length =
      (img.grown pos len).header.shnum.toNat := by simp
  have hgrown := fitsIn_grown fits movable.shoff
  rw [withRoom, get?_withSegments (fitsIn_withSections hgrown hsecs) (by simp)
    (Or.inl (by simp; omega)), ← get?_grown_of_kept fits hpos hle kept]
  have hplace (hnum : img.header.shnum ≠ 0) : (img.grown pos len).header.shoff.toNat =
      shifted pos len img.header.shoff.toNat := by
    rw [header_grown, Header.moved_shoff_of_ne _ hnum, toNat_moved (movable.shoff hnum)]
  split_ifs with htable
  · obtain ⟨hnum, hstart⟩ := htable
    have hshnum := Header.toNat_pos hnum
    have hshoff := hplace hnum
    rw [shifted_of_lt (by omega)] at hshoff
    have hlen : ((img.sections.map (Section.moved pos len)).flatMap
        Section.encode).toByteArray.size = img.header.shnum.toNat * sectionSize := by
      rw [size_flatMap Section.size_encode]
      simp
    simp only [headerSize, sectionSize] at hp hlen
    rw [withSections, get?_overwrite (sections_room hgrown hsecs), hshoff, hlen,
      if_pos (by omega), get?, toList_toByteArray]
  · refine get?_withSections hgrown hsecs fun hnum ↦ Or.inl ?_
    rw [header_grown, Header.moved_shnum] at hnum
    rw [hplace hnum, shifted]
    have hlt := not_and.mp htable hnum
    split_ifs <;> omega

/-- A byte of the front changes with room exactly if it is a byte of the first section's offset and
that offset changes in it. -/
theorem get?_withRoom_eq_iff : get? (img.withRoom pos len).bytes p = get? img.bytes p ↔
    ¬ ∃ s ∈ img.sections.head?, ∃ k, img.header.shoff.toNat + 24 + k = p ∧
      (Word.ofLong (s.moved pos len).offset)[k]? ≠ (Word.ofLong s.offset)[k]? := by
  have hp := kept.lt_headerSize
  rw [get?_withRoom_of_kept fits movable hpos hle kept]
  split_ifs with htable
  · obtain ⟨hnum, hstart⟩ := htable
    have hshnum := Header.toNat_pos hnum
    obtain ⟨s, rest, hsections⟩ : ∃ s rest, img.sections = s :: rest :=
      List.exists_cons_of_length_pos (by simpa using hshnum)
    simp only [headerSize] at hp
    have hfirst (t : Section) (l : List Section) : ((t :: l).flatMap Section.encode)[
        p - img.header.shoff.toNat]? = t.encode[p - img.header.shoff.toNat]? := by
      rw [List.flatMap_cons, List.getElem?_append_left (by simp; omega)]
    rw [← getElem?_sections fits hnum hstart (by simp only [sectionSize]; omega), hsections,
      List.map_cons, hfirst, hfirst, getElem?_encode_moved_eq_iff]
    simp only [List.head?_cons, Option.mem_some, exists_eq_left']
    refine not_congr (exists_congr fun k ↦ and_congr_left fun _ ↦ ?_)
    omega
  · refine iff_of_true rfl ?_
    rintro ⟨s, hs, k, hk, -⟩
    refine htable ⟨fun hnum ↦ ?_, by omega⟩
    have hnone : img.sections = [] := List.eq_nil_of_length_eq_zero (by simp [hnum])
    simp [hnone] at hs

end WithRoom

/-! ### The header of the result -/

section RoomFor

variable {note : Note} {strategy : Strategy} {available : Nat}
  (fits : img.header.FitsIn img.size) (hsize : img.size < lastOffset)
  (found : img.findRoom = .ok (strategy, available)) (checked : img.checkFor strategy = .ok ())

include fits checked

theorem get?_roomFor_eq_iff : (∀ p, Header.Kept p → get? (img.roomFor strategy).bytes p =
    get? img.bytes p) ↔ ¬ img.SpoilsHeader img.entryOffset strategy.growth := by
  cases strategy with
  | shifted =>
    obtain ⟨movable, hle⟩ := checkRoom_eq_ok_iff.mp checked
    have hpos : headerSize ≤ img.entryOffset :=
      Nat.le_trans fits.headerSize_le (Nat.le_add_right _ _)
    constructor
    · rintro h ⟨s, hs, k, kept, hne⟩
      exact (get?_withRoom_eq_iff fits movable hpos hle kept).mp (h _ kept) ⟨s, hs, k, rfl, hne⟩
    · intro h p kept
      refine (get?_withRoom_eq_iff fits movable hpos hle kept).mpr ?_
      rintro ⟨s, hs, k, rfl, hne⟩
      exact h ⟨s, hs, k, kept, hne⟩
  | reusedPadding => exact iff_of_true (fun _ _ ↦ rfl) not_spoilsHeader_zero

include hsize found

/-- The header at the front of the result is the one that the image holds exactly if the header is
not spoilt. -/
theorem atFront_injected_iff (hheader : img.header = Header.atFront img.bytes) :
    Header.atFront ((img.roomFor strategy).withNote note).bytes =
        ((img.roomFor strategy).withNote note).header ↔
      ¬ img.SpoilsHeader img.entryOffset strategy.growth := by
  obtain ⟨fits', room⟩ := hasRoom_roomFor fits hsize found checked
  have hmoved : ((img.roomFor strategy).withNote note).header =
      { Header.atFront img.bytes with
        shoff := (img.roomFor strategy).header.shoff
        phnum := (img.roomFor strategy).header.phnum + 1 } := by
    rw [header_injected, ← Header.moved_eq, hheader, header_roomFor, ← hheader, Header.moved_phnum]
  rw [atFront_withNote room fits', hmoved,
    Header.atFront_with_eq_iff fits'.headerSize_le_size fits.headerSize_le_size]
  exact get?_roomFor_eq_iff fits checked

theorem load_injected_iff (loaded : load img.bytes = .ok img)
    (hsize' : ((img.roomFor strategy).withNote note).size < lastOffset) :
    load ((img.roomFor strategy).withNote note).bytes =
        .ok ((img.roomFor strategy).withNote note) ↔
      ¬ img.SpoilsHeader img.entryOffset strategy.growth := by
  obtain ⟨fits', room⟩ := hasRoom_roomFor fits hsize found checked
  obtain ⟨-, -, hheader, -⟩ := (load_eq_ok_iff hsize).mp loaded
  rw [load_eq_ok_iff_atFront hsize loaded hsize' (fitsIn_withNote room fits' note) ?_]
  · exact atFront_injected_iff fits hsize found checked hheader
  · rw [header_injected, ← Header.moved_eq]

end RoomFor

/-- A header that places no section table has its offset at zero, where nothing moves. -/
theorem header_injected_eq {note : Note} {strategy : Strategy} (fits : img.header.FitsIn img.size) :
    ((img.roomFor strategy).withNote note).header = { img.header with
      shoff := moved img.entryOffset strategy.growth img.header.shoff
      phnum := img.header.phnum + 1 } := by
  rw [header_injected, ← Header.moved_eq]
  by_cases hnum : img.header.shnum = 0
  · have hpos : 0 < img.entryOffset :=
      Nat.lt_of_lt_of_le (by decide) (Nat.le_trans fits.headerSize_le (Nat.le_add_right _ _))
    simp [Header.moved_of_eq _ hnum, fits.shoff_eq_zero hnum, moved, hpos]
  · rw [Header.moved_shoff_of_ne _ hnum]

/-! ### A file whose section table lies over its header -/

/-- A header that places a table of one section over itself. As a section it is not null, and the
entry address is its offset. -/
def lowHeader : Header := { sampleHeader with entry := 0x100000, shoff := 0, shnum := 1 }

def lowSegment : Segment := { sampleSegment with offset := 176, filesz := 16, memsz := 16 }

/-- A file with a gap behind its segment table that can hold one more entry. -/
def lowBytes : ByteArray :=
  ⟨⟨lowHeader.encode ++ lowSegment.encode ++ List.replicate 56 0 ++ List.replicate 16 0x90⟩⟩

def lowImage : Image := ⟨lowBytes, lowHeader⟩

def lowInjection : Injection where
  strategy := .shifted
  available := 56
  segmentOffset := 120
  noteOffset := 248
  index := 1

/-- The file after a note is added. -/
def lowResult : Image := (lowImage.roomFor .shifted).withNote ⟨0x1000⟩

theorem toList_lowBytes : toList lowBytes = lowHeader.encode ++
    [lowSegment].flatMap Segment.encode ++ (List.replicate 56 0 ++ List.replicate 16 0x90) := by
  simp [lowBytes, toList]

theorem length_encode_lowHeader : lowHeader.encode.length = headerSize := Header.size_encode rfl

theorem size_eq_lowImage : lowImage.size = 192 := by
  rw [Image.size, lowImage, ← length_toList, toList_lowBytes]
  simp [length_encode_lowHeader, headerSize]

theorem size_lowBytes : lowBytes.size < capacity := by
  rw [show lowBytes.size = 192 from size_eq_lowImage]
  decide

theorem size_lowImage : lowImage.size < lastOffset := lt_lastOffset size_lowBytes

theorem fits_lowImage : lowImage.header.FitsIn lowImage.size := by
  rw [size_eq_lowImage]
  exact ⟨by decide, rfl, by decide, by decide, nofun, fun _ ↦ rfl, fun _ ↦ by decide⟩

theorem load_lowBytes : load lowBytes = .ok lowImage :=
  load_of_encode size_lowImage rfl (by decide) fits_lowImage
    (toList_lowBytes.trans (List.append_assoc _ _ _))

theorem entryOffset_lowImage : lowImage.entryOffset = 120 := rfl

theorem sections_lowImage : lowImage.sections = [Section.decode lowHeader.encode] := by
  show (records lowBytes 0 headerSize 1).map Section.decode = _
  simp [records, toList_lowBytes, List.append_assoc, List.take_left' length_encode_lowHeader]

theorem segments_lowImage : lowImage.segments = [lowSegment] := by
  show (records lowBytes headerSize segmentSize [lowSegment].length).map Segment.decode = _
  rw [← length_encode_lowHeader]
  exact Segment.isCodec.map_decode_records (holdsAt_of_toList_eq toList_lowBytes)

theorem findRoom_lowImage : lowImage.findRoom = .ok (.shifted, 56) := by
  simp only [findRoom, firstContent, contentStarts, sections_lowImage, segments_lowImage,
    size_eq_lowImage]
  decide +kernel

theorem checkFor_lowImage : lowImage.checkFor .shifted = .ok () := by
  refine checkFor_shifted fits_lowImage (by rw [size_eq_lowImage]; decide) ?_ ?_
  · rw [sections_lowImage]
    decide +kernel
  · rw [segments_lowImage]
    decide

theorem inject_lowImage : (inject ⟨0x1000⟩).effect lowImage = (.ok lowInjection, lowResult) := by
  refine (effect_inject_eq_ok_iff fits_lowImage size_lowImage).mpr
    ⟨findRoom_lowImage, checkFor_lowImage, rfl, ?_, rfl, rfl⟩
  show 248 = alignUp (lowImage.roomFor .shifted).size Note.alignment
  rw [size_roomFor fits_lowImage checkFor_lowImage, size_eq_lowImage]
  rfl

theorem spoilsHeader_lowImage : lowImage.SpoilsHeader 120 56 :=
  ⟨Section.decode lowHeader.encode, by rw [sections_lowImage]; rfl, 0, by decide, by decide +kernel⟩

/-! ### The header that the result loads with -/

/-- After an injection into any file that loads, the result loads with the header of the file
before, in which the number of segments is one greater and the section table's offset moved, exactly
if the injection does not spoil the header. -/
theorem header_of_load_iff {bytes : ByteArray} {note : Note} {injection : Injection}
    (hsize : bytes.size < capacity) (loaded : load bytes = .ok img)
    (injected : (inject note).effect img = (.ok injection, out)) :
    (∃ img', load out.bytes = .ok img' ∧ img'.header = { img.header with
      shoff := moved img.entryOffset injection.strategy.growth img.header.shoff
      phnum := img.header.phnum + 1 }) ↔
      ¬ img.SpoilsHeader img.entryOffset injection.strategy.growth := by
  obtain ⟨loaded, fits, hlast, found, checked, rfl, hsize'⟩ := injects_of_load hsize loaded injected
  rw [← header_injected_eq fits, exists_load_header_iff hsize']
  exact load_injected_iff fits hlast found checked loaded hsize'

theorem header_of_load_lowImage : (∃ img', load lowResult.bytes = .ok img' ∧
    img'.header = { lowHeader with shoff := moved 120 56 0, phnum := 2 }) ↔
      ¬ lowImage.SpoilsHeader 120 56 := by
  have h := header_of_load_iff size_lowBytes load_lowBytes inject_lowImage
  rwa [entryOffset_lowImage] at h

/-- The entry address of the file is the offset of its first section too. It lies behind the segment
table and moves, so the result does not load with the entry address of the file. -/
theorem not_header_of_load_lowImage : load lowBytes = .ok lowImage ∧
    (inject ⟨0x1000⟩).effect lowImage = (.ok lowInjection, lowResult) ∧
    ¬ ∃ img', load lowResult.bytes = .ok img' ∧
      img'.header = { lowHeader with shoff := moved 120 56 0, phnum := 2 } := by
  refine ⟨load_lowBytes, inject_lowImage, fun hexists ↦ ?_⟩
  have hgrown := size_injected_le ⟨0x1000⟩ fits_lowImage size_lowImage findRoom_lowImage
    checkFor_lowImage
  have hsize' : lowResult.size < lastOffset := by
    rw [size_eq_lowImage] at hgrown
    exact Nat.lt_of_le_of_lt hgrown (by decide)
  have hheader : lowResult.header = { lowHeader with shoff := moved 120 56 0, phnum := 2 } := by
    have h : lowResult.header = { lowHeader with
        shoff := moved lowImage.entryOffset segmentSize 0, phnum := 2 } :=
      header_injected_eq fits_lowImage
    rwa [entryOffset_lowImage] at h
  rw [← hheader, exists_load_header_iff hsize'] at hexists
  have hclear := (load_injected_iff fits_lowImage size_lowImage findRoom_lowImage checkFor_lowImage
    load_lowBytes hsize').mp hexists
  rw [entryOffset_lowImage] at hclear
  exact hclear spoilsHeader_lowImage

end BootNote.Image
