import BootNote.Proofs.Image.Layout

/-!
What an injection leaves in a file, byte for byte. `AddsNote` accounts for every byte of the result:
the header, the two tables and the new entry, the zeros in front of the note and the note are given,
and every other byte is the one that the strategy moved there. `addsNote_of_inject` shows it of
every injection into a loaded file whose tables lie apart.
-/

set_option autoImplicit false
set_option relaxedAutoImplicit false

namespace BootNote.Image

open Bytes Elf

/-- `out` is `img` with a note added as `injection` tells, where `note` is the note. The content
behind the segment table has moved by the growth of the strategy. -/
structure AddsNote (img : Image) (note : Note) (injection : Injection) (out : Image) : Prop where
  /-- The note stands at the first multiple of four behind the content. -/
  noteOffset_eq : injection.noteOffset = (img.size + injection.strategy.growth + 3) / 4 * 4
  noteOffset_le : injection.noteOffset ≤ lastOffset
  /-- The note ends the file. -/
  size_eq : out.size = injection.noteOffset + 20
  note_eq : toList (Bytes.slice out.bytes injection.noteOffset 20) = note.encode
  /-- The note is the lengths of its name and of its descriptor, its type, its name and the entry
  address. -/
  encode_note : note.encode =
    Word.ofWord 4 ++ Word.ofWord 4 ++ Word.ofWord 18 ++ [0x50, 0x56, 0x48, 0x00] ++
      Word.ofWord note.entry
  padding : ∀ i, img.size + injection.strategy.growth ≤ i → i < injection.noteOffset →
    get? out.bytes i = some 0
  /-- No offset that moves leaves the 64-bit range. -/
  movable : img.Movable img.entryOffset injection.strategy.growth
  phnum_lt : img.header.phnum.toNat + 1 < 65535
  /-- Of the header, the place of the section table and the number of segments change. -/
  header_eq : toList (Bytes.slice out.bytes 0 headerSize) =
    Header.encode { img.header.moved img.entryOffset injection.strategy.growth with
      phnum := img.header.phnum + 1 }
  /-- The entries of the segment table stay at their places, and of each its offset may change. An
  entry is nothing but its fields (`Segment.encode_decode`). -/
  segments_eq : records out.bytes img.header.phoff.toNat segmentSize img.header.phnum.toNat =
    (img.segments.map (Segment.moved img.entryOffset injection.strategy.growth)).map Segment.encode
  /-- The new entry is of type 4, for notes, with flag 4, for what can be read. It has the offset of
  the note, no address in either space, the size of the note in the file and in memory, and the
  alignment of the note. -/
  entry_eq : toList (Bytes.slice out.bytes img.entryOffset 56) =
    Word.ofWord 4 ++ Word.ofWord 4 ++ Word.ofLong (.ofNat injection.noteOffset) ++
      Word.ofLong 0 ++ Word.ofLong 0 ++ Word.ofLong 20 ++ Word.ofLong 20 ++ Word.ofLong 4
  /-- The section table stands where the header places it now, and of each entry its offset may
  change. -/
  sections_eq : img.header.shnum ≠ 0 → records out.bytes
    (shifted img.entryOffset injection.strategy.growth img.header.shoff.toNat) sectionSize
      img.header.shnum.toNat =
    (img.sections.map (Section.moved img.entryOffset injection.strategy.growth)).map Section.encode
  /-- Every other byte is the one that was moved to its place. -/
  elsewhere : ∀ i, img.IsContent i →
    (shifted img.entryOffset injection.strategy.growth i < img.entryOffset ∨
      img.entryOffset + segmentSize ≤ shifted img.entryOffset injection.strategy.growth i) →
    get? out.bytes (shifted img.entryOffset injection.strategy.growth i) = get? img.bytes i

theorem header_injected (img : Image) (note : Note) (strategy : Strategy) :
    ((img.roomFor strategy).withNote note).header =
      { img.header.moved img.entryOffset strategy.growth with phnum := img.header.phnum + 1 } := by
  show { (img.roomFor strategy).header with phnum := (img.roomFor strategy).header.phnum + 1 } = _
  rw [header_roomFor, Header.moved_phnum]

theorem toNat_shoff_injected {img : Image} (note : Note) {strategy : Strategy}
    (checked : img.checkFor strategy = .ok ()) (hnum : img.header.shnum ≠ 0) :
    ((img.roomFor strategy).withNote note).header.shoff.toNat =
      shifted img.entryOffset strategy.growth img.header.shoff.toNat := by
  rw [header_injected, Header.moved_shoff_of_ne _ hnum,
    toNat_moved ((movable_of_checkFor checked).shoff hnum)]

section RoomFor

variable {img : Image} (note : Note) {strategy : Strategy} {available : Nat}
  (fits : img.header.FitsIn img.size) (hsize : img.size < lastOffset)
  (found : img.findRoom = .ok (strategy, available)) (checked : img.checkFor strategy = .ok ())
  (apart : img.header.Apart)

include fits hsize found checked

theorem size_injected : ((img.roomFor strategy).withNote note).size =
    alignUp (img.size + strategy.growth) Note.alignment + Note.size := by
  obtain ⟨fits', room⟩ := hasRoom_roomFor fits hsize found checked
  rw [size_withNote room fits', size_roomFor fits checked]

/-- A file grows by an entry, the zeros in front of the note and the note at most. -/
theorem size_injected_le : ((img.roomFor strategy).withNote note).size ≤ img.size + 79 := by
  have hlt := alignUp_lt (img.size + strategy.growth) (show 0 < Note.alignment by decide)
  have hgrowth : strategy.growth ≤ 56 := by cases strategy <;> decide
  rw [size_injected note fits hsize found checked]
  simp only [Note.alignment, Note.size] at *
  omega

theorem fitsIn_injected : ((img.roomFor strategy).withNote note).header.FitsIn
    ((img.roomFor strategy).withNote note).size := by
  obtain ⟨fits', room⟩ := hasRoom_roomFor fits hsize found checked
  exact fitsIn_withNote room fits' note

theorem toNat_phnum_injected : ((img.roomFor strategy).withNote note).header.phnum.toNat =
    img.header.phnum.toNat + 1 := by
  obtain ⟨-, room⟩ := hasRoom_roomFor fits hsize found checked
  show ((img.roomFor strategy).header.phnum + 1).toNat = _
  rw [toNat_phnum_succ room, header_roomFor, Header.moved_phnum]

theorem entryOffset_injected : ((img.roomFor strategy).withNote note).entryOffset =
    img.entryOffset + segmentSize := by
  rw [entryOffset, toNat_phnum_injected note fits hsize found checked, header_injected,
    Header.moved_phoff, Nat.succ_mul, ← Nat.add_assoc]
  rfl

/-- The entry of the segment table says where the note stands. -/
theorem toNat_offset_noteEntry (hsize' : ((img.roomFor strategy).withNote note).size < lastOffset) :
    (img.roomFor strategy).noteEntry.offset.toNat =
      alignUp (img.size + strategy.growth) Note.alignment := by
  rw [size_injected note fits hsize found checked] at hsize'
  rw [noteEntry, size_roomFor fits checked]
  refine UInt64.toNat_ofNat_of_lt' ?_
  simp only [lastOffset, UInt64.size] at *
  omega

theorem segments_injected : ((img.roomFor strategy).withNote note).segments =
    img.segments.map (Segment.moved img.entryOffset strategy.growth) ++
      [(img.roomFor strategy).noteEntry] := by
  obtain ⟨fits', room⟩ := hasRoom_roomFor fits hsize found checked
  rw [segments_withNote room fits', segments_roomFor fits checked]

/-- The bytes of the segment table and of the entry that follows it. -/
theorem records_injected : records ((img.roomFor strategy).withNote note).bytes
      img.header.phoff.toNat segmentSize img.header.phnum.toNat ++
        [toList (Bytes.slice ((img.roomFor strategy).withNote note).bytes img.entryOffset
          segmentSize)] =
    (img.segments.map (Segment.moved img.entryOffset strategy.growth)).map Segment.encode ++
      [(img.roomFor strategy).noteEntry.encode] := by
  have htable := encode_segments (fitsIn_injected note fits hsize found checked)
  rw [segments_injected note fits hsize found checked,
    toNat_phnum_injected note fits hsize found checked, records_succ, List.map_append,
    List.map_singleton, header_injected, Header.moved_phoff] at htable
  exact htable.symm

theorem records_injected_segments : records ((img.roomFor strategy).withNote note).bytes
      img.header.phoff.toNat segmentSize img.header.phnum.toNat =
    (img.segments.map (Segment.moved img.entryOffset strategy.growth)).map Segment.encode :=
  (List.append_inj' (records_injected note fits hsize found checked) (by simp)).1

theorem slice_injected_entry :
    toList (Bytes.slice ((img.roomFor strategy).withNote note).bytes img.entryOffset segmentSize) =
      (img.roomFor strategy).noteEntry.encode := by
  have hrecords := records_injected note fits hsize found checked
  exact List.singleton_inj.mp (List.append_inj' hrecords (by simp)).2

/-- Every byte of the content stands where the strategy moves it, unless the new entry takes its
place. -/
theorem get?_injected_shifted {i : Nat} (content : img.IsContent i)
    (hbeside : shifted img.entryOffset strategy.growth i < img.entryOffset ∨
      img.entryOffset + segmentSize ≤ shifted img.entryOffset strategy.growth i) :
    get? ((img.roomFor strategy).withNote note).bytes (shifted img.entryOffset strategy.growth i) =
      get? img.bytes i := by
  obtain ⟨fits', room⟩ := hasRoom_roomFor fits hsize found checked
  have hentry : (img.roomFor strategy).header.phoff.toNat +
      (img.roomFor strategy).header.phnum.toNat * segmentSize = img.entryOffset :=
    entryOffset_roomFor
  have hgrown := size_roomFor fits checked
  have hi := content.lt_size
  have hfront := content.headerSize_le
  have hplace : i ≤ shifted img.entryOffset strategy.growth i ∧
      shifted img.entryOffset strategy.growth i < img.size + strategy.growth := by
    unfold shifted
    split_ifs <;> omega
  rw [get?_withNote room fits' (by omega) (by omega), get?_noted (by omega)]
  exact get?_roomFor_shifted fits checked content

include apart

theorem sections_injected : ((img.roomFor strategy).withNote note).sections =
    img.sections.map (Section.moved img.entryOffset strategy.growth) := by
  obtain ⟨fits', room⟩ := hasRoom_roomFor fits hsize found checked
  rw [sections_withNote room fits' fun hnum ↦ ?_, sections_roomFor fits hsize checked apart]
  rw [header_roomFor, Header.moved_shnum] at hnum
  have htable := sectionTable_roomFor fits hsize found checked apart hnum
  simp only [header_roomFor, Header.moved_phoff, Header.moved_phnum, Header.moved_shnum,
    entryOffset] at htable ⊢
  omega

theorem apart_injected (hsize' : ((img.roomFor strategy).withNote note).size < lastOffset) :
    ((img.roomFor strategy).withNote note).header.Apart := by
  obtain ⟨fits', room⟩ := hasRoom_roomFor fits hsize found checked
  refine apart_withNote room fits' hsize' fun hnum ↦ ?_
  rw [header_roomFor, Header.moved_shnum] at hnum
  have htable := sectionTable_roomFor fits hsize found checked apart hnum
  simpa [entryOffset] using htable

/-- The bytes of the section table. -/
theorem records_injected_sections (hnum : img.header.shnum ≠ 0) :
    records ((img.roomFor strategy).withNote note).bytes
      (shifted img.entryOffset strategy.growth img.header.shoff.toNat) sectionSize
      img.header.shnum.toNat =
    (img.sections.map (Section.moved img.entryOffset strategy.growth)).map Section.encode := by
  have hcount : ((img.roomFor strategy).withNote note).header.shnum = img.header.shnum := by
    rw [header_injected, Header.moved_shnum]
  have htable := encode_sections (fitsIn_injected note fits hsize found checked) (by rwa [hcount])
  rw [sections_injected note fits hsize found checked apart,
    toNat_shoff_injected note checked hnum, hcount] at htable
  exact htable.symm

/-- The header at the front is that of the image that room was made in, with one more segment. -/
theorem atFront_injected (hheader : img.header = Header.atFront img.bytes) :
    Header.atFront ((img.roomFor strategy).withNote note).bytes =
      { img.header.moved img.entryOffset strategy.growth with phnum := img.header.phnum + 1 } := by
  obtain ⟨fits', room⟩ := hasRoom_roomFor fits hsize found checked
  rw [atFront_withNote room fits', atFront_roomFor fits hsize checked apart hheader,
    header_roomFor, Header.moved_phnum]

end RoomFor

/-- A successful injection into a file that loads found room for the note, and the result is short
enough to be loaded. -/
structure Injects (img : Image) (note : Note) (injection : Injection) (out : Image) : Prop where
  loaded : load img.bytes = .ok img
  fits : img.header.FitsIn img.size
  size_lt : img.size < lastOffset
  found : img.findRoom = .ok (injection.strategy, injection.available)
  checked : img.checkFor injection.strategy = .ok ()
  out_eq : out = (img.roomFor injection.strategy).withNote note
  size_out_lt : out.size < lastOffset

theorem injects_of_load {bytes : ByteArray} {img out : Image} {note : Note} {injection : Injection}
    (hsize : bytes.size < capacity) (loaded : load bytes = .ok img)
    (injected : (inject note).effect img = (.ok injection, out)) :
    img.Injects note injection out := by
  have hlast := lt_lastOffset hsize
  obtain ⟨rfl, -⟩ := (load_eq_ok_iff hlast).mp loaded
  have fits := fitsIn_of_load hlast loaded
  obtain ⟨found, checked, -, -, -, rfl⟩ := (effect_inject_eq_ok_iff fits hlast).mp injected
  refine ⟨loaded, fits, hlast, found, checked, rfl, ?_⟩
  have hgrown := size_injected_le note fits hlast found checked
  simp only [Image.size, capacity, lastOffset] at *
  omega

/-! ### A file with one segment -/

/-- A segment that is loaded from the start of the file on, with the header and the tables. -/
def sampleSegment : Segment where
  type := Segment.load
  flags := Segment.readable
  offset := 0
  vaddr := 0
  paddr := 0
  filesz := 200
  memsz := 200
  align := 4096

/-- A section with the last bytes of the segment. -/
def sampleSection : Section where
  name := 0
  type := 1
  flags := 0
  addr := 0
  offset := 176
  size := 24
  link := 0
  info := 0
  addralign := 1
  entsize := 0

/-- A file with a gap behind its segment table that can hold one more entry. -/
def sampleBytes : ByteArray :=
  ⟨⟨sampleHeader.encode ++ sampleSegment.encode ++ List.replicate 56 0 ++ List.replicate 24 0x90 ++
    List.replicate 64 0 ++ sampleSection.encode⟩⟩

def sampleImage : Image := ⟨sampleBytes, sampleHeader⟩

def sampleInjection : Injection where
  strategy := .shifted
  available := 56
  segmentOffset := 120
  noteOffset := 384
  index := 1

/-- The sample file after a note is added. -/
def sampleResult : Image := (sampleImage.roomFor .shifted).withNote ⟨0x1000⟩

/-- The parts of the sample file. -/
def sampleParts : Parts where
  segments := [sampleSegment]
  body := List.replicate 56 0 ++ List.replicate 24 0x90
  sections := [⟨0, Section.null, 0, 0, 0, 0, 0, 0, 0, 0⟩, sampleSection]
  size_lt := by decide

theorem bytes_sampleParts : sampleParts.bytes = sampleBytes := by
  refine toList_inj.mp ?_
  rw [Parts.bytes, toList_toByteArray]
  decide +kernel

theorem image_sampleParts : sampleParts.image = sampleImage := by
  rw [Parts.image, bytes_sampleParts]
  rfl

theorem size_sampleBytes : sampleBytes.size < capacity := by
  rw [← bytes_sampleParts]
  exact sampleParts.size_bytes

theorem size_sampleImage : sampleImage.size < lastOffset := lt_lastOffset size_sampleBytes

theorem load_sampleBytes : load sampleBytes = .ok sampleImage := by
  rw [← image_sampleParts, ← bytes_sampleParts]
  exact sampleParts.load_image

theorem apart_sampleImage : sampleImage.header.Apart := by
  rw [← image_sampleParts]
  exact sampleParts.apart_header

theorem segments_sampleImage : sampleImage.segments = [sampleSegment] := by
  rw [← image_sampleParts]
  exact sampleParts.segments_image

theorem size_eq_sampleImage : sampleImage.size = 328 := by
  rw [← image_sampleParts]
  exact sampleParts.size_image

theorem fits_sampleImage : sampleImage.header.FitsIn sampleImage.size :=
  fitsIn_of_load size_sampleImage load_sampleBytes

theorem findRoom_sampleImage : sampleImage.findRoom = .ok (.shifted, 56) := by
  rw [← image_sampleParts]
  refine sampleParts.findRoom_of_gap (by decide) ?_ (by decide)
  rw [Parts.firstContent_image]
  decide +kernel

theorem checkFor_sampleImage : sampleImage.checkFor .shifted = .ok () := by
  rw [← image_sampleParts]
  exact sampleParts.checkFor_image (by decide +kernel) (by decide +kernel)

theorem size_sampleResult : sampleResult.size = 404 := by
  obtain ⟨fits, room⟩ := hasRoom_roomFor fits_sampleImage size_sampleImage findRoom_sampleImage
    checkFor_sampleImage
  rw [sampleResult, size_withNote room fits, size_roomFor fits_sampleImage checkFor_sampleImage,
    size_eq_sampleImage]
  rfl

theorem inject_sampleImage :
    (inject ⟨0x1000⟩).effect sampleImage = (.ok sampleInjection, sampleResult) := by
  have found := findRoom_sampleImage
  have checked := checkFor_sampleImage
  rw [sampleResult]
  rw [← image_sampleParts] at found checked ⊢
  exact sampleParts.inject_image _ found checked rfl (by decide +kernel) rfl

/-! ### The bytes of the result -/

/-- Every injection into a loaded file whose tables lie apart adds the note and does nothing
else. -/
theorem addsNote_of_inject {bytes : ByteArray} {img out : Image} {note : Note}
    {injection : Injection} (hsize : bytes.size < capacity) (loaded : load bytes = .ok img)
    (apart : img.header.Apart) (injected : (inject note).effect img = (.ok injection, out)) :
    img.AddsNote note injection out := by
  have hlast := lt_lastOffset hsize
  obtain ⟨rfl, -, hheader, -⟩ := (load_eq_ok_iff hlast).mp loaded
  have fits := fitsIn_of_load hlast loaded
  change img.size < capacity at hsize
  obtain ⟨found, checked, -, hnote, -, rfl⟩ :=
    (effect_inject_eq_ok_iff fits hlast).mp injected
  obtain ⟨fits', room⟩ := hasRoom_roomFor fits hlast found checked
  have hgrown := size_roomFor fits checked
  exact {
    noteOffset_eq := by
      rw [hnote, hgrown]
      rfl
    noteOffset_le := by
      have hlt := alignUp_lt (img.size + injection.strategy.growth)
        (show 0 < Note.alignment by decide)
      have hgrowth : injection.strategy.growth ≤ 56 := by cases injection.strategy <;> decide
      rw [hnote, hgrown]
      simp only [capacity, lastOffset, Note.alignment] at *
      omega
    size_eq := by
      rw [hnote]
      exact size_withNote room fits'
    note_eq := by
      rw [hnote]
      exact slice_withNote_note room fits'
    encode_note := rfl
    padding := by
      intro i hi hi'
      rw [hnote] at hi'
      exact get?_withNote_padding room fits' (by omega) hi'
    movable := movable_of_checkFor checked
    phnum_lt := by simpa using room.phnum_lt
    header_eq := by
      rw [← atFront_injected note fits hlast found checked apart hheader,
        Header.encode_atFront (fitsIn_withNote room fits' note).headerSize_le_size]
    segments_eq := records_injected_segments note fits hlast found checked
    entry_eq := by
      refine (slice_injected_entry note fits hlast found checked).trans ?_
      rw [noteEntry, ← hnote]
      rfl
    sections_eq := by
      intro hnum
      exact records_injected_sections note fits hlast found checked apart hnum
    elsewhere := by
      intro i content hbeside
      exact get?_injected_shifted note fits hlast found checked content hbeside }

theorem addsNote_sampleImage : sampleImage.AddsNote ⟨0x1000⟩ sampleInjection sampleResult :=
  addsNote_of_inject size_sampleBytes load_sampleBytes apart_sampleImage inject_sampleImage

end BootNote.Image
