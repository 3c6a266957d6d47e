import BootNote.Proofs.Image.Injection

/-!
Files put together from their parts: the header, the segment table directly behind it, further
bytes, and the section table at the end. The file loads (`load_image`), its tables lie apart
(`apart_header`), and the parts read back as they were written (`segments_image`, `sections_image`,
`slice_image`). Whether a note can be added is decided on the parts alone (`findRoom_of_gap`,
`findRoom_of_zeros`, `checkFor_image`).
-/

set_option autoImplicit false
set_option relaxedAutoImplicit false

namespace BootNote.Image

open Bytes Elf

/-- The header of a file with one segment and one section. -/
def sampleHeader : Header where
  ident := Header.magic ++ [Header.class64, Header.littleEndian, 1] ++ List.replicate 9 0
  type := 2
  machine := 62
  version := 1
  entry := 0
  phoff := 64
  shoff := 200
  flags := 0
  ehsize := 64
  phentsize := 56
  phnum := 1
  shentsize := 64
  shnum := 2
  shstrndx := 0

/-- The parts of a file with segments and sections. -/
structure Parts where
  segments : List Segment
  /-- The bytes between the two tables. -/
  body : List UInt8
  sections : List Section
  segments_pos : 0 < segments.length := by simp
  segments_lt : segments.length < 65536 := by simp
  sections_pos : 0 < sections.length := by simp
  sections_lt : sections.length < 65536 := by simp
  size_lt : headerSize + segments.length * segmentSize + body.length +
    sections.length * sectionSize < capacity

namespace Parts

variable (p : Parts) {pos len : Nat}

/-- Where the bytes between the two tables start. -/
def bodyStart : Nat := headerSize + p.segments.length * segmentSize

/-- Where the section table starts. -/
def sectionStart : Nat := p.bodyStart + p.body.length

/-- The header of the file. -/
def header : Header := { sampleHeader with
  shoff := .ofNat p.sectionStart
  phnum := .ofNat p.segments.length
  shnum := .ofNat p.sections.length }

/-- The file. -/
def bytes : ByteArray :=
  (p.header.encode ++ p.segments.flatMap Segment.encode ++ p.body ++
    p.sections.flatMap Section.encode).toByteArray

/-- The file with its header. -/
def image : Image := ⟨p.bytes, p.header⟩

@[simp] theorem header_image : p.image.header = p.header := rfl

@[simp] theorem bytes_image : p.image.bytes = p.bytes := by rw [image]

@[simp] theorem toNat_phoff : p.header.phoff.toNat = headerSize := rfl

@[simp] theorem toNat_phentsize : p.header.phentsize.toNat = segmentSize := rfl

@[simp] theorem toNat_shentsize : p.header.shentsize.toNat = sectionSize := rfl

@[simp] theorem toNat_phnum : p.header.phnum.toNat = p.segments.length :=
  UInt16.toNat_ofNat_of_lt' p.segments_lt

@[simp] theorem toNat_shnum : p.header.shnum.toNat = p.sections.length :=
  UInt16.toNat_ofNat_of_lt' p.sections_lt

@[simp] theorem toNat_shoff : p.header.shoff.toNat = p.sectionStart := by
  have hsize := p.size_lt
  refine UInt64.toNat_ofNat_of_lt' ?_
  simp only [sectionStart, bodyStart, capacity, UInt64.size] at *
  omega

@[simp] theorem entryOffset_image : p.image.entryOffset = p.bodyStart := by
  rw [entryOffset, header_image, toNat_phnum]
  rfl

theorem length_encode_header : p.header.encode.length = headerSize := Header.size_encode rfl

@[simp] theorem size_image : p.image.size = p.sectionStart + p.sections.length * sectionSize := by
  rw [Image.size, image, bytes, size_toByteArray]
  simp only [List.length_append, length_encode_header, length_flatMap Segment.size_encode,
    length_flatMap Section.size_encode]
  rfl

theorem size_bytes : p.bytes.size < capacity := by
  have hsize := p.size_lt
  have himage := p.size_image
  simp only [Image.size, image, sectionStart, bodyStart] at himage
  omega

theorem size_image_lt : p.image.size < lastOffset := by
  rw [Image.size, bytes_image]
  exact lt_lastOffset p.size_bytes

theorem shnum_ne_zero : p.header.shnum ≠ 0 := by
  intro hzero
  have hpos := p.sections_pos
  rw [← toNat_shnum, hzero] at hpos
  exact absurd hpos (by decide)

theorem phnum_ne_zero : p.header.phnum ≠ 0 := by
  intro hzero
  have hpos := p.segments_pos
  rw [← toNat_phnum, hzero] at hpos
  exact absurd hpos (by decide)

theorem fitsIn_header : p.header.FitsIn p.image.size where
  phnum_ne_zero := p.phnum_ne_zero
  phentsize_eq := rfl
  headerSize_le := Nat.le_refl _
  segments_le := by
    simp only [toNat_phoff, toNat_phnum, size_image, sectionStart, bodyStart]
    omega
  shoff_eq_zero hzero := absurd hzero p.shnum_ne_zero
  shentsize_eq _ := rfl
  sections_le _ := by simp

theorem load_image : load p.bytes = .ok p.image := by
  have fits := p.fitsIn_header
  rw [Image.size, bytes_image] at fits
  rw [image]
  have hbytes : toList p.bytes = p.header.encode ++
      (p.segments.flatMap Segment.encode ++ p.body ++ p.sections.flatMap Section.encode) := by
    simp only [bytes, toList_toByteArray, List.append_assoc]
  exact load_of_encode (lt_lastOffset p.size_bytes) rfl
    (by decide : Header.checkIdent sampleHeader.ident = .ok ()) fits hbytes

theorem apart_header : p.header.Apart := by
  refine (p.fitsIn_header.apart_iff p.size_image_lt).mpr fun _ ↦ ?_
  simp only [toNat_phoff, toNat_phnum, toNat_shoff, sectionStart, bodyStart]
  omega

@[simp] theorem segments_image : p.image.segments = p.segments := by
  have hbytes : toList p.bytes = p.header.encode ++ p.segments.flatMap Segment.encode ++
      (p.body ++ p.sections.flatMap Section.encode) := by
    simp only [bytes, toList_toByteArray, List.append_assoc]
  rw [Image.segments, header_image, toNat_phoff, toNat_phentsize, toNat_phnum, bytes_image,
    ← p.length_encode_header]
  exact Segment.isCodec.map_decode_records (holdsAt_of_toList_eq hbytes)

@[simp] theorem sections_image : p.image.sections = p.sections := by
  have hfront : (p.header.encode ++ p.segments.flatMap Segment.encode ++ p.body).length =
      p.sectionStart := by
    simp only [List.length_append, length_encode_header, length_flatMap Segment.size_encode]
    rfl
  have hbytes : toList p.bytes = p.header.encode ++ p.segments.flatMap Segment.encode ++ p.body ++
      p.sections.flatMap Section.encode ++ [] := by
    simp only [bytes, toList_toByteArray, List.append_nil]
  rw [Image.sections, header_image, toNat_shoff, toNat_shentsize, toNat_shnum, bytes_image,
    ← hfront]
  exact Section.isCodec.map_decode_records (holdsAt_of_toList_eq hbytes)

/-- A stretch between the two tables has the bytes that the file was put together from. -/
theorem slice_image (pos len : Nat) (h : pos + len ≤ p.body.length) :
    p.image.slice (p.bodyStart + pos) len = .ok ((p.body.drop pos).take len).toByteArray := by
  have hfront : (p.header.encode ++ p.segments.flatMap Segment.encode).length = p.bodyStart := by
    simp only [List.length_append, length_encode_header, length_flatMap Segment.size_encode]
    rfl
  have holds : HoldsAt p.bytes p.bodyStart p.body := by
    rw [← hfront]
    exact holdsAt_of_toList_eq (toList_toByteArray _)
  rw [Image.slice, if_pos (by simp only [size_image, sectionStart]; omega)]
  refine congrArg Except.ok (toList_inj.mp ?_)
  rw [toList_toByteArray, bytes_image, holds.toList_slice h]

theorem isZeroed_image (pos len : Nat) (h : pos + len ≤ p.body.length) :
    p.image.isZeroed (p.bodyStart + pos) len = ((p.body.drop pos).take len).all (· == 0) := by
  rw [isZeroed, p.slice_image pos len h]
  simp only [toList_toByteArray]

/-! ### Adding a note -/

theorem firstContent_image (start : Nat) : p.image.firstContent start =
    ((p.sectionStart :: ((p.sections.filter (!·.isNull)).map (·.offset.toNat) ++
      (p.segments.filter (·.filesz ≠ 0)).map (·.offset.toNat))).filter (start ≤ ·)).foldl min
        (p.sectionStart + p.sections.length * sectionSize) := by
  rw [firstContent, contentStarts, header_image, if_neg p.shnum_ne_zero, toNat_shoff,
    sections_image, segments_image, size_image, List.append_assoc, List.singleton_append]

theorem segmentTable_stop_image : p.image.header.segmentTable.stop = p.bodyStart :=
  (segmentTable_stop p.fitsIn_header p.size_image_lt).trans p.entryOffset_image

theorem findRoom_of_gap (hcount : p.segments.length + 1 < 65535)
    (hgap : p.image.firstContent p.bodyStart - p.bodyStart = len) (hlen : segmentSize ≤ len) :
    p.image.findRoom = .ok (.shifted, len) := by
  refine findRoom_eq_ok_iff.mpr ⟨?_, ?_, Or.inl ⟨rfl, hlen⟩⟩
  · rw [header_image, toNat_phnum]
    exact hcount
  · rw [segmentTable_stop_image, hgap]

/-- The entry takes the place of the first bytes between the tables if they are zero and content
starts among them. -/
theorem findRoom_of_zeros (hcount : p.segments.length + 1 < 65535)
    (hgap : p.image.firstContent p.bodyStart - p.bodyStart = len) (hlen : len < segmentSize)
    (hbody : segmentSize ≤ p.body.length) (hzero : (p.body.take segmentSize).all (· == 0) = true) :
    p.image.findRoom = .ok (.reusedPadding, len) := by
  refine findRoom_eq_ok_iff.mpr ⟨?_, ?_, Or.inr ⟨rfl, hlen, fun _ ↦ ?_, ?_⟩⟩
  · rw [header_image, toNat_phnum]
    exact hcount
  · rw [segmentTable_stop_image, hgap]
  · rw [segmentTable_stop_image, header_image,
      p.fitsIn_header.sectionTable_eq p.size_image_lt p.shnum_ne_zero]
    simp only [Extent.meets, toNat_shoff, toNat_phentsize, sectionStart, Bool.and_eq_false_iff,
      decide_eq_false_iff_not]
    omega
  · rw [segmentTable_stop_image]
    exact (p.isZeroed_image 0 segmentSize (by rw [Nat.zero_add]; exact hbody)).trans hzero

theorem checkFor_image
    (sections : ∀ s ∈ p.sections, s.isNull = false → CanMove p.bodyStart segmentSize s.offset)
    (segments : ∀ s ∈ p.segments, CanMove p.bodyStart segmentSize s.offset) :
    p.image.checkFor .shifted = .ok () := by
  have hsize := p.size_bytes
  refine checkFor_shifted p.fitsIn_header ?_ ?_ ?_
  · rw [Image.size, bytes_image]
    simp only [capacity, lastOffset, segmentSize] at *
    omega
  · rwa [sections_image, entryOffset_image]
  · rwa [segments_image, entryOffset_image]

theorem inject_image (note : Note) {injection : Injection}
    (found : p.image.findRoom = .ok (injection.strategy, injection.available))
    (checked : p.image.checkFor injection.strategy = .ok ())
    (hentry : injection.segmentOffset = p.bodyStart)
    (hnote : injection.noteOffset = alignUp (p.sectionStart + p.sections.length * sectionSize +
      injection.strategy.growth) Note.alignment)
    (hindex : injection.index = p.segments.length) :
    (inject note).effect p.image =
      (.ok injection, (p.image.roomFor injection.strategy).withNote note) := by
  refine (effect_inject_eq_ok_iff p.fitsIn_header p.size_image_lt).mpr
    ⟨found, checked, hentry.trans p.entryOffset_image.symm, ?_, ?_, rfl⟩
  · rw [size_roomFor p.fitsIn_header checked, size_image]
    exact hnote
  · rw [header_image, toNat_phnum]
    exact hindex

end Parts

end BootNote.Image
