import BootNote.Image
import BootNote.Proofs.Action
import BootNote.Proofs.Elf.Codec
import BootNote.Proofs.Elf.Front
import BootNote.Proofs.Elf.Tables

/-!
Writing into an image: what the header's two fields and the entries of a table change. Entries that
are written one after the other, each at its index, are written as one byte string
(`effect_updateEach_overwriteAt`), so a table that ends in the image can be written whole.
-/

set_option autoImplicit false
set_option relaxedAutoImplicit false

namespace BootNote.Image

open Bytes Elf

variable {img : Image} {pos : Nat} {new : ByteArray}

theorem overwriteAt_eq_ok_iff {img' : Image} : img.overwriteAt pos new = .ok img' ↔
    pos + new.size ≤ img.size ∧ img' = { img with bytes := overwrite img.bytes pos new } := by
  unfold overwriteAt
  split_ifs with hle
  · simp only [Except.ok.injEq, hle, true_and]
    exact eq_comm
  · simp only [hle, false_and]

theorem insertAt_eq_ok_iff {img' : Image} : img.insertAt pos new = .ok img' ↔
    pos ≤ img.size ∧ img' = { img with bytes := insert img.bytes pos new } := by
  unfold insertAt
  split_ifs with hle
  · simp only [Except.ok.injEq, hle, true_and]
    exact eq_comm
  · simp only [hle, false_and]

/-! ### The header -/

section Header

variable {header : Header} (hsize : headerSize ≤ img.size)

include hsize

theorem size_writeHeader : (img.writeHeader header).size = img.size := by
  have hplaced := Header.size_overwrite_shoff hsize header.shoff
  change 64 ≤ img.bytes.size at hsize
  exact (size_overwrite (by simp; omega)).trans hplaced

/-- Behind the front, writing the header changes nothing. -/
theorem get?_writeHeader {i : Nat} (hi : headerSize ≤ i) :
    get? (img.writeHeader header).bytes i = get? img.bytes i := by
  change 64 ≤ i at hi
  rw [writeHeader, Header.get?_overwrite_fields hsize, if_neg (by omega), if_neg (by omega)]

/-- In the front, writing the header changes its two fields alone. -/
theorem get?_writeHeader_of_kept {i : Nat} (kept : Header.Kept i) :
    get? (img.writeHeader header).bytes i = get? img.bytes i := by
  rw [writeHeader, Header.get?_overwrite_fields hsize, if_neg kept.phnum, if_neg kept.shoff]

theorem slice_writeHeader_ident :
    Bytes.slice (img.writeHeader header).bytes 0 16 = Bytes.slice img.bytes 0 16 := by
  have hplaced := Header.size_overwrite_shoff hsize header.shoff
  change 64 ≤ img.bytes.size at hsize
  rw [writeHeader, slice_overwrite_of_disjoint (by simp; omega) (Or.inl (by omega)),
    slice_overwrite_of_disjoint (by simp; omega) (Or.inl (by omega))]

theorem atFront_writeHeader : Header.atFront (img.writeHeader header).bytes =
    { Header.atFront img.bytes with shoff := header.shoff, phnum := header.phnum } :=
  Header.atFront_overwrite hsize header.shoff header.phnum

end Header

/-! ### The entries of a table -/

/-- Entries of one size, written one after the other from an index on, are written as one byte
string. The image holds them all, so no write fails. -/
theorem effect_updateEach_overwriteAt {α : Type} {encode : α → List UInt8} {size : Nat}
    {change : α × Nat → Image → Except Error Image} (header : Header) (start : Nat)
    (hchange : ∀ a index bytes, change (a, index) ⟨bytes, header⟩ =
      Image.overwriteAt ⟨bytes, header⟩ (start + index * size) (encode a).toByteArray)
    (hsize : ∀ a, (encode a).length = size) (entries : List α) (index : Nat) (bytes : ByteArray)
    (hroom : start + (index + entries.length) * size ≤ bytes.size) :
    (Action.updateEach change (entries.zipIdx index)).effect ⟨bytes, header⟩ =
      (.ok (), ⟨overwrite bytes (start + index * size) (entries.flatMap encode).toByteArray,
        header⟩) := by
  induction entries generalizing index bytes with
  | nil => simp [overwrite_empty]
  | cons a rest ih =>
    have hlen : (encode a).toByteArray.size = size := by rw [size_toByteArray, hsize]
    rw [List.length_cons, Nat.add_mul, Nat.add_mul] at hroom
    have hplace : start + index * size + (encode a).toByteArray.size ≤ bytes.size := by omega
    have hfirst : change (a, index) ⟨bytes, header⟩ = .ok
        ⟨overwrite bytes (start + index * size) (encode a).toByteArray, header⟩ := by
      rw [hchange]
      exact overwriteAt_eq_ok_iff.mpr ⟨hplace, rfl⟩
    have hbytes : (overwrite bytes (start + index * size) (encode a).toByteArray).size =
        bytes.size := size_overwrite hplace
    have hnext : start + (index + 1) * size =
        start + index * size + (encode a).toByteArray.size := by
      rw [Nat.succ_mul, hlen, Nat.add_assoc]
    have hflat : ((a :: rest).flatMap encode).toByteArray =
        (encode a).toByteArray ++ (rest.flatMap encode).toByteArray := by
      apply toList_inj.mp
      simp
    rw [List.zipIdx_cons, Action.effect_updateEach_cons hfirst,
      ih (index + 1) _ (by rw [hbytes, Nat.add_mul, Nat.add_mul]; omega), hnext, hflat,
      overwrite_overwrite]
    rw [hlen, size_flatMap hsize]
    omega

/-- An image with the entries of its section table replaced. -/
def withSections (img : Image) (sections : List Section) : Image where
  bytes := overwrite img.bytes img.header.shoff.toNat
    (sections.flatMap Section.encode).toByteArray
  header := img.header

/-- An image with the entries of its segment table replaced. -/
def withSegments (img : Image) (segments : List Segment) : Image where
  bytes := overwrite img.bytes img.header.phoff.toNat
    (segments.flatMap Segment.encode).toByteArray
  header := img.header

@[simp] theorem header_withSections (sections : List Section) :
    (img.withSections sections).header = img.header := rfl

@[simp] theorem header_withSegments (segments : List Segment) :
    (img.withSegments segments).header = img.header := rfl

@[simp] theorem length_sections : img.sections.length = img.header.shnum.toNat := by
  simp [sections]

@[simp] theorem length_segments : img.segments.length = img.header.phnum.toNat := by
  simp [segments]

/-- The bytes of the segment table are those of its entries. -/
theorem encode_segments (fits : img.header.FitsIn img.size) : img.segments.map Segment.encode =
    records img.bytes img.header.phoff.toNat segmentSize img.header.phnum.toNat := by
  rw [segments, fits.phentsize_eq]
  exact Segment.isCodec.map_encode_records fits.segments_le

/-- The bytes of a section table are those of its entries. -/
theorem encode_sections (fits : img.header.FitsIn img.size) (hnum : img.header.shnum ≠ 0) :
    img.sections.map Section.encode =
      records img.bytes img.header.shoff.toNat sectionSize img.header.shnum.toNat := by
  rw [sections, fits.shentsize_eq hnum]
  exact Section.isCodec.map_encode_records (fits.sections_le hnum)

/-- A byte of a section table, by its position in the table. -/
theorem getElem?_sections (fits : img.header.FitsIn img.size) (hnum : img.header.shnum ≠ 0)
    {p : Nat} (hp : img.header.shoff.toNat ≤ p)
    (hp' : p < img.header.shoff.toNat + img.header.shnum.toNat * sectionSize) :
    (img.sections.flatMap Section.encode)[p - img.header.shoff.toNat]? = get? img.bytes p := by
  rw [List.flatMap_def, encode_sections fits hnum, flatten_records, ← get?_slice_sub hp hp', get?]

/-- A byte of a segment table, by its position in the table. -/
theorem getElem?_segments (fits : img.header.FitsIn img.size) {p : Nat}
    (hp : img.header.phoff.toNat ≤ p)
    (hp' : p < img.header.phoff.toNat + img.header.phnum.toNat * segmentSize) :
    (img.segments.flatMap Segment.encode)[p - img.header.phoff.toNat]? = get? img.bytes p := by
  rw [List.flatMap_def, encode_segments fits, flatten_records, ← get?_slice_sub hp hp', get?]

/-- A section table of the same place and size, with the same bytes in it, has the same entries. -/
theorem sections_congr {img' : Image} (hshoff : img'.header.shoff = img.header.shoff)
    (hshentsize : img'.header.shentsize = img.header.shentsize)
    (hshnum : img'.header.shnum = img.header.shnum)
    (h : ∀ i < img.header.shnum.toNat * img.header.shentsize.toNat,
      get? img'.bytes (img.header.shoff.toNat + i) = get? img.bytes (img.header.shoff.toNat + i)) :
    img'.sections = img.sections := by
  rw [sections, sections, hshoff, hshentsize, hshnum, records_congr h]

section Tables

variable (fits : img.header.FitsIn img.size) {sections : List Section} {segments : List Segment}

include fits

/-- A section table that lies in the image is written without failure. -/
theorem effect_writeSections (hlen : sections.length = img.header.shnum.toNat) :
    (Action.updateEach (fun (s, index) img ↦ Image.writeSection img index s)
      sections.zipIdx).effect img = (.ok (), img.withSections sections) := by
  by_cases hnum : img.header.shnum = 0
  · rw [hnum, UInt16.toNat_zero, List.length_eq_zero_iff] at hlen
    subst hlen
    simp [withSections, overwrite_empty]
  · have hroom := fits.sections_le hnum
    refine (effect_updateEach_overwriteAt img.header img.header.shoff.toNat
      (fun s index bytes ↦ ?_) Section.size_encode sections 0 img.bytes ?_).trans ?_
    · simp only [writeSection, fits.shentsize_eq hnum]
    · rw [Nat.zero_add, hlen]
      exact hroom
    · rw [Nat.zero_mul, Nat.add_zero]
      rfl

/-- A segment table that lies in the image is written without failure. -/
theorem effect_writeSegments (hlen : segments.length = img.header.phnum.toNat) :
    (Action.updateEach (fun (s, index) img ↦ Image.writeSegment img index s)
      segments.zipIdx).effect img = (.ok (), img.withSegments segments) := by
  refine (effect_updateEach_overwriteAt img.header img.header.phoff.toNat
    (fun s index bytes ↦ ?_) Segment.size_encode segments 0 img.bytes ?_).trans ?_
  · simp only [writeSegment, fits.phentsize_eq]
  · rw [Nat.zero_add, hlen]
    exact fits.segments_le
  · rw [Nat.zero_mul, Nat.add_zero]
    rfl

variable (hsecs : sections.length = img.header.shnum.toNat)
  (hsegs : segments.length = img.header.phnum.toNat) {i p n : Nat}

section Sections

include hsecs

theorem sections_room : img.header.shoff.toNat +
    (sections.flatMap Section.encode).toByteArray.size ≤ img.bytes.size := by
  rw [size_flatMap Section.size_encode, hsecs]
  by_cases hnum : img.header.shnum = 0
  · simp [hnum, fits.shoff_eq_zero hnum]
  · exact fits.sections_le hnum

theorem size_withSections : (img.withSections sections).size = img.size :=
  size_overwrite (sections_room fits hsecs)

theorem fitsIn_withSections :
    (img.withSections sections).header.FitsIn (img.withSections sections).size := by
  rw [size_withSections fits hsecs]
  exact fits

theorem slice_withSections (hd : img.header.shnum ≠ 0 → p + n ≤ img.header.shoff.toNat ∨
      img.header.shoff.toNat + img.header.shnum.toNat * sectionSize ≤ p) :
    Bytes.slice (img.withSections sections).bytes p n = Bytes.slice img.bytes p n := by
  by_cases hnum : img.header.shnum = 0
  · rw [hnum, UInt16.toNat_zero, List.length_eq_zero_iff] at hsecs
    simp [withSections, hsecs, overwrite_empty]
  · refine slice_overwrite_of_disjoint (sections_room fits hsecs) ?_
    rw [size_flatMap Section.size_encode, hsecs]
    exact hd hnum

theorem get?_withSections (hd : img.header.shnum ≠ 0 → i < img.header.shoff.toNat ∨
      img.header.shoff.toNat + img.header.shnum.toNat * sectionSize ≤ i) :
    get? (img.withSections sections).bytes i = get? img.bytes i := by
  have hslice : Bytes.slice (img.withSections sections).bytes i 1 = Bytes.slice img.bytes i 1 :=
    slice_withSections fits hsecs hd
  simpa [get?_slice] using congrArg (get? · 0) hslice

/-- The section table reads back as it was written. -/
theorem sections_withSections : (img.withSections sections).sections = sections := by
  by_cases hnum : img.header.shnum = 0
  · rw [hnum, UInt16.toNat_zero, List.length_eq_zero_iff] at hsecs
    rw [hsecs]
    exact List.eq_nil_of_length_eq_zero (by simp [withSections, hnum])
  · simp only [Image.sections, withSections, fits.shentsize_eq hnum]
    rw [← hsecs]
    exact Section.isCodec.map_decode_overwrite (by rw [hsecs]; exact fits.sections_le hnum)

end Sections

section Segments

include hsegs

theorem segments_room : img.header.phoff.toNat +
    (segments.flatMap Segment.encode).toByteArray.size ≤ img.bytes.size := by
  rw [size_flatMap Segment.size_encode, hsegs]
  exact fits.segments_le

theorem size_withSegments : (img.withSegments segments).size = img.size :=
  size_overwrite (segments_room fits hsegs)

theorem fitsIn_withSegments :
    (img.withSegments segments).header.FitsIn (img.withSegments segments).size := by
  rw [size_withSegments fits hsegs]
  exact fits

theorem slice_withSegments (hd : p + n ≤ img.header.phoff.toNat ∨
      img.header.phoff.toNat + img.header.phnum.toNat * segmentSize ≤ p) :
    Bytes.slice (img.withSegments segments).bytes p n = Bytes.slice img.bytes p n := by
  refine slice_overwrite_of_disjoint (segments_room fits hsegs) ?_
  rw [size_flatMap Segment.size_encode, hsegs]
  exact hd

theorem get?_withSegments (hd : i < img.header.phoff.toNat ∨
      img.header.phoff.toNat + img.header.phnum.toNat * segmentSize ≤ i) :
    get? (img.withSegments segments).bytes i = get? img.bytes i := by
  have hslice : Bytes.slice (img.withSegments segments).bytes i 1 = Bytes.slice img.bytes i 1 :=
    slice_withSegments fits hsegs hd
  simpa [get?_slice] using congrArg (get? · 0) hslice

/-- The segment table reads back as it was written. -/
theorem segments_withSegments : (img.withSegments segments).segments = segments := by
  simp only [Image.segments, withSegments, fits.phentsize_eq]
  rw [← hsegs]
  exact Segment.isCodec.map_decode_overwrite (by rw [hsegs]; exact fits.segments_le)

/-- The section table of an image stays as it is when the segment table is written beside it. -/
theorem sections_withSegments (hd : img.header.shnum ≠ 0 →
      img.header.shoff.toNat + img.header.shnum.toNat * sectionSize ≤ img.header.phoff.toNat ∨
        img.header.phoff.toNat + img.header.phnum.toNat * segmentSize ≤ img.header.shoff.toNat) :
    (img.withSegments segments).sections = img.sections := by
  refine sections_congr rfl rfl rfl fun i hi ↦ get?_withSegments fits hsegs ?_
  have hnum : img.header.shnum ≠ 0 := fun hzero ↦ by simp [hzero] at hi
  rw [fits.shentsize_eq hnum] at hi
  have := hd hnum
  omega

end Segments

end Tables

end BootNote.Image
