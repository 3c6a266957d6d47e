import BootNote.Proofs.Image.Gap
import BootNote.Proofs.Image.Runs

/-!
What an image computes with stays in range. The ends of both tables, the starts of their entries and
the gap behind the segment table are computed in 64 bits from fields of the header, and the tables
are read from the bytes without a further check. `TableInRange` says of a table that none of this
leaves the 64-bit range or the file, and `InRange` of an image that it holds for both tables, that
the gap is not negative, and that no injection counts more segments than the header can. All of it
follows from where the header places its tables, so it holds along every run of edits from a loaded
image (`inRange_of_reaches`), also after edits of the bytes that the header was read from.
-/

set_option autoImplicit false
set_option relaxedAutoImplicit false

namespace BootNote

open Bytes Elf

namespace Elf

/-- Where the entry at an index of a table starts, computed in 64 bits. -/
def entryStart (offset : UInt64) (entrySize : UInt16) (index : Nat) : UInt64 :=
  offset + .ofNat index * entrySize.toUInt64

/-- Computing a start in 64 bits and in unbounded numbers is the same if the result is an offset. -/
theorem toNat_entryStart {offset : UInt64} {entrySize : UInt16} {index : Nat}
    (h : offset.toNat + index * entrySize.toNat ≤ lastOffset) :
    (entryStart offset entrySize index).toNat = offset.toNat + index * entrySize.toNat := by
  have hlt : offset.toNat + index * entrySize.toNat < 2 ^ 64 := Nat.lt_succ_of_le h
  rw [entryStart, UInt64.toNat_add, UInt64.toNat_mul, UInt64.toNat_ofNat', UInt16.toNat_toUInt64,
    Nat.mod_mul_mod, Nat.add_mod_mod, Nat.mod_eq_of_lt hlt]

/-- A table of `count` entries in a file of `size` bytes, as the header gives it. Its end is not cut
off, it lies in the file, and each of its entries starts where its index says, as does one more
behind the last. -/
structure TableInRange (table : Extent) (offset : UInt64) (entrySize count : UInt16) (size : Nat) :
    Prop where
  start_eq : table.start = offset.toNat
  stop_eq : table.stop = offset.toNat + count.toNat * entrySize.toNat
  stop_le : table.stop ≤ size
  toNat_entryStart : ∀ index ≤ count.toNat,
    (entryStart offset entrySize index).toNat = offset.toNat + index * entrySize.toNat
  entry_le : ∀ index < count.toNat, offset.toNat + (index + 1) * entrySize.toNat ≤ size

theorem tableInRange {table : Extent} {offset : UInt64} {entrySize count : UInt16} {size : Nat}
    (hsize : size < lastOffset)
    (htable : table = ⟨offset.toNat, offset.toNat + count.toNat * entrySize.toNat⟩)
    (hle : offset.toNat + count.toNat * entrySize.toNat ≤ size) :
    TableInRange table offset entrySize count size := by
  subst htable
  have hindex {index : Nat} (hi : index ≤ count.toNat) :
      offset.toNat + index * entrySize.toNat ≤ size :=
    Nat.le_trans (Nat.add_le_add_left (Nat.mul_le_mul_right _ hi) _) hle
  exact ⟨rfl, rfl, hle, fun index hi ↦ Elf.toNat_entryStart
    (Nat.le_of_lt (Nat.lt_of_le_of_lt (hindex hi) hsize)), fun _ hi ↦ hindex hi⟩

end Elf

namespace Image

/-- Nothing that the image computes with leaves its range. -/
structure InRange (img : Image) : Prop where
  fits : img.header.FitsIn img.size
  segmentTable : TableInRange img.header.segmentTable img.header.phoff img.header.phentsize
    img.header.phnum img.size
  sectionTable : img.header.shnum ≠ 0 → TableInRange img.header.sectionTable img.header.shoff
    img.header.shentsize img.header.shnum img.size
  /-- The segments are as many as the header counts and fill the table. -/
  length_segments : img.segments.length = img.header.phnum.toNat
  segments_eq : img.segments.flatMap Segment.encode = toList (Bytes.slice img.bytes
    img.header.segmentTable.start
    (img.header.segmentTable.stop - img.header.segmentTable.start))
  /-- The sections are as many as the header counts and fill the table. -/
  length_sections : img.sections.length = img.header.shnum.toNat
  sections_eq : img.header.shnum ≠ 0 → img.sections.flatMap Section.encode =
    toList (Bytes.slice img.bytes img.header.sectionTable.start
      (img.header.sectionTable.stop - img.header.sectionTable.start))
  /-- The gap ends behind the segment table or where it starts. -/
  stop_le_firstContent :
    img.header.segmentTable.stop ≤ img.firstContent img.header.segmentTable.stop
  /-- An injection that succeeds counts one more segment and leaves the count below the one that is
  set apart. -/
  phnum_injected : ∀ (note : Note) (injection : Injection) (out : Image),
    (inject note).effect img = (.ok injection, out) →
      out.header.phnum.toNat = img.header.phnum.toNat + 1 ∧ out.header.phnum.toNat < 65535

variable {start img : Image}

/-- An image whose header places its tables in it stays in range. -/
theorem inRange_of_fitsIn (fits : img.header.FitsIn img.size) (hsize : img.size < lastOffset) :
    img.InRange := by
  have hsegments := fits.segmentTable_eq hsize
  have hlength : img.header.phoff.toNat + img.header.phnum.toNat * segmentSize -
    img.header.phoff.toNat = img.header.phnum.toNat * segmentSize := Nat.add_sub_cancel_left _ _
  exact {
    fits
    segmentTable := by
      rw [← fits.phentsize_eq] at hsegments
      refine tableInRange hsize hsegments ?_
      rw [fits.phentsize_eq]
      exact fits.segments_le
    sectionTable := by
      intro hnum
      have hsections := fits.sectionTable_eq hsize hnum
      rw [← fits.shentsize_eq hnum] at hsections
      refine tableInRange hsize hsections ?_
      rw [fits.shentsize_eq hnum]
      exact fits.sections_le hnum
    length_segments := Image.length_segments
    segments_eq := by
      rw [List.flatMap_def, encode_segments fits, flatten_records, hsegments, hlength]
    length_sections := Image.length_sections
    sections_eq := by
      intro hnum
      rw [List.flatMap_def, encode_sections fits hnum, flatten_records,
        fits.sectionTable_eq hsize hnum, Nat.add_sub_cancel_left]
    stop_le_firstContent := by
      rw [segmentTable_stop fits hsize]
      exact entryOffset_le_firstContent fits
    phnum_injected := by
      intro note injection out injected
      obtain ⟨found, checked, -, -, -, rfl⟩ := (effect_inject_eq_ok_iff fits hsize).mp injected
      have hcount := (findRoom_eq_ok_iff.mp found).1
      rw [toNat_phnum_injected note fits hsize found checked]
      exact ⟨rfl, hcount⟩ }

/-- After any edits of a loaded image, failing or not, nothing that the image computes with leaves
its range. -/
theorem inRange_of_reaches {bytes : ByteArray} (hsize : bytes.size < capacity)
    (loaded : load bytes = .ok start) (reached : Reaches (fun _ _ ↦ True) start img) :
    img.InRange := by
  have fits := fitsIn_of_load (lt_lastOffset hsize) loaded
  obtain ⟨rfl, -⟩ := (load_eq_ok_iff (lt_lastOffset hsize)).mp loaded
  obtain ⟨fits', hsize'⟩ := fitsIn_of_reaches hsize fits reached
  exact inRange_of_fitsIn fits' (lt_lastOffset hsize')

/-- Overwriting bytes keeps the size, whether or not it fails. -/
theorem size_apply_overwriteAt (pos : Nat) (new : ByteArray) :
    ((Edit.overwriteAt pos new).apply img).size = img.size := by
  rw [apply_update rfl]
  cases hoverwrite : img.overwriteAt pos new with
  | error e => rfl
  | ok overwritten =>
    obtain ⟨hroom, rfl⟩ := overwriteAt_eq_ok_iff.mp hoverwrite
    exact size_overwrite hroom

/-- The sample file after the bytes of its number of segments are overwritten. -/
theorem inRange_sampleImage : ((Edit.overwriteAt 56 ⟨⟨[0xff, 0xff]⟩⟩).apply sampleImage).InRange :=
  inRange_of_reaches size_sampleBytes load_sampleBytes
    (.next (.overwriteAt 56 ⟨⟨[0xff, 0xff]⟩⟩) .start trivial
      (by rw [size_apply_overwriteAt]; exact size_sampleBytes))

end Image

end BootNote
