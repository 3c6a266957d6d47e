import BootNote.Proofs.Image.Frame
import Mathlib.Tactic.MkIffOfInductiveProp

/-!
The files that load. `IsLoadable` is the format in terms of the bytes alone: the identification, and
the numbers that stand at fixed places of the header and lay out the two tables, with the ends of
the tables in unbounded numbers. Loading accepts a file exactly if it is loadable, and refuses every
other one as a format error; what it gives has the bytes of the file, and in each table the records
that stand where the header places them, and no others (`load_exact`).
-/

set_option autoImplicit false
set_option relaxedAutoImplicit false

namespace BootNote

open Bytes

namespace Elf

/-- The number in the `width` bytes of a file from `pos` on, least significant byte first. -/
def numberAt (b : ByteArray) (pos width : Nat) : Nat := Word.decode (toList (slice b pos width))

/-- A file that starts with the header of a 64-bit little-endian ELF, counts at least one segment
and holds both of its tables, with entries of the sizes they have to have. A file that counts no
sections places no table of them. -/
@[mk_iff isLoadable_def]
structure IsLoadable (b : ByteArray) : Prop where
  headerSize_le : 64 ≤ b.size
  magic : toList (slice b 0 4) = [0x7f, 0x45, 0x4c, 0x46]
  class64 : get? b 4 = some 2
  littleEndian : get? b 5 = some 1
  phnum_ne_zero : numberAt b 56 2 ≠ 0
  headerSize_le_phoff : 64 ≤ numberAt b 32 8
  phentsize_eq : numberAt b 54 2 = 56
  segments_le : numberAt b 32 8 + 56 * numberAt b 56 2 ≤ b.size
  shoff_eq_zero : numberAt b 60 2 = 0 → numberAt b 40 8 = 0
  shentsize_eq : numberAt b 60 2 ≠ 0 → numberAt b 58 2 = 64
  sections_le : numberAt b 60 2 ≠ 0 → numberAt b 40 8 + 64 * numberAt b 60 2 ≤ b.size

instance (b : ByteArray) : Decidable (IsLoadable b) := decidable_of_iff _ (isLoadable_def b).symm

variable {b : ByteArray} {pos : Nat}

namespace Header

theorem checkIdent_eq_ok_iff {ident : List UInt8} : checkIdent ident = .ok () ↔
    ident.take 4 = magic ∧ ident[4]? = some class64 ∧ ident[5]? = some littleEndian := by
  simp only [checkIdent, bind, Except.bind, throw, throwThe, MonadExceptOf.throw, pure, Except.pure]
  by_cases hmagic : ident.take 4 = magic
  · cases hclass : ident[4]? with
    | none => simp [hmagic]
    | some code =>
      cases hencoding : ident[5]? with
      | none => by_cases hcode : code = class64 <;> simp [hmagic, hcode]
      | some code' =>
        by_cases hcode : code = class64 <;> by_cases hcode' : code' = littleEndian <;>
          simp [hmagic, hcode, hcode']
  · simp [hmagic]

/-- A field of two bytes of the header at the front is the number that stands in the file. -/
theorem toNat_half_front (h : pos + 2 ≤ headerSize) :
    (Word.half (toList (slice b 0 headerSize)) pos).toNat = numberAt b pos 2 := by
  rw [Word.toNat_half, take_drop_slice h, Nat.zero_add, numberAt]

/-- A field of eight bytes of the header at the front is the number that stands in the file. -/
theorem toNat_long_front (h : pos + 8 ≤ headerSize) :
    (Word.long (toList (slice b 0 headerSize)) pos).toNat = numberAt b pos 8 := by
  rw [Word.toNat_long, take_drop_slice h, Nat.zero_add, numberAt]

section AtFront

variable (b : ByteArray)

theorem toNat_phoff_atFront : (atFront b).phoff.toNat = numberAt b 32 8 :=
  toNat_long_front (by decide)

theorem toNat_shoff_atFront : (atFront b).shoff.toNat = numberAt b 40 8 :=
  toNat_long_front (by decide)

theorem toNat_phentsize_atFront : (atFront b).phentsize.toNat = numberAt b 54 2 :=
  toNat_half_front (by decide)

theorem toNat_phnum_atFront : (atFront b).phnum.toNat = numberAt b 56 2 :=
  toNat_half_front (by decide)

theorem toNat_shentsize_atFront : (atFront b).shentsize.toNat = numberAt b 58 2 :=
  toNat_half_front (by decide)

theorem toNat_shnum_atFront : (atFront b).shnum.toNat = numberAt b 60 2 :=
  toNat_half_front (by decide)

end AtFront

theorem toNat_eq_zero_iff {n : UInt16} : n.toNat = 0 ↔ n = 0 := UInt16.toNat_inj (b := 0)

attribute [mk_iff fitsIn_def] FitsIn

/-- The header at the front places the tables in the file exactly if the numbers that stand in its
fields do. -/
theorem fitsIn_atFront_iff : (atFront b).FitsIn b.size ↔
    numberAt b 56 2 ≠ 0 ∧ numberAt b 54 2 = 56 ∧ 64 ≤ numberAt b 32 8 ∧
      numberAt b 32 8 + 56 * numberAt b 56 2 ≤ b.size ∧
      (numberAt b 60 2 = 0 → numberAt b 40 8 = 0) ∧
      (numberAt b 60 2 ≠ 0 → numberAt b 58 2 = 64) ∧
      (numberAt b 60 2 ≠ 0 → numberAt b 40 8 + 64 * numberAt b 60 2 ≤ b.size) := by
  have hzero (n : UInt64) : n.toNat = 0 ↔ n = 0 := UInt64.toNat_inj (b := 0)
  simp only [fitsIn_def, ← toNat_phnum_atFront, ← toNat_phoff_atFront, ← toNat_phentsize_atFront,
    ← toNat_shnum_atFront, ← toNat_shoff_atFront, ← toNat_shentsize_atFront, ne_eq,
    toNat_eq_zero_iff, hzero, Nat.mul_comm 56, Nat.mul_comm 64]
  rfl

end Header

/-- A file is loadable exactly if its identification is the one that is asked for and the header at
its front places the tables in it. -/
theorem isLoadable_iff : IsLoadable b ↔
    Header.checkIdent (toList (slice b 0 16)) = .ok () ∧ (Header.atFront b).FitsIn b.size := by
  have hident : (toList (slice b 0 16)).take 4 = toList (slice b 0 4) := take_slice (by decide)
  have hclass : (toList (slice b 0 16))[4]? = get? b 4 := get?_slice_sub (Nat.zero_le 4) (by decide)
  have hencoding : (toList (slice b 0 16))[5]? = get? b 5 :=
    get?_slice_sub (Nat.zero_le 5) (by decide)
  rw [Header.checkIdent_eq_ok_iff, hident, hclass, hencoding, Header.fitsIn_atFront_iff,
    isLoadable_def]
  constructor
  · rintro ⟨-, magic, class64, littleEndian, hphnum, hphoff, hphentsize, hsegments, hsections⟩
    exact ⟨⟨magic, class64, littleEndian⟩, hphnum, hphentsize, hphoff, hsegments, hsections⟩
  · rintro ⟨⟨magic, class64, littleEndian⟩, hphnum, hphentsize, hphoff, hsegments, hsections⟩
    exact ⟨by omega, magic, class64, littleEndian, hphnum, hphoff, hphentsize, hsegments, hsections⟩

end Elf

namespace Image

open Elf

variable {bytes : ByteArray} {img : Image}

/-- A table reads as the records at its places, and has no others. -/
theorem getElem?_map_records {α : Type} (decode : List UInt8 → α) (b : ByteArray)
    (start size count i : Nat) : ((records b start size count).map decode)[i]? =
      if i < count then some (decode (toList (Bytes.slice b (start + size * i) size)))
      else none := by
  rw [List.getElem?_map, records, List.getElem?_map, Nat.mul_comm size]
  split_ifs with hi
  · rw [List.getElem?_range hi]
    rfl
  · rw [List.getElem?_eq_none (by simpa using hi)]
    rfl

/-- Loading fails for no other reason than the format. -/
theorem exists_format_of_load_error {e : Error} (failed : load bytes = .error e) :
    ∃ fault, e = .format fault := by
  simp only [load, bind, Except.bind] at failed
  cases hread : Header.read bytes with
  | error fault =>
    simp only [hread, Except.mapError, Except.error.injEq] at failed
    exact ⟨fault, failed.symm⟩
  | ok header =>
    simp only [hread, Except.mapError] at failed
    cases hcheck : header.check bytes.size with
    | error fault =>
      simp only [hcheck, Except.error.injEq] at failed
      exact ⟨fault, failed.symm⟩
    | ok _ => simp [hcheck, pure, Except.pure] at failed

/-- `img` is a file as it was read: its bytes, and in each table the records that stand in the file
where its header places them. -/
structure IsRead (bytes : ByteArray) (img : Image) : Prop where
  bytes_eq : img.bytes = bytes
  segments_eq : ∀ i, img.segments[i]? =
    if i < numberAt bytes 56 2 then
      some (Segment.decode (toList (Bytes.slice bytes (numberAt bytes 32 8 + 56 * i) 56)))
    else none
  sections_eq : ∀ i, img.sections[i]? =
    if i < numberAt bytes 60 2 then
      some (Section.decode (toList (Bytes.slice bytes (numberAt bytes 40 8 + 64 * i) 64)))
    else none

theorem isRead_of_load (hsize : bytes.size < lastOffset) (loaded : load bytes = .ok img) :
    IsRead bytes img := by
  obtain ⟨hbytes, -, hheader, fits⟩ := (load_eq_ok_iff hsize).mp loaded
  refine ⟨hbytes, fun i ↦ ?_, fun i ↦ ?_⟩
  · rw [segments, getElem?_map_records, hbytes, fits.phentsize_eq, hheader,
      Header.toNat_phnum_atFront, Header.toNat_phoff_atFront]
    rfl
  · rw [sections, getElem?_map_records, hbytes, hheader, Header.toNat_shnum_atFront,
      Header.toNat_shoff_atFront]
    split_ifs with hi
    · have hnum : img.header.shnum ≠ 0 := by
        rw [ne_eq, ← Header.toNat_eq_zero_iff, hheader, Header.toNat_shnum_atFront]
        omega
      rw [← hheader, fits.shentsize_eq hnum]
      rfl
    · rfl

/-- Loading accepts exactly the loadable files and refuses every other one as a format error. What
it gives is the file as it stands. -/
theorem load_exact (hsize : bytes.size < capacity) :
    ((∃ img, load bytes = .ok img) ↔ IsLoadable bytes) ∧
      (¬ IsLoadable bytes → ∃ fault, load bytes = .error (.format fault)) ∧
      ∀ img, load bytes = .ok img → IsRead bytes img := by
  have hlast := lt_lastOffset hsize
  have haccepts : (∃ img, load bytes = .ok img) ↔ IsLoadable bytes := by
    rw [isLoadable_iff]
    constructor
    · rintro ⟨img, loaded⟩
      obtain ⟨-, hident, hheader, fits⟩ := (load_eq_ok_iff hlast).mp loaded
      rw [hheader] at fits
      exact ⟨hident, fits⟩
    · rintro ⟨hident, fits⟩
      exact ⟨⟨bytes, Header.atFront bytes⟩, (load_eq_ok_iff hlast).mpr ⟨rfl, hident, rfl, fits⟩⟩
  refine ⟨haccepts, fun refused ↦ ?_, fun img loaded ↦ isRead_of_load hlast loaded⟩
  cases hload : load bytes with
  | ok img => exact absurd (haccepts.mp ⟨img, hload⟩) refused
  | error e =>
    obtain ⟨fault, rfl⟩ := exists_format_of_load_error hload
    exact ⟨fault, rfl⟩

theorem load_exact_sampleBytes : IsLoadable sampleBytes ∧ IsRead sampleBytes sampleImage :=
  have exact := load_exact size_sampleBytes
  ⟨exact.1.mp ⟨sampleImage, load_sampleBytes⟩, exact.2.2 sampleImage load_sampleBytes⟩

/-- A segment table that would end beyond the last offset lies in no file. -/
example : ¬ IsLoadable { sampleHeader with phoff := 0xffffffffffffffff }.encode.toByteArray := by
  decide +kernel

end Image

end BootNote
