import BootNote.Proofs.Image.Gap
import BootNote.Proofs.Image.Reuse
import Mathlib.Order.Bounds.Basic

/-!
What an injection does, decided in advance. The gap behind the segment table is the greatest number
of bytes in which no content starts (`isGreatest_gapSize`). `Decision` is the table of outcomes: the
number of segments, the gap, the offsets that would have to move and the bytes in the place of the
entry decide which of them it is, and no two of them can hold of one image. `inject_decision` shows
it of every loaded file, wherever its section table lies.
-/

set_option autoImplicit false
set_option relaxedAutoImplicit false

namespace BootNote.Image

open Bytes Elf

/-- Content starts at an offset: the section table, a section, or a segment that has bytes in the
file. -/
inductive StartsContent (img : Image) : Nat → Prop where
  | sectionTable (hnum : img.header.shnum ≠ 0) : img.StartsContent img.header.shoff.toNat
  | ofSection {s : Section} (hs : s ∈ img.sections) (hnull : s.isNull = false) :
    img.StartsContent s.offset.toNat
  | ofSegment {s : Segment} (hs : s ∈ img.segments) (hfilesz : s.filesz ≠ 0) :
    img.StartsContent s.offset.toNat

/-- The `n` bytes behind the segment table lie in the file, and no content starts among them. -/
structure IsFree (img : Image) (n : Nat) : Prop where
  le_size : img.entryOffset + n ≤ img.size
  beside : ∀ o, img.StartsContent o → o < img.entryOffset ∨ img.entryOffset + n ≤ o

/-- The bytes in the place of the entry lie in the file, are zero and belong to no section table. -/
structure IsPadded (img : Image) : Prop where
  le_size : img.entryOffset + 56 ≤ img.size
  zero : ∀ i < 56, get? img.bytes (img.entryOffset + i) = some 0
  beside : img.header.shnum ≠ 0 → img.entryOffset + 56 ≤ img.header.shoff.toNat ∨
    img.header.shoff.toNat + 64 * img.header.shnum.toNat ≤ img.entryOffset

/-- An offset that an entry places behind the segment table is so large that it leaves the 64-bit
range when 56 is added to it. -/
structure IsFar (img : Image) (offset : UInt64) : Prop where
  places : img.Places offset
  le : img.entryOffset ≤ offset.toNat
  lt : 2 ^ 64 - 57 < offset.toNat

/-- What an injection does to an image with `gap` free bytes behind its segment table. An outcome
that is an error leaves the image as it was. -/
structure Decision (img : Image) (note : Note) (gap : Nat) : Prop where
  countOverflow : 65535 ≤ img.header.phnum.toNat + 1 →
    (inject note).effect img = (.error (.format .segmentCountOverflow), img)
  /-- The error names an offset that would leave the range. -/
  offsetOverflow : img.header.phnum.toNat + 1 < 65535 → 56 ≤ gap → (∃ offset, img.IsFar offset) →
    ∃ offset, img.IsFar offset ∧
      (inject note).effect img = (.error (.format (.offsetOverflow offset.toNat 56)), img)
  shifted : img.header.phnum.toNat + 1 < 65535 → 56 ≤ gap → (¬ ∃ offset, img.IsFar offset) →
    ∃ noteOffset out, (inject note).effect img =
      (.ok ⟨.shifted, gap, img.entryOffset, noteOffset, img.header.phnum.toNat⟩, out)
  reusedPadding : img.header.phnum.toNat + 1 < 65535 → gap < 56 → img.IsPadded →
    ∃ noteOffset out, (inject note).effect img =
      (.ok ⟨.reusedPadding, gap, img.entryOffset, noteOffset, img.header.phnum.toNat⟩, out)
  noSpace : img.header.phnum.toNat + 1 < 65535 → gap < 56 → ¬ img.IsPadded →
    (inject note).effect img = (.error (.noSpace 56 gap), img)

variable {img : Image} {note : Note} {offset : UInt64} {n : Nat}

/-! ### The gap -/

theorem mem_contentStarts {o : Nat} : o ∈ img.contentStarts ↔ img.StartsContent o := by
  rw [mem_contentStarts_iff]
  constructor
  · rintro (⟨hnum, rfl⟩ | ⟨s, hs, hnull, rfl⟩ | ⟨s, hs, hfilesz, rfl⟩)
    · exact .sectionTable hnum
    · exact .ofSection hs hnull
    · exact .ofSegment hs hfilesz
  · rintro (hnum | ⟨hs, hnull⟩ | ⟨hs, hfilesz⟩)
    · exact Or.inl ⟨hnum, rfl⟩
    · exact Or.inr (Or.inl ⟨_, hs, hnull, rfl⟩)
    · exact Or.inr (Or.inr ⟨_, hs, hfilesz, rfl⟩)

/-- Bytes are free exactly if the first content starts behind them. -/
theorem isFree_iff : img.IsFree n ↔
    img.entryOffset + n ≤ img.firstContent img.entryOffset := by
  rw [le_firstContent_iff]
  constructor
  · intro free
    refine ⟨free.le_size, fun o ho hle ↦ ?_⟩
    exact (free.beside o (mem_contentStarts.mp ho)).resolve_left (Nat.not_lt.mpr hle)
  · rintro ⟨hle, hstarts⟩
    refine ⟨hle, fun o ho ↦ ?_⟩
    by_cases hfront : o < img.entryOffset
    · exact Or.inl hfront
    · exact Or.inr (hstarts o (mem_contentStarts.mpr ho) (Nat.not_lt.mp hfront))

theorem isGreatest_gapSize (fits : img.header.FitsIn img.size) :
    IsGreatest {n | img.IsFree n} img.gapSize := by
  have hle := entryOffset_le_firstContent fits
  constructor
  · refine isFree_iff.mpr ?_
    rw [gapSize]
    omega
  · intro n free
    have hfree := isFree_iff.mp free
    rw [gapSize]
    omega

/-! ### The offsets that move -/

theorem isFar_iff : img.IsFar offset ↔
    img.Places offset ∧ ¬ CanMove img.entryOffset segmentSize offset := by
  constructor
  · rintro ⟨places, hle, hlt⟩
    refine ⟨places, ?_⟩
    simp only [CanMove, segmentSize, lastOffset]
    omega
  · rintro ⟨places, hcan⟩
    simp only [CanMove, segmentSize, lastOffset] at hcan
    exact ⟨places, by omega, by omega⟩

/-- Content can move exactly if no offset that moves is too large. -/
theorem checkFor_shifted_iff (fits : img.header.FitsIn img.size)
    (hsize : img.size + segmentSize ≤ lastOffset) :
    img.checkFor .shifted = .ok () ↔ ¬ ∃ offset, img.IsFar offset := by
  have hshoff (hnum : img.header.shnum ≠ 0) : CanMove img.entryOffset segmentSize
      img.header.shoff := by
    have hstop := fits.sections_le hnum
    exact Or.inr (by omega)
  have hle : img.entryOffset ≤ img.size := fits.segments_le
  rw [show img.checkFor .shifted = img.checkRoom img.entryOffset segmentSize from rfl,
    checkRoom_eq_ok_iff, movable_iff hshoff]
  simp only [hle, and_true, isFar_iff, not_exists, not_and, not_not]

/-- Where content cannot move, the check names an offset that is too large. -/
theorem exists_of_checkFor_error (fits : img.header.FitsIn img.size)
    (hsize : img.size + segmentSize ≤ lastOffset) {e : Error}
    (failed : img.checkFor .shifted = .error e) :
    ∃ offset, img.IsFar offset ∧ e = .format (.offsetOverflow offset.toNat 56) := by
  obtain ⟨offset, hplace, hcan, rfl⟩ := exists_of_checkRoom_error fits.segments_le failed
  rcases hplace with ⟨hnum, rfl⟩ | places
  · have hstop := fits.sections_le hnum
    exact absurd (Or.inr (by omega)) hcan
  · exact ⟨offset, isFar_iff.mpr ⟨places, hcan⟩, rfl⟩

/-! ### The place of the entry -/

section Fits

variable (fits : img.header.FitsIn img.size) (hsize : img.size < lastOffset)

include fits hsize

/-- The condition under which padding is reused. -/
theorem isPadded_iff : img.IsPadded ↔
    (img.header.shnum = 0 ∨ !img.header.sectionTable.meets img.entryOffset
      (img.entryOffset + segmentSize)) ∧ img.isZeroed img.entryOffset segmentSize = true := by
  have hmeets (hnum : img.header.shnum ≠ 0) : (!img.header.sectionTable.meets img.entryOffset
      (img.entryOffset + segmentSize)) = true ↔ img.entryOffset + 56 ≤ img.header.shoff.toNat ∨
        img.header.shoff.toNat + 64 * img.header.shnum.toNat ≤ img.entryOffset := by
    -- Neither stretch is empty, so they are apart exactly if one of them ends first.
    have hpos := Header.toNat_pos hnum
    rw [fits.sectionTable_eq hsize hnum, Bool.not_eq_true']
    simp only [Extent.meets, Bool.and_eq_false_iff, decide_eq_false_iff_not]
    simp only [segmentSize, sectionSize]
    omega
  rw [isZeroed_iff]
  constructor
  · rintro ⟨hle, zero, beside⟩
    refine ⟨?_, hle, zero⟩
    by_cases hnum : img.header.shnum = 0
    · exact Or.inl hnum
    · exact Or.inr ((hmeets hnum).mpr (beside hnum))
  · rintro ⟨hclear, hle, zero⟩
    exact ⟨hle, zero, fun hnum ↦ (hmeets hnum).mp (hclear.resolve_left hnum)⟩

/-- The search for room in terms of the gap and of the bytes in the place of the entry. -/
theorem findRoom_eq [Decidable img.IsPadded] : img.findRoom =
    if 65535 ≤ img.header.phnum.toNat + 1 then .error (.format .segmentCountOverflow)
    else if 56 ≤ img.gapSize then .ok (.shifted, img.gapSize)
    else if img.IsPadded then .ok (.reusedPadding, img.gapSize)
    else .error (.noSpace 56 img.gapSize) := by
  simp only [findRoom, segmentTable_stop fits hsize, fits.phentsize_eq, isPadded_iff fits hsize,
    gapSize, segmentSize]

/-- A note is added as soon as there is room for its entry. -/
theorem effect_inject_of_room {strategy : Strategy}
    (found : img.findRoom = .ok (strategy, img.gapSize))
    (checked : img.checkFor strategy = .ok ()) : ∃ noteOffset out, (inject note).effect img =
      (.ok ⟨strategy, img.gapSize, img.entryOffset, noteOffset, img.header.phnum.toNat⟩, out) := by
  rw [effect_inject fits hsize, found]
  dsimp only
  rw [checked]
  exact ⟨_, _, rfl⟩

end Fits

/-! ### The decision -/

/-- An injection into a loaded file is decided by the greatest number of free bytes behind its
segment table. -/
theorem inject_decision {bytes : ByteArray} (hsize : bytes.size < capacity)
    (loaded : load bytes = .ok img) (note : Note) :
    ∃ gap, IsGreatest {n | img.IsFree n} gap ∧ img.Decision note gap := by
  classical
  have hlast := lt_lastOffset hsize
  obtain ⟨rfl, -⟩ := (load_eq_ok_iff hlast).mp loaded
  have fits := fitsIn_of_load hlast loaded
  have hroom : img.size + segmentSize ≤ lastOffset := by
    simp only [Image.size, segmentSize, capacity, lastOffset] at *
    omega
  have hfound := findRoom_eq fits hlast
  refine ⟨img.gapSize, isGreatest_gapSize fits, ?_, ?_, ?_, ?_, ?_⟩
  · intro hcount
    rw [if_pos hcount] at hfound
    rw [effect_inject fits hlast, hfound]
  · intro hcount hgap hfar
    rw [if_neg (by omega), if_pos hgap] at hfound
    rw [effect_inject fits hlast, hfound]
    cases checked : img.checkFor .shifted with
    | ok _ => exact absurd hfar ((checkFor_shifted_iff fits hroom).mp checked)
    | error e =>
      obtain ⟨offset, far, rfl⟩ := exists_of_checkFor_error fits hroom checked
      exact ⟨offset, far, by simp only [checked]⟩
  · intro hcount hgap hfar
    rw [if_neg (by omega), if_pos hgap] at hfound
    exact effect_inject_of_room fits hlast hfound ((checkFor_shifted_iff fits hroom).mpr hfar)
  · intro hcount hgap hpadded
    rw [if_neg (by omega), if_neg (by omega), if_pos hpadded] at hfound
    exact effect_inject_of_room fits hlast hfound rfl
  · intro hcount hgap hpadded
    rw [if_neg (by omega), if_neg (by omega), if_neg hpadded] at hfound
    rw [effect_inject fits hlast, hfound]

/-- No byte is free where the symbol table follows the segment table directly. -/
theorem decision_closeParts : IsGreatest {n | closeParts.image.IsFree n} 0 ∧
    closeParts.image.Decision ⟨0x1000⟩ 0 := by
  obtain ⟨gap, greatest, decision⟩ :=
    inject_decision closeParts.size_bytes closeParts.load_image ⟨0x1000⟩
  have fits : closeParts.image.header.FitsIn closeParts.image.size := closeParts.fitsIn_header
  have hgap : closeParts.image.gapSize = gap := (isGreatest_gapSize fits).unique greatest
  have hzero : closeParts.image.gapSize = 0 := by
    rw [gapSize, Parts.entryOffset_image, Parts.firstContent_image]
    decide +kernel
  obtain rfl : gap = 0 := hgap.symm.trans hzero
  exact ⟨greatest, decision⟩

end BootNote.Image
