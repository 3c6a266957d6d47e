import BootNote.Proofs.Image.Frame
import Mathlib.Data.List.Forall2

/-!
What making room changes in a file, and when it succeeds. `IsShifted` relates a header or an entry
to the one after the insertion: its offset stays if it is in front of the position and grows by the
inserted length otherwise, and the other fields stay. `MakesRoom` is all that the result has in
common with the file before: the tables that are read from it again, each byte beside the header and
the tables, and the zeros in the room. `makeRoom_exact` names the offsets that can stand in the way
and shows that every result is such, wherever the position lies between the segment table and the
end of the file.
-/

set_option autoImplicit false
set_option relaxedAutoImplicit false

namespace BootNote

open Bytes

namespace Elf

variable {pos len : Nat}

/-- `h'` is `h` with the offset of its section table shifted. Without a section table nothing
changes. -/
structure Header.IsShifted (pos len : Nat) (h h' : Header) : Prop where
  eq_except : h' = { h with shoff := h'.shoff }
  shoff_eq : h.shnum = 0 → h'.shoff = h.shoff
  toNat_shoff : h.shnum ≠ 0 → h'.shoff.toNat = shifted pos len h.shoff.toNat

/-- `s'` is `s` with its offset shifted. -/
structure Segment.IsShifted (pos len : Nat) (s s' : Segment) : Prop where
  eq_except : s' = { s with offset := s'.offset }
  toNat_offset : s'.offset.toNat = shifted pos len s.offset.toNat

/-- `s'` is `s` with its offset shifted, or `s` itself if it is a null entry. -/
structure Section.IsShifted (pos len : Nat) (s s' : Section) : Prop where
  eq_except : s' = { s with offset := s'.offset }
  offset_eq : s.isNull = true → s'.offset = s.offset
  toNat_offset : s.isNull = false → s'.offset.toNat = shifted pos len s.offset.toNat

theorem Header.isShifted_moved {h : Header} (hshoff : h.shnum ≠ 0 → CanMove pos len h.shoff) :
    h.IsShifted pos len (h.moved pos len) where
  eq_except := by
    unfold Header.moved
    split_ifs <;> rfl
  shoff_eq hnum := by rw [Header.moved_of_eq h hnum]
  toNat_shoff hnum := by rw [Header.moved_shoff_of_ne h hnum, toNat_moved (hshoff hnum)]

theorem Segment.isShifted_moved {s : Segment} (hoffset : CanMove pos len s.offset) :
    s.IsShifted pos len (s.moved pos len) where
  eq_except := rfl
  toNat_offset := toNat_moved hoffset

theorem Section.isShifted_moved {s : Section}
    (hoffset : s.isNull = false → CanMove pos len s.offset) :
    s.IsShifted pos len (s.moved pos len) where
  eq_except := by
    unfold Section.moved
    split_ifs <;> rfl
  offset_eq hnull := by rw [Section.moved, if_pos hnull]
  toNat_offset hnull := by rw [s.moved_offset hnull, toNat_moved (hoffset hnull)]

end Elf

namespace Image

open Elf

/-- `out` is `img` with `len` bytes inserted at `pos` and every offset adjusted to that. -/
structure MakesRoom (img : Image) (pos len : Nat) (out : Image) : Prop where
  size_eq : out.size = img.size + len
  /-- The header of the result is the one that is read from its bytes. -/
  loaded : load out.bytes = .ok out
  header : img.header.IsShifted pos len out.header
  segments : List.Forall₂ (Segment.IsShifted pos len) img.segments out.segments
  sections : List.Forall₂ (Section.IsShifted pos len) img.sections out.sections
  content : ∀ i, img.IsContent i → get? out.bytes (shifted pos len i) = get? img.bytes i
  /-- Unless the position divides the section table, the room is zero. -/
  zero : (img.header.shnum ≠ 0 → pos ≤ img.header.shoff.toNat ∨
      img.header.shoff.toNat + 64 * img.header.shnum.toNat ≤ pos) →
    ∀ i, pos ≤ i → i < pos + len → get? out.bytes i = some 0

variable {img out : Image} {pos len : Nat}

section WithRoom

variable (fits : img.header.FitsIn img.size) (movable : img.Movable pos len)

include fits movable

theorem segments_isShifted :
    List.Forall₂ (Segment.IsShifted pos len) img.segments (img.withRoom pos len).segments := by
  rw [segments_withRoom fits movable, List.forall₂_map_right_iff, List.forall₂_same]
  exact fun s hs ↦ Segment.isShifted_moved (movable.segments s hs)

variable (hpos : img.entryOffset ≤ pos)

include hpos

theorem sections_isShifted (hsize : img.size < lastOffset) (apart : img.header.Apart) :
    List.Forall₂ (Section.IsShifted pos len) img.sections (img.withRoom pos len).sections := by
  rw [sections_withRoom fits movable hpos hsize apart, List.forall₂_map_right_iff,
    List.forall₂_same]
  exact fun s hs ↦ Section.isShifted_moved (movable.sections s hs)

/-- The room lies behind the header and the segment table, and it is zero where no section table is
written into it. -/
theorem get?_withRoom_room (hle : pos ≤ img.size)
    (hbeside : img.header.shnum ≠ 0 → pos ≤ img.header.shoff.toNat ∨
      img.header.shoff.toNat + 64 * img.header.shnum.toNat ≤ pos)
    {i : Nat} (hi : pos ≤ i) (hlt : i < pos + len) :
    get? (img.withRoom pos len).bytes i = some 0 := by
  have hfront : headerSize ≤ img.entryOffset :=
    Nat.le_trans fits.headerSize_le (Nat.le_add_right _ _)
  have hinsert : get? (insert img.bytes pos (zeros len)) i = some 0 := by
    rw [get?_insert hle, if_neg (Nat.not_lt.mpr hi), size_zeros, if_pos hlt, get?, toList_zeros,
      List.getElem?_replicate, if_pos (by omega)]
  rw [← hinsert]
  refine get?_withRoom fits movable (by omega) (Or.inr (Nat.le_trans hpos hi)) fun hnum ↦ ?_
  have hcount := Header.toNat_pos hnum
  rw [sectionSize]
  rcases hbeside hnum with hbehind | hstop
  · rw [shifted_of_le hbehind]
    omega
  · rw [shifted_of_lt (by omega)]
    omega

end WithRoom

section Load

variable {bytes : ByteArray} (loaded : load bytes = .ok img) (hpos : img.entryOffset ≤ pos)
  (hle : pos ≤ img.size) (hsize : bytes.size + len < capacity)

include loaded hle hsize

theorem makeRoom_eq_ok_iff : (makeRoom pos len).effect img = (.ok (), out) ↔
    img.Movable pos len ∧ out = img.withRoom pos len := by
  have hlast : bytes.size < lastOffset := lt_lastOffset (by omega)
  obtain ⟨rfl, -⟩ := (load_eq_ok_iff hlast).mp loaded
  rw [effect_makeRoom_eq_ok_iff (fitsIn_of_load hlast loaded), and_iff_left hle]

/-- Room is made exactly if no offset of an entry that has to move leaves the 64-bit range. -/
theorem makeRoom_succeeds_iff : (∃ out, (makeRoom pos len).effect img = (.ok (), out)) ↔
    ∀ offset, img.Places offset → pos ≤ offset.toNat → offset.toNat + len < 2 ^ 64 := by
  have hlast : bytes.size < lastOffset := lt_lastOffset (by omega)
  have fits := fitsIn_of_load hlast loaded
  obtain ⟨rfl, -⟩ := (load_eq_ok_iff hlast).mp loaded
  -- The section table lies in the file, so it is never what stands in the way.
  have hshoff (hnum : img.header.shnum ≠ 0) : CanMove pos len img.header.shoff := by
    have hstop := fits.sections_le hnum
    simp only [CanMove, Image.size, capacity, lastOffset] at *
    omega
  simp only [makeRoom_eq_ok_iff loaded hle hsize, exists_and_left, exists_eq, and_true,
    movable_iff hshoff]
  refine forall₂_congr fun offset _ ↦ ?_
  rw [CanMove, lastOffset]
  omega

include hpos

theorem makesRoom_withRoom (apart : img.header.Apart) (movable : img.Movable pos len) :
    img.MakesRoom pos len (img.withRoom pos len) := by
  have hlast : bytes.size < lastOffset := lt_lastOffset (by omega)
  have fits := fitsIn_of_load hlast loaded
  obtain ⟨rfl, -⟩ := (load_eq_ok_iff hlast).mp loaded
  have hgrown := size_withRoom fits movable
  have hlast' : (img.withRoom pos len).size < lastOffset := by
    rw [hgrown]
    exact lt_lastOffset hsize
  exact
    { size_eq := hgrown
      loaded := load_withRoom fits movable hpos hlast apart hle loaded hlast'
      header := Header.isShifted_moved movable.shoff
      segments := segments_isShifted fits movable
      sections := sections_isShifted fits movable hpos hlast apart
      content := fun _ content ↦ get?_withRoom_shifted fits movable hpos hle
        content.headerSize_le content.segments content.sections
      zero := fun hbeside _ hi hlt ↦ get?_withRoom_room fits movable hpos hle hbeside hi hlt }

theorem makesRoom_of_makeRoom (apart : img.header.Apart)
    (made : (makeRoom pos len).effect img = (.ok (), out)) : img.MakesRoom pos len out := by
  obtain ⟨movable, rfl⟩ := (makeRoom_eq_ok_iff loaded hle hsize).mp made
  exact makesRoom_withRoom loaded hpos hle hsize apart movable

/-- Room is made at a position between the segment table and the end of the file exactly if no
offset of an entry leaves the 64-bit range when it has to move, and then everything is moved that
has to be and nothing else is changed. -/
theorem makeRoom_exact (apart : img.header.Apart) :
    ((∃ out, (makeRoom pos len).effect img = (.ok (), out)) ↔
      ∀ offset, img.Places offset → pos ≤ offset.toNat → offset.toNat + len < 2 ^ 64) ∧
    ∀ out, (makeRoom pos len).effect img = (.ok (), out) → img.MakesRoom pos len out :=
  ⟨makeRoom_succeeds_iff loaded hle hsize,
    fun _ made ↦ makesRoom_of_makeRoom loaded hpos hle hsize apart made⟩

end Load

/-- Nothing that the sample file places is near the last offset. -/
theorem movable_sampleImage : sampleImage.Movable pos 4152 := by
  have hsections : ∀ s ∈ sampleParts.sections, s.offset.toNat + 4152 ≤ lastOffset := by
    decide +kernel
  have hsegments : ∀ s ∈ sampleParts.segments, s.offset.toNat + 4152 ≤ lastOffset := by
    decide +kernel
  rw [← Parts.sections_image, image_sampleParts] at hsections
  rw [← Parts.segments_image, image_sampleParts] at hsegments
  exact ⟨fun _ ↦ Or.inr (by decide), fun s hs _ ↦ Or.inr (hsections s hs),
    fun s hs ↦ Or.inr (hsegments s hs)⟩

theorem makeRoom_sampleImage (hle : pos ≤ 328) :
    (makeRoom pos 4152).effect sampleImage = (.ok (), sampleImage.withRoom pos 4152) := by
  exact (effect_makeRoom_eq_ok_iff fits_sampleImage).mpr
    ⟨⟨movable_sampleImage, by rwa [size_eq_sampleImage]⟩, rfl⟩

/-- Room in front of the only section with content. The null entry moves nowhere, and the segment
starts with the file. -/
theorem makesRoom_sampleImage : ∃ out, (makeRoom 176 4096).effect sampleImage = (.ok (), out) ∧
    sampleImage.MakesRoom 176 4096 out := by
  have hpos : sampleImage.entryOffset ≤ 176 := by decide
  have hle : 176 ≤ sampleImage.size := by
    rw [size_eq_sampleImage]
    decide
  have hsize : sampleBytes.size + 4096 < capacity := by
    rw [show sampleBytes.size = 328 from size_eq_sampleImage]
    decide
  obtain ⟨hsucceeds, hmakes⟩ := makeRoom_exact load_sampleBytes hpos hle hsize apart_sampleImage
  have hsections : ∀ s ∈ sampleParts.sections, s.offset.toNat + 4096 < 2 ^ 64 := by decide +kernel
  have hsegments : ∀ s ∈ sampleParts.segments, s.offset.toNat + 4096 < 2 ^ 64 := by decide +kernel
  have hplaces : ∀ offset, sampleImage.Places offset → 176 ≤ offset.toNat →
      offset.toNat + 4096 < 2 ^ 64 := by
    rw [← image_sampleParts]
    rintro offset (⟨hs, -⟩ | hs) -
    · rw [Parts.sections_image] at hs
      exact hsections _ hs
    · rw [Parts.segments_image] at hs
      exact hsegments _ hs
  obtain ⟨out, made⟩ := hsucceeds.mpr hplaces
  exact ⟨out, made, hmakes out made⟩

end Image

end BootNote
