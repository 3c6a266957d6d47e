import BootNote.Proofs.Image.Frame

/-!
Stretches of content. A stretch of the file is clear if each of its bytes is content. It lies on one
side of the segment table, so an injection moves it as a whole: unless the new entry takes the place
of one of its bytes, it is found again where its first byte has moved (`slice_injected`), and it is
clear there (`IsClear.injected`).
-/

set_option autoImplicit false
set_option relaxedAutoImplicit false

namespace BootNote.Image

open Bytes Elf

/-- The `len` bytes from `pos` on lie in the file, and none of them belongs to the header or to one
of the tables. -/
structure IsClear (img : Image) (pos len : Nat) : Prop where
  le_size : pos + len ≤ img.size
  content : ∀ i, pos ≤ i → i < pos + len → img.IsContent i

/-- No byte of the stretch belongs to the entry that follows the segment table. -/
def IsBesideEntry (img : Image) (pos len : Nat) : Prop :=
  ∀ i, pos ≤ i → i < pos + len → i < img.entryOffset ∨ img.entryOffset + segmentSize ≤ i

variable {img : Image} {pos len n : Nat}

theorem isClear_of_le (hin : pos + len ≤ img.size) (hfront : headerSize ≤ pos)
    (hsegments : pos + len ≤ img.header.phoff.toNat ∨ img.entryOffset ≤ pos)
    (hsections : img.header.shnum ≠ 0 → pos + len ≤ img.header.shoff.toNat ∨
      img.header.shoff.toNat + img.header.shnum.toNat * sectionSize ≤ pos) :
    img.IsClear pos len where
  le_size := hin
  content i hi hi' := ⟨by omega, by omega, by omega, fun hnum ↦ by
    have hside := hsections hnum
    omega⟩

theorem isBesideEntry_of_le (hpos : img.entryOffset + segmentSize ≤ pos) :
    img.IsBesideEntry pos len :=
  fun _ hi _ ↦ Or.inr (Nat.le_trans hpos hi)

/-- The bytes between the tables of a file that was put together are clear. -/
theorem Parts.isClear_image (p : Parts) (hpos : p.bodyStart ≤ pos)
    (hend : pos + len ≤ p.sectionStart) : p.image.IsClear pos len := by
  refine isClear_of_le ?_ ?_ ?_ fun _ ↦ ?_
  · simp only [size_image]
    omega
  · rw [bodyStart] at hpos
    omega
  · exact Or.inr (by simpa using hpos)
  · exact Or.inl (by simpa using hend)

/-- A clear stretch does not reach across the segment table, so its bytes move together. -/
theorem IsClear.shifted_add (clear : img.IsClear pos len) (fits : img.header.FitsIn img.size)
    {i : Nat} (hi : i < len) :
    shifted img.entryOffset n pos + i = shifted img.entryOffset n (pos + i) := by
  by_cases hstart : img.entryOffset ≤ pos
  · rw [shifted_of_le hstart, shifted_of_le (by omega)]
    omega
  · have hphnum := Header.toNat_pos fits.phnum_ne_zero
    have htable : img.entryOffset =
      img.header.phoff.toNat + img.header.phnum.toNat * segmentSize := rfl
    have hlt : pos + i < img.entryOffset := by
      by_contra hreach
      -- The last byte of the segment table would be content.
      have hlast := (clear.content (img.entryOffset - 1) (by omega) (by omega)).segments
      simp only [segmentSize] at htable
      omega
    rw [shifted_of_lt (by omega), shifted_of_lt hlt]

/-- Where content moves, it leaves the place of the entry free. -/
theorem shifted_beside {strategy : Strategy}
    (beside : strategy = .reusedPadding → img.IsBesideEntry pos len) {i : Nat} (hi : i < len) :
    shifted img.entryOffset strategy.growth (pos + i) < img.entryOffset ∨
      img.entryOffset + segmentSize ≤ shifted img.entryOffset strategy.growth (pos + i) := by
  cases strategy with
  | shifted =>
    simp only [Strategy.growth, shifted]
    split_ifs <;> omega
  | reusedPadding =>
    simp only [Strategy.growth, shifted, Nat.add_zero, ite_self]
    exact beside rfl (pos + i) (by omega) (by omega)

section Injected

variable (note : Note) {strategy : Strategy} {available : Nat}
  (fits : img.header.FitsIn img.size) (hsize : img.size < lastOffset)
  (found : img.findRoom = .ok (strategy, available)) (checked : img.checkFor strategy = .ok ())

include fits hsize found checked

theorem size_add_growth_le :
    img.size + strategy.growth ≤ ((img.roomFor strategy).withNote note).size := by
  have hle := le_alignUp (img.size + strategy.growth) (show 0 < Note.alignment by decide)
  rw [size_injected note fits hsize found checked]
  omega

/-- Content stays content, unless the new entry takes its place. -/
theorem IsContent.injected {i : Nat} (content : img.IsContent i)
    (hbeside : shifted img.entryOffset strategy.growth i < img.entryOffset ∨
      img.entryOffset + segmentSize ≤ shifted img.entryOffset strategy.growth i) :
    ((img.roomFor strategy).withNote note).IsContent
      (shifted img.entryOffset strategy.growth i) := by
  have hgrown := size_add_growth_le note fits hsize found checked
  have hplace := shifted_le_add img.entryOffset strategy.growth i
  have hle := le_shifted img.entryOffset strategy.growth i
  have htable : img.header.phoff.toNat ≤ img.entryOffset := Nat.le_add_right _ _
  refine ⟨?_, Nat.le_trans content.headerSize_le hle, ?_, fun hnum ↦ ?_⟩
  · have := content.lt_size
    omega
  · rw [entryOffset_injected note fits hsize found checked, header_injected, Header.moved_phoff]
    rcases content.segments with hfront | hbehind
    · rw [shifted_of_lt (by omega)]
      exact Or.inl hfront
    · omega
  · rw [header_injected, Header.moved_shnum] at hnum
    rw [toNat_shoff_injected note checked hnum, header_injected, Header.moved_shnum]
    have hside := content.sections hnum
    unfold shifted
    split_ifs <;> omega

variable (clear : img.IsClear pos len)
  (beside : strategy = .reusedPadding → img.IsBesideEntry pos len)

include clear beside

/-- A clear stretch is found again where its first byte has moved. -/
theorem slice_injected : ((img.roomFor strategy).withNote note).slice
    (shifted img.entryOffset strategy.growth pos) len = img.slice pos len := by
  have hgrown := size_add_growth_le note fits hsize found checked
  have hplace := shifted_le_add img.entryOffset strategy.growth pos
  have hin := clear.le_size
  rw [Image.slice, Image.slice, if_pos (by omega), if_pos hin]
  refine congrArg Except.ok (slice_congr fun i hi ↦ ?_)
  rw [clear.shifted_add fits hi]
  exact get?_injected_shifted note fits hsize found checked
    (clear.content (pos + i) (by omega) (by omega)) (shifted_beside beside hi)

/-- A clear stretch is clear again where it has moved. -/
theorem IsClear.injected : ((img.roomFor strategy).withNote note).IsClear
    (shifted img.entryOffset strategy.growth pos) len := by
  have hgrown := size_add_growth_le note fits hsize found checked
  have hplace := shifted_le_add img.entryOffset strategy.growth pos
  have hin := clear.le_size
  refine ⟨by omega, fun i hi hi' ↦ ?_⟩
  obtain ⟨k, rfl⟩ := Nat.exists_eq_add_of_le hi
  have hk : k < len := by omega
  rw [clear.shifted_add fits hk]
  exact (clear.content (pos + k) (by omega) (by omega)).injected note fits hsize found checked
    (shifted_beside beside hk)

omit clear beside

/-- A section keeps its bytes. -/
theorem slice_injected_section {s : Section} (hs : s ∈ img.sections) (hnull : s.isNull = false)
    (clear : img.IsClear s.offset.toNat s.size.toNat)
    (beside : strategy = .reusedPadding → img.IsBesideEntry s.offset.toNat s.size.toNat) :
    ((img.roomFor strategy).withNote note).slice
        (s.moved img.entryOffset strategy.growth).offset.toNat s.size.toNat =
      img.slice s.offset.toNat s.size.toNat := by
  rw [s.moved_offset hnull, toNat_moved ((movable_of_checkFor checked).sections s hs hnull)]
  exact slice_injected note fits hsize found checked clear beside

end Injected

end BootNote.Image
