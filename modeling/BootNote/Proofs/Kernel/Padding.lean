import BootNote.Proofs.Image.Decision
import BootNote.Proofs.Kernel.ReadBack

/-!
The padding of a generated file, as an injection sees it. The program bytes are the first content
behind the segment table, whatever their number, so the gap there is the padding (`gapSize_image`).
The section table comes behind the names of the sections, which are not zero, and therefore behind
every stretch of zeros that starts at the end of the segment table (`le_sectionsOffset_of_zero`).
From both follows what an injection does (`load_inject`).
-/

set_option autoImplicit false
set_option relaxedAutoImplicit false

namespace BootNote.Kernel

open Bytes Elf

variable {k : Kernel}

/-! ### Where content starts -/

theorem textOffset_le_sectionsOffset : k.textOffset ≤ k.sectionsOffset :=
  Nat.le_trans (Nat.le_add_right _ _)
    (k.end_le_of_mem_parts (k.textOffset, toList k.text) List.mem_cons_self)

section Load

variable (hsize : k.bytes.size < capacity)

include hsize

theorem bounds_of_section {s : Section} (hs : s ∈ k.image.sections) (hnull : s.isNull = false) :
    k.textOffset ≤ s.offset.toNat ∧ s.offset.toNat ≤ k.sectionsOffset := by
  rw [sections_image hsize, sections_eq_cons] at hs
  rcases List.mem_cons.mp hs with rfl | hs
  · exact absurd hnull (by decide)
  · obtain ⟨hle, hend⟩ := bounds_of_mem_sections hsize hs
    exact ⟨hle, Nat.le_trans (Nat.le_add_right _ _) hend⟩

theorem bounds_of_segment {s : Segment} (hs : s ∈ k.image.segments) :
    k.textOffset ≤ s.offset.toNat ∧ s.offset.toNat ≤ k.sectionsOffset := by
  have hpart (part : Nat × List UInt8) (hpart : part ∈ k.parts) :
      k.textOffset ≤ (UInt64.ofNat part.1).toNat ∧
        (UInt64.ofNat part.1).toNat ≤ k.sectionsOffset := by
    have hend := k.end_le_of_mem_parts part hpart
    have hlt := sectionsOffset_lt hsize
    rw [UInt64.toNat_ofNat_of_lt' (by omega)]
    exact ⟨k.textOffset_le_of_mem_parts part hpart, by omega⟩
  rw [segments_image] at hs
  rcases List.mem_cons.mp hs with rfl | hs
  · exact hpart (k.textOffset, toList k.text) List.mem_cons_self
  · obtain rfl := List.mem_singleton.mp hs
    exact hpart (k.dataOffset, toList k.data) (List.mem_cons_of_mem _ List.mem_cons_self)

theorem textOffset_le_of_startsContent {o : Nat} (starts : k.image.StartsContent o) :
    k.textOffset ≤ o := by
  cases starts with
  | sectionTable =>
    rw [header_image, toNat_shoff hsize]
    exact textOffset_le_sectionsOffset
  | ofSection hs hnull => exact (bounds_of_section hsize hs hnull).1
  | ofSegment hs => exact (bounds_of_segment hsize hs).1

/-- The program bytes are content also if there are none. -/
theorem startsContent_textOffset : k.image.StartsContent k.textOffset := by
  obtain ⟨s, hs, hnull, hoffset⟩ : ∃ s ∈ k.image.sections, s.isNull = false ∧
      s.offset = .ofNat k.textOffset := by
    rw [sections_image hsize]
    exact ⟨_, List.mem_cons_of_mem _ List.mem_cons_self, rfl, rfl⟩
  have hlt := sectionsOffset_lt hsize
  have hle := k.textOffset_le_sectionsOffset
  have htext : s.offset.toNat = k.textOffset := by
    rw [hoffset]
    exact UInt64.toNat_ofNat_of_lt' (by omega)
  rw [← htext]
  exact .ofSection hs hnull

/-- The gap behind the segment table is the padding. -/
theorem gapSize_image : k.image.gapSize = k.padding := by
  have htext : k.textOffset = k.image.entryOffset + k.padding := rfl
  refine (Image.isGreatest_gapSize (fitsIn_header hsize)).unique ⟨⟨?_, fun o starts ↦ ?_⟩, ?_⟩
  · rw [Image.size, bytes_image, size_bytes, ← htext]
    exact Nat.le_trans textOffset_le_sectionsOffset (Nat.le_add_right _ _)
  · exact Or.inr (textOffset_le_of_startsContent hsize starts)
  · intro n free
    have hbeside := free.beside _ (startsContent_textOffset hsize)
    omega

theorem checkFor_image : k.image.checkFor .shifted = .ok () := by
  have hend := k.size_bytes
  have hcan {offset : UInt64} (hle : offset.toNat ≤ k.sectionsOffset) :
      CanMove k.image.entryOffset segmentSize offset := by
    refine Or.inr ?_
    simp only [segmentSize, lastOffset, capacity] at *
    omega
  refine Image.checkFor_shifted (fitsIn_header hsize) ?_
    (fun s hs hnull ↦ hcan (bounds_of_section hsize hs hnull).2)
    (fun s hs ↦ hcan (bounds_of_segment hsize hs).2)
  simp only [Image.size, bytes_image, segmentSize, lastOffset, capacity] at *
  omega

end Load

/-! ### Zeros behind the segment table -/

/-- The `n` bytes behind the segment table are zero. -/
def ZeroBehind (k : Kernel) (n : Nat) : Prop := ∀ i < n, get? k.bytes (segmentsEnd + i) = some 0

instance (n : Nat) : Decidable (k.ZeroBehind n) := inferInstanceAs (Decidable (∀ i < n, _))

/-- Behind the NUL that they start with, the names of the sections have a dot. -/
theorem getElem?_names : k.names[1]? = some 0x2e := by
  rw [names, sectionNames_eq_outline, outline]
  split_ifs <;> rfl

/-- A stretch of zeros behind the segment table ends in front of the section table. -/
theorem le_sectionsOffset_of_zero {n : Nat} (zero : k.ZeroBehind n) :
    segmentsEnd + n ≤ k.sectionsOffset := by
  by_contra hreach
  have hfront : segmentsEnd ≤ k.namesOffset := Nat.le_trans (Nat.le_add_right _ k.padding)
    (k.textOffset_le_of_mem_parts (k.namesOffset, k.names)
      (List.mem_append_right _ List.mem_cons_self))
  have hend := k.namesEnd_le_sectionsOffset
  have hlength : 1 < k.names.length := (List.getElem?_eq_some_iff.mp getElem?_names).1
  -- So the dot stands among the zeros.
  have hzero := zero (k.namesOffset + 1 - segmentsEnd) (by omega)
  rw [Nat.add_sub_cancel' (by omega), k.placed.names.get?_eq hlength, getElem?_names] at hzero
  exact absurd hzero (by decide)

theorem isPadded_iff (hsize : k.bytes.size < capacity) :
    k.image.IsPadded ↔ k.ZeroBehind 56 := by
  constructor
  · exact fun padded ↦ padded.zero
  · intro zero
    have hle := le_sectionsOffset_of_zero zero
    have hend := k.size_bytes
    refine ⟨?_, zero, fun _ ↦ Or.inl ?_⟩
    · rw [Image.size, bytes_image, hend]
      exact Nat.le_trans hle (Nat.le_add_right _ _)
    · rw [header_image, toNat_shoff hsize]
      exact hle

/-! ### Adding a note -/

/-- The padding of a kernel decides what an injection into its file does. Content moves if the
padding can hold an entry, whatever it consists of. A shorter padding is reused if the bytes in the
place of the entry are zero, whatever part of the file they belong to, and otherwise there is no
space and the image stays as it is. The section table is never in the way of zeros. -/
theorem load_inject (hsize : k.bytes.size < capacity) (note : Note) :
    ∃ img, Image.load k.bytes = .ok img ∧
      (56 ≤ k.padding → ∃ noteOffset out, (Image.inject note).effect img =
        (.ok ⟨.shifted, k.padding, segmentsEnd, noteOffset, 2⟩, out)) ∧
      (k.padding < 56 → k.ZeroBehind 56 → ∃ noteOffset out, (Image.inject note).effect img =
        (.ok ⟨.reusedPadding, k.padding, segmentsEnd, noteOffset, 2⟩, out)) ∧
      (k.padding < 56 → ¬ k.ZeroBehind 56 →
        (Image.inject note).effect img = (.error (.noSpace 56 k.padding), img)) ∧
      ∀ n, k.ZeroBehind n → segmentsEnd + n ≤ img.header.shoff.toNat := by
  classical
  have hlast : k.image.size < lastOffset := lt_lastOffset hsize
  have fits : k.image.header.FitsIn k.image.size := fitsIn_header hsize
  have hcount : ¬ 65535 ≤ k.image.header.phnum.toNat + 1 := (by decide : ¬ 65535 ≤ 2 + 1)
  have found := Image.findRoom_eq fits hlast
  rw [if_neg hcount, gapSize_image hsize] at found
  have added {strategy : Strategy} (found : k.image.findRoom = .ok (strategy, k.padding))
      (checked : k.image.checkFor strategy = .ok ()) : ∃ noteOffset out,
        (Image.inject note).effect k.image =
          (.ok ⟨strategy, k.padding, segmentsEnd, noteOffset, 2⟩, out) := by
    rw [← gapSize_image hsize] at found
    obtain ⟨noteOffset, out, injected⟩ := Image.effect_inject_of_room fits hlast found checked
    rw [gapSize_image hsize] at injected
    exact ⟨noteOffset, out, injected⟩
  refine ⟨k.image, load_bytes hsize, fun hroom ↦ ?_, fun hroom zero ↦ ?_, fun hroom zero ↦ ?_,
    fun n zero ↦ ?_⟩
  · rw [if_pos hroom] at found
    exact added found (checkFor_image hsize)
  · rw [if_neg (Nat.not_le.mpr hroom), if_pos ((isPadded_iff hsize).mpr zero)] at found
    exact added found rfl
  · rw [if_neg (Nat.not_le.mpr hroom), if_neg ((isPadded_iff hsize).not.mpr zero)] at found
    rw [Image.effect_inject fits hlast, found]
  · rw [header_image, toNat_shoff hsize]
    exact le_sectionsOffset_of_zero zero

/-- A kernel with padding for one entry, which is not zero. -/
def filledKernel : Kernel where
  padding := 56
  fill := 0xcc

/-- A kernel whose data is zero and stands a few bytes behind the segment table. -/
def blankKernel : Kernel where
  padding := 3
  text := .empty
  data := zeros 56

theorem size_filledKernel : filledKernel.bytes.size < capacity := by
  rw [size_bytes]
  decide +kernel

theorem size_blankKernel : blankKernel.bytes.size < capacity := by
  rw [size_bytes]
  decide +kernel

/-- Only the first kernel has padding for an entry, and only in the second one the bytes in its
place are zero. -/
theorem load_inject_kernels :
    (∃ img noteOffset out, Image.load filledKernel.bytes = .ok img ∧
      (Image.inject ⟨0x1000⟩).effect img =
        (.ok ⟨.shifted, 56, segmentsEnd, noteOffset, 2⟩, out)) ∧
      (∃ img noteOffset out, Image.load blankKernel.bytes = .ok img ∧
        (Image.inject ⟨0x1000⟩).effect img =
          (.ok ⟨.reusedPadding, 3, segmentsEnd, noteOffset, 2⟩, out)) ∧
      ∃ img, Image.load sampleKernel.bytes = .ok img ∧
        (Image.inject ⟨0x1000⟩).effect img = (.error (.noSpace 56 3), img) := by
  obtain ⟨img₁, loaded₁, shifts, -⟩ := load_inject size_filledKernel ⟨0x1000⟩
  obtain ⟨img₂, loaded₂, -, reuses, -⟩ := load_inject size_blankKernel ⟨0x1000⟩
  obtain ⟨img₃, loaded₃, -, -, fails, -⟩ := load_inject size_sampleKernel ⟨0x1000⟩
  obtain ⟨noteOffset₁, out₁, injected₁⟩ := shifts (Nat.le_refl 56)
  obtain ⟨noteOffset₂, out₂, injected₂⟩ := reuses (by decide) (by decide +kernel)
  exact ⟨⟨img₁, noteOffset₁, out₁, loaded₁, injected₁⟩,
    ⟨img₂, noteOffset₂, out₂, loaded₂, injected₂⟩,
    img₃, loaded₃, fails (by decide) (by decide +kernel)⟩

end BootNote.Kernel
