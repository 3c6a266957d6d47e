import BootNote.Proofs.Image.Stretch
import Mathlib.Order.Monotone.Basic

/-!
The gap behind the segment table. It ends where the first content starts (`le_firstContent_iff`),
which comes no earlier from a later position (`firstContent_mono`).
After an injection that moves content, the segment table is longer by an entry, all content behind
it has moved by as much, and the note is new content at the end, so the gap is not smaller
(`gapSize_le_injected`).
-/

set_option autoImplicit false
set_option relaxedAutoImplicit false

namespace BootNote.Image

open Bytes Elf

/-- The number of bytes between the segment table and the first content behind it. -/
def gapSize (img : Image) : Nat := img.firstContent img.entryOffset - img.entryOffset

variable {img : Image} {start m o : Nat}

theorem le_foldl_min_iff {l : List Nat} : m ≤ l.foldl min start ↔ m ≤ start ∧ ∀ o ∈ l, m ≤ o := by
  induction l generalizing start with
  | nil => simp
  | cons o l ih => rw [List.foldl_cons, ih, Nat.le_min, List.forall_mem_cons, and_assoc]

theorem le_firstContent_iff : m ≤ img.firstContent start ↔
    m ≤ img.size ∧ ∀ o ∈ img.contentStarts, start ≤ o → m ≤ o := by
  simp [firstContent, le_foldl_min_iff]

theorem firstContent_mono : Monotone img.firstContent := by
  intro start stop hle
  obtain ⟨hend, hstarts⟩ := le_firstContent_iff.mp (Nat.le_refl (img.firstContent start))
  exact le_firstContent_iff.mpr ⟨hend, fun o ho hstop ↦ hstarts o ho (Nat.le_trans hle hstop)⟩

theorem le_firstContent (hle : start ≤ img.size) : start ≤ img.firstContent start :=
  le_firstContent_iff.mpr ⟨hle, fun _ _ h ↦ h⟩

theorem mem_contentStarts_iff : o ∈ img.contentStarts ↔
    (img.header.shnum ≠ 0 ∧ img.header.shoff.toNat = o) ∨
      (∃ s ∈ img.sections, s.isNull = false ∧ s.offset.toNat = o) ∨
        ∃ s ∈ img.segments, s.filesz ≠ 0 ∧ s.offset.toNat = o := by
  have htable : o ∈ (if img.header.shnum = 0 then [] else [img.header.shoff.toNat]) ↔
      img.header.shnum ≠ 0 ∧ img.header.shoff.toNat = o := by
    split_ifs with hnum <;> simp [hnum, eq_comm]
  simp only [contentStarts, List.mem_append, htable, List.mem_map, List.mem_filter,
    Bool.not_eq_true', decide_eq_true_eq, and_assoc, or_assoc]

theorem entryOffset_le_firstContent (fits : img.header.FitsIn img.size) :
    img.entryOffset ≤ img.firstContent img.entryOffset :=
  le_firstContent fits.segments_le

section Injected

variable (note : Note) {strategy : Strategy} {available : Nat}
  (fits : img.header.FitsIn img.size) (hsize : img.size < lastOffset)
  (found : img.findRoom = .ok (strategy, available)) (checked : img.checkFor strategy = .ok ())
  (apart : img.header.Apart)

include fits hsize found checked apart

/-- Content starts where it started before, moved, or it is the note. -/
theorem contentStarts_injected (ho : o ∈ ((img.roomFor strategy).withNote note).contentStarts) :
    (∃ o' ∈ img.contentStarts, o = shifted img.entryOffset strategy.growth o') ∨
      o = (img.roomFor strategy).noteEntry.offset.toNat := by
  have movable := movable_of_checkFor checked
  rcases mem_contentStarts_iff.mp ho with ⟨hnum, rfl⟩ | ⟨s, hs, hnull, rfl⟩ | ⟨s, hs, hfilesz, rfl⟩
  · rw [header_injected, Header.moved_shnum] at hnum
    exact Or.inl ⟨_, mem_contentStarts_iff.mpr (Or.inl ⟨hnum, rfl⟩),
      toNat_shoff_injected note checked hnum⟩
  · rw [sections_injected note fits hsize found checked apart] at hs
    obtain ⟨t, ht, rfl⟩ := List.mem_map.mp hs
    rw [Section.isNull_moved] at hnull
    refine Or.inl ⟨_, mem_contentStarts_iff.mpr (Or.inr (Or.inl ⟨t, ht, hnull, rfl⟩)), ?_⟩
    rw [t.moved_offset hnull, toNat_moved (movable.sections t ht hnull)]
  · rw [segments_injected note fits hsize found checked, List.mem_append, List.mem_singleton] at hs
    rcases hs with hs | rfl
    · obtain ⟨t, ht, rfl⟩ := List.mem_map.mp hs
      exact Or.inl ⟨_, mem_contentStarts_iff.mpr (Or.inr (Or.inr ⟨t, ht, hfilesz, rfl⟩)),
        toNat_moved (movable.segments t ht)⟩
    · exact Or.inr rfl

end Injected

/-- The gap does not become smaller when content moves. -/
theorem gapSize_le_injected (note : Note) {available : Nat} (fits : img.header.FitsIn img.size)
    (hsize : img.size < lastOffset) (found : img.findRoom = .ok (.shifted, available))
    (checked : img.checkFor .shifted = .ok ()) (apart : img.header.Apart)
    (hsize' : ((img.roomFor .shifted).withNote note).size < lastOffset) :
    img.gapSize ≤ ((img.roomFor .shifted).withNote note).gapSize := by
  have hgrown := size_add_growth_le note fits hsize found checked
  have hnote := toNat_offset_noteEntry note fits hsize found checked hsize'
  have hend := le_alignUp (img.size + segmentSize) (show 0 < Note.alignment by decide)
  have hgap : img.entryOffset + img.gapSize ≤ img.firstContent img.entryOffset := by
    have hle := entryOffset_le_firstContent fits
    rw [gapSize]
    omega
  obtain ⟨hsize_le, hstarts⟩ := le_firstContent_iff.mp hgap
  rw [Strategy.growth] at hgrown hnote
  suffices hfirst : img.entryOffset + segmentSize + img.gapSize ≤
      ((img.roomFor .shifted).withNote note).firstContent (img.entryOffset + segmentSize) by
    rw [gapSize, gapSize, entryOffset_injected note fits hsize found checked]
    rw [gapSize] at hfirst
    omega
  refine le_firstContent_iff.mpr ⟨by omega, fun o ho hle ↦ ?_⟩
  rcases contentStarts_injected note fits hsize found checked apart ho with ⟨o', ho', rfl⟩ | rfl
  · rw [Strategy.growth] at hle ⊢
    by_cases hbehind : img.entryOffset ≤ o'
    · have := hstarts o' ho' hbehind
      rw [shifted_of_le hbehind]
      omega
    · rw [shifted_of_lt (Nat.not_le.mp hbehind)] at hle
      omega
  · rw [hnote]
    omega

end BootNote.Image
