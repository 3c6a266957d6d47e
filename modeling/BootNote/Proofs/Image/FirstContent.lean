import BootNote.Proofs.Image.Gap
import BootNote.Proofs.Image.MakesRoom

/-!
The first content from a position on, before and after room is made. Content starts where it started
before, moved (`contentStarts_withRoom`). So the gaps behind the room move with their content and
keep their sizes, and a gap that ends in front of the room stays where it is (`KeepsGaps`).
`firstContent_of_makeRoom` shows this of every room that is made in a loaded file, together with
what holds of the first content in any file: it lies at or behind the position, and it comes no
earlier from a later position.
-/

set_option autoImplicit false
set_option relaxedAutoImplicit false

namespace BootNote.Image

open Bytes Elf

variable {img : Image} {pos len : Nat}

/-- Which first content two images have in common when one is the other with room: behind the room
it has moved, and in front of it it stays. -/
structure KeepsGaps (img : Image) (pos len : Nat) (out : Image) : Prop where
  behind : ∀ start, pos ≤ start → out.firstContent (start + len) = img.firstContent start + len
  front : ∀ start, img.firstContent start < pos → out.firstContent start = img.firstContent start

/-- Entries that keep what they count as when they move start where they started before, moved. -/
theorem map_filter_moved {α : Type} {move : α → α} {counts : α → Bool} {offset : α → Nat}
    {entries : List α} (hcounts : ∀ s, counts (move s) = counts s)
    (hoffset : ∀ s ∈ entries, counts s = true → offset (move s) = shifted pos len (offset s)) :
    ((entries.map move).filter counts).map offset =
      ((entries.filter counts).map offset).map (shifted pos len) := by
  rw [List.filter_map, List.map_map, List.map_map, funext (f := counts ∘ move) hcounts]
  refine List.map_congr_left fun s hs ↦ ?_
  obtain ⟨hs, hcount⟩ := List.mem_filter.mp hs
  exact hoffset s hs hcount

section WithRoom

variable (fits : img.header.FitsIn img.size) (movable : img.Movable pos len)
  (hpos : img.entryOffset ≤ pos) (hsize : img.size < lastOffset) (apart : img.header.Apart)

include fits movable hpos hsize apart

/-- Content starts where it started before, moved. -/
theorem contentStarts_withRoom : (img.withRoom pos len).contentStarts =
    img.contentStarts.map (shifted pos len) := by
  rw [contentStarts, contentStarts, sections_withRoom fits movable hpos hsize apart,
    segments_withRoom fits movable, List.map_append, List.map_append]
  refine congrArg₂ _ (congrArg₂ _ ?_ ?_) ?_
  · rw [header_withRoom, Header.moved_shnum]
    split_ifs with hnum
    · rfl
    · rw [Header.moved_shoff_of_ne _ hnum, toNat_moved (movable.shoff hnum)]
      rfl
  · refine map_filter_moved (fun s ↦ by rw [Section.isNull_moved]) fun s hs hcount ↦ ?_
    have hnull : s.isNull = false := by simpa using hcount
    rw [s.moved_offset hnull, toNat_moved (movable.sections s hs hnull)]
  · exact map_filter_moved (fun _ ↦ rfl) fun s hs _ ↦ toNat_moved (movable.segments s hs)

theorem keepsGaps_withRoom (hle : pos ≤ img.size) :
    img.KeepsGaps pos len (img.withRoom pos len) := by
  have hgrown := size_withRoom fits movable
  have hstarts := contentStarts_withRoom fits movable hpos hsize apart
  refine ⟨fun start hstart ↦ eq_of_forall_le_iff fun m ↦ ?_, fun start hfirst ↦ ?_⟩
  -- What moves comes to lie at or behind `start + len` exactly if it lies at or behind `start`.
  · rw [← Nat.sub_le_iff_le_add, le_firstContent_iff, le_firstContent_iff, hgrown, hstarts,
      Nat.sub_le_iff_le_add, List.forall_mem_map]
    refine and_congr_right fun _ ↦ forall₂_congr fun o _ ↦ ?_
    unfold shifted
    split_ifs <;> omega
  -- Up to the room, the same content starts in both images.
  · have hfront {m : Nat} (hm : m ≤ pos) :
        m ≤ (img.withRoom pos len).firstContent start ↔ m ≤ img.firstContent start := by
      rw [le_firstContent_iff, le_firstContent_iff, hgrown, hstarts, List.forall_mem_map]
      refine and_congr (by omega) (forall₂_congr fun o _ ↦ ?_)
      unfold shifted
      split_ifs <;> omega
    have hle := (hfront (Nat.le_of_lt hfirst)).mpr (Nat.le_refl _)
    have hlt := (hfront hfirst).not.mpr (Nat.lt_irrefl _)
    omega

end WithRoom

/-- Wherever room is made in a loaded file whose tables lie apart, the gaps behind it move with
their content and the gaps in front of it stay. In any file, the first content from a position on
lies at or behind it, and it comes no earlier from a later position. -/
theorem firstContent_of_makeRoom {bytes : ByteArray} (hsize : bytes.size < capacity)
    (loaded : load bytes = .ok img) (apart : img.header.Apart) :
    (∀ pos len out, img.entryOffset ≤ pos → (makeRoom pos len).effect img = (.ok (), out) →
      img.KeepsGaps pos len out) ∧
      Monotone img.firstContent ∧ ∀ start ≤ img.size, start ≤ img.firstContent start := by
  have hlast := lt_lastOffset hsize
  have fits := fitsIn_of_load hlast loaded
  obtain ⟨rfl, -⟩ := (load_eq_ok_iff hlast).mp loaded
  refine ⟨fun pos len out hpos made ↦ ?_, firstContent_mono, fun _ ↦ le_firstContent⟩
  obtain ⟨⟨movable, hle⟩, rfl⟩ := (effect_makeRoom_eq_ok_iff fits).mp made
  exact keepsGaps_withRoom fits movable hpos hlast apart hle

/-- Room in front of the section table of the sample file: the table is still the first content
behind its old place, moved, and the section in front of it is the first content as before. -/
theorem firstContent_sampleImage :
    (sampleImage.withRoom 200 4152).firstContent (200 + 4152) = 200 + 4152 ∧
      (sampleImage.withRoom 200 4152).firstContent 120 = 176 := by
  have keeps := (firstContent_of_makeRoom size_sampleBytes load_sampleBytes apart_sampleImage).1
    200 4152 _ (by decide) (makeRoom_sampleImage (by decide))
  have hbehind : sampleImage.firstContent 200 = 200 := by
    rw [← image_sampleParts, Parts.firstContent_image]
    decide +kernel
  have hfront : sampleImage.firstContent 120 = 176 := by
    rw [← image_sampleParts, Parts.firstContent_image]
    decide +kernel
  refine ⟨?_, ?_⟩
  · rw [keeps.behind 200 (Nat.le_refl _), hbehind]
  · rw [keeps.front 120 (by rw [hfront]; decide), hfront]

end BootNote.Image
