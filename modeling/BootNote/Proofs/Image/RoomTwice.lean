import BootNote.Proofs.Image.MakesRoom

/-!
Room made twice at one position. Two loaded files with the same header, the same tables and the same
content are equal (`eq_of_content`), so what `MakesRoom` says of a result determines it
(`MakesRoom.unique`). Room made in a file that has room already is room made once, with both lengths
together (`MakesRoom.trans`), and the offsets that stand in the way are the same
(`movable_add_iff`). Hence `makeRoom_makeRoom`: twice is once, success and result alike.
-/

set_option autoImplicit false
set_option relaxedAutoImplicit false

namespace BootNote

open Bytes

namespace Elf

variable {pos first second len : Nat}

theorem Header.IsShifted.shnum_eq {h h' : Header} (shifts : h.IsShifted pos len h') :
    h'.shnum = h.shnum := by
  rw [shifts.eq_except]

theorem Header.IsShifted.unique {h a b : Header} (ha : h.IsShifted pos len a)
    (hb : h.IsShifted pos len b) : a = b := by
  have hshoff : a.shoff = b.shoff := by
    by_cases hnum : h.shnum = 0
    · rw [ha.shoff_eq hnum, hb.shoff_eq hnum]
    · exact UInt64.toNat_inj.mp (by rw [ha.toNat_shoff hnum, hb.toNat_shoff hnum])
  rw [ha.eq_except, hb.eq_except, hshoff]

theorem Header.IsShifted.trans {h mid out : Header} (ha : h.IsShifted pos first mid)
    (hb : mid.IsShifted pos second out) : h.IsShifted pos (first + second) out where
  eq_except := by rw [hb.eq_except, ha.eq_except]
  shoff_eq hnum := by rw [hb.shoff_eq (ha.shnum_eq.trans hnum), ha.shoff_eq hnum]
  toNat_shoff hnum := by
    rw [hb.toNat_shoff (ha.shnum_eq.trans_ne hnum), ha.toNat_shoff hnum, shifted_shifted]

theorem Segment.IsShifted.unique : Relator.RightUnique (Segment.IsShifted pos len) := by
  intro s a b ha hb
  have hoffset : a.offset = b.offset :=
    UInt64.toNat_inj.mp (by rw [ha.toNat_offset, hb.toNat_offset])
  rw [ha.eq_except, hb.eq_except, hoffset]

theorem Segment.IsShifted.trans {s mid out : Segment} (ha : s.IsShifted pos first mid)
    (hb : mid.IsShifted pos second out) : s.IsShifted pos (first + second) out where
  eq_except := by rw [hb.eq_except, ha.eq_except]
  toNat_offset := by rw [hb.toNat_offset, ha.toNat_offset, shifted_shifted]

theorem Section.IsShifted.isNull_eq {s s' : Section} (shifts : s.IsShifted pos len s') :
    s'.isNull = s.isNull := by
  rw [shifts.eq_except]
  rfl

theorem Section.IsShifted.unique : Relator.RightUnique (Section.IsShifted pos len) := by
  intro s a b ha hb
  have hoffset : a.offset = b.offset := by
    cases hnull : s.isNull with
    | true => rw [ha.offset_eq hnull, hb.offset_eq hnull]
    | false => exact UInt64.toNat_inj.mp (by rw [ha.toNat_offset hnull, hb.toNat_offset hnull])
  rw [ha.eq_except, hb.eq_except, hoffset]

theorem Section.IsShifted.trans {s mid out : Section} (ha : s.IsShifted pos first mid)
    (hb : mid.IsShifted pos second out) : s.IsShifted pos (first + second) out where
  eq_except := by rw [hb.eq_except, ha.eq_except]
  offset_eq hnull := by rw [hb.offset_eq (ha.isNull_eq.trans hnull), ha.offset_eq hnull]
  toNat_offset hnull := by
    rw [hb.toNat_offset (ha.isNull_eq.trans hnull), ha.toNat_offset hnull, shifted_shifted]

/-- Entries of three tables that are related pair by pair, from the first table to the second and
from there to the third. -/
theorem forall₂_trans {α : Type} {r r' r'' : α → α → Prop}
    (h : ∀ a b c, r a b → r' b c → r'' a c) {l mid out : List α} (hr : List.Forall₂ r l mid)
    (hr' : List.Forall₂ r' mid out) : List.Forall₂ r'' l out := by
  induction hr generalizing out with
  | nil =>
    rw [List.forall₂_nil_left_iff.mp hr']
    exact .nil
  | cons hab _ ih =>
    obtain ⟨c, rest, hbc, hrest, rfl⟩ := List.forall₂_cons_left_iff.mp hr'
    exact .cons (h _ _ _ hab hbc) (ih hrest)

end Elf

namespace Image

open Elf

variable {img mid out out' : Image} {pos len first second : Nat}

/-- Two loaded files of one size with the same header and the same tables differ at most in their
content. -/
theorem eq_of_content (hsize : img.size < lastOffset) (loaded : load img.bytes = .ok img)
    (loaded' : load out.bytes = .ok out) (hsize' : out.size = img.size)
    (hheader : out.header = img.header) (hsegments : out.segments = img.segments)
    (hsections : out.sections = img.sections)
    (hcontent : ∀ i, img.IsContent i → get? out.bytes i = get? img.bytes i) : out = img := by
  have hlast : out.size < lastOffset := by omega
  have fits := fitsIn_of_load hsize loaded
  have fits' := fitsIn_of_load hlast loaded'
  obtain ⟨-, -, hfront, -⟩ := (load_eq_ok_iff hsize).mp loaded
  obtain ⟨-, -, hfront', -⟩ := (load_eq_ok_iff hlast).mp loaded'
  have hbytes : out.bytes = img.bytes := by
    refine eq_of_get? fun i ↦ ?_
    by_cases hi : i < headerSize
    · exact (Header.atFront_eq_iff fits'.headerSize_le_size fits.headerSize_le_size).mp
        (by rw [← hfront, ← hfront', hheader]) i hi
    by_cases hin : img.header.phoff.toNat ≤ i ∧ i < img.entryOffset
    · rw [← getElem?_segments fits hin.1 hin.2, ← hsegments, ← hheader]
      exact (getElem?_segments fits' (by rw [hheader]; exact hin.1)
        (by rw [hheader]; exact hin.2)).symm
    by_cases hin' : img.header.shnum ≠ 0 ∧ img.header.shoff.toNat ≤ i ∧
        i < img.header.shoff.toNat + img.header.shnum.toNat * sectionSize
    · obtain ⟨hnum, hle, hlt⟩ := hin'
      rw [← getElem?_sections fits hnum hle hlt, ← hsections, ← hheader]
      exact (getElem?_sections fits' (by rwa [hheader]) (by rwa [hheader])
        (by rwa [hheader])).symm
    by_cases hend : i < img.size
    · exact hcontent i ⟨hend, by omega, by omega, fun hnum ↦ by
        by_contra hreach
        exact hin' ⟨hnum, by omega, by omega⟩⟩
    · have hend' : ¬ i < out.size := hsize' ▸ hend
      rw [get?_eq_none (Nat.not_lt.mp hend), get?_eq_none (Nat.not_lt.mp hend')]
  cases img
  cases out
  simp_all

section MakesRoom

theorem MakesRoom.phoff_eq (made : img.MakesRoom pos len out) :
    out.header.phoff = img.header.phoff := by
  rw [made.header.eq_except]

theorem MakesRoom.entryOffset_eq (made : img.MakesRoom pos len out) :
    out.entryOffset = img.entryOffset := by
  rw [entryOffset, entryOffset, made.header.eq_except]

variable (fits : img.header.FitsIn img.size) (hpos : img.entryOffset ≤ pos)
  (hle : pos ≤ img.size)
  (hbeside : img.header.shnum ≠ 0 → pos ≤ img.header.shoff.toNat ∨
    img.header.shoff.toNat + 64 * img.header.shnum.toNat ≤ pos)

section Content

include hpos

/-- Content stays content where it moves. -/
theorem MakesRoom.isContent (made : img.MakesRoom pos len out) {i : Nat}
    (content : img.IsContent i) : out.IsContent (shifted pos len i) := by
  have hmore := le_shifted pos len i
  have hadd := shifted_le_add pos len i
  refine ⟨?_, Nat.le_trans content.headerSize_le hmore, ?_, fun hnum ↦ ?_⟩
  · have hend := content.lt_size
    rw [made.size_eq]
    omega
  · rw [made.phoff_eq, made.entryOffset_eq]
    rcases content.segments with hfront | hbehind
    · have htable : img.header.phoff.toNat ≤ img.entryOffset := Nat.le_add_right _ _
      left
      rwa [shifted_of_lt (by omega)]
    · exact Or.inr (Nat.le_trans hbehind hmore)
  · rw [made.header.shnum_eq] at hnum ⊢
    rw [made.header.toNat_shoff hnum]
    have hside := content.sections hnum
    unfold shifted
    split_ifs <;> omega

end Content

section Tables

include hbeside

/-- A position that does not divide the section table does not divide it after it has moved. -/
theorem MakesRoom.beside (made : img.MakesRoom pos len out) (hnum : out.header.shnum ≠ 0) :
    pos ≤ out.header.shoff.toNat ∨
      out.header.shoff.toNat + 64 * out.header.shnum.toNat ≤ pos := by
  rw [made.header.shnum_eq] at hnum ⊢
  rw [made.header.toNat_shoff hnum]
  have hside := hbeside hnum
  unfold shifted
  split_ifs <;> omega

end Tables

include fits hpos hle hbeside

/-- Content beside the room comes from content. -/
theorem MakesRoom.exists_isContent (made : img.MakesRoom pos len out) {i : Nat}
    (content : out.IsContent i) (hi : i < pos ∨ pos + len ≤ i) :
    ∃ j, img.IsContent j ∧ shifted pos len j = i := by
  have hfront : headerSize ≤ img.entryOffset :=
    Nat.le_trans fits.headerSize_le (Nat.le_add_right _ _)
  have hend := content.lt_size
  have hsegments := content.segments
  rw [made.size_eq] at hend
  rw [made.phoff_eq, made.entryOffset_eq] at hsegments
  -- The section table of the result is that of the file, moved.
  have hsections (hnum : img.header.shnum ≠ 0) :
      i < shifted pos len img.header.shoff.toNat ∨
        shifted pos len img.header.shoff.toNat + 64 * img.header.shnum.toNat ≤ i := by
    have hside := content.sections (made.header.shnum_eq.trans_ne hnum)
    rw [made.header.shnum_eq, made.header.toNat_shoff hnum, Nat.mul_comm] at hside
    exact hside
  have hback (hnum : img.header.shnum ≠ 0) {j : Nat} (hj : shifted pos len j = i) :
      j < img.header.shoff.toNat ∨
        img.header.shoff.toNat + img.header.shnum.toNat * sectionSize ≤ j := by
    have hmoved := hsections hnum
    have hside := hbeside hnum
    rw [sectionSize]
    subst hj
    unfold shifted at hmoved
    split_ifs at hmoved <;> omega
  rcases hi with hi | hi
  · have hj : shifted pos len i = i := shifted_of_lt hi
    exact ⟨i, ⟨by omega, content.headerSize_le, hsegments, fun hnum ↦ hback hnum hj⟩, hj⟩
  · have hj : shifted pos len (i - len) = i := by
      rw [shifted_of_le (by omega)]
      omega
    exact ⟨i - len, ⟨by omega, by omega, by omega, fun hnum ↦ hback hnum hj⟩, hj⟩

/-- What making room changes and what it keeps determine the result. -/
theorem MakesRoom.unique (hsize : img.size + len < lastOffset) (made : img.MakesRoom pos len out)
    (made' : img.MakesRoom pos len out') : out = out' := by
  have hlast : out'.size < lastOffset := by
    rw [made'.size_eq]
    exact hsize
  refine eq_of_content hlast made'.loaded made.loaded (made.size_eq.trans made'.size_eq.symm)
    (made.header.unique made'.header)
    (List.right_unique_forall₂' Segment.IsShifted.unique made.segments made'.segments)
    (List.right_unique_forall₂' Section.IsShifted.unique made.sections made'.sections)
    fun i content ↦ ?_
  by_cases hi : i < pos ∨ pos + len ≤ i
  · obtain ⟨j, hj, rfl⟩ := made'.exists_isContent fits hpos hle hbeside content hi
    rw [made.content j hj, made'.content j hj]
  · rw [made.zero hbeside i (by omega) (by omega), made'.zero hbeside i (by omega) (by omega)]

/-- Room made in a file with room at the same position is room made once. -/
theorem MakesRoom.trans (ha : img.MakesRoom pos first mid) (hb : mid.MakesRoom pos second out) :
    img.MakesRoom pos (first + second) out where
  size_eq := by rw [hb.size_eq, ha.size_eq, Nat.add_assoc]
  loaded := hb.loaded
  header := ha.header.trans hb.header
  segments := forall₂_trans (fun _ _ _ hs hs' ↦ hs.trans hs') ha.segments hb.segments
  sections := forall₂_trans (fun _ _ _ hs hs' ↦ hs.trans hs') ha.sections hb.sections
  content i content := by
    rw [← shifted_shifted, hb.content _ (ha.isContent hpos content), ha.content i content]
  zero _ i hi hlt := by
    by_cases hroom : i < pos + second
    · exact hb.zero (ha.beside hbeside) i hi hroom
    -- Behind the second room come the zeros of the first, moved.
    · have hphoff := fits.headerSize_le
      have hfront : img.header.phoff.toNat ≤ img.entryOffset := Nat.le_add_right _ _
      have hcontent : mid.IsContent (i - second) := by
        refine ⟨?_, by omega, Or.inr ?_, fun hnum ↦ ?_⟩
        · rw [ha.size_eq]
          omega
        · rw [ha.entryOffset_eq]
          omega
        · rw [ha.header.shnum_eq] at hnum ⊢
          rw [ha.header.toNat_shoff hnum, sectionSize]
          have hside := hbeside hnum
          unfold shifted
          split_ifs <;> omega
      have hmoved : shifted pos second (i - second) = i := by
        rw [shifted_of_le (by omega)]
        omega
      rw [← hmoved, hb.content _ hcontent]
      exact ha.zero hbeside _ (by omega) (by omega)

end MakesRoom

/-! ### Twice and once -/

section Load

variable {bytes : ByteArray} (loaded : load bytes = .ok img) (apart : img.header.Apart)
  (hpos : img.entryOffset ≤ pos)

include loaded apart hpos

/-- The offsets that stand in the way of one room of both lengths are those that stand in the way of
the first room, and of the second after they have moved. -/
theorem movable_add_iff (hsize : bytes.size < lastOffset) (movable : img.Movable pos first) :
    (img.withRoom pos first).Movable pos second ↔ img.Movable pos (first + second) := by
  have fits := fitsIn_of_load hsize loaded
  obtain ⟨rfl, -⟩ := (load_eq_ok_iff hsize).mp loaded
  have hsections := sections_withRoom fits movable hpos hsize apart
  have hsegments := segments_withRoom fits movable
  constructor
  · intro again
    refine ⟨fun hnum ↦ canMove_add_iff.mpr ⟨movable.shoff hnum, ?_⟩,
      fun s hs hnull ↦ canMove_add_iff.mpr ⟨movable.sections s hs hnull, ?_⟩,
      fun s hs ↦ canMove_add_iff.mpr ⟨movable.segments s hs, ?_⟩⟩
    · have hshoff := again.shoff (by simpa using hnum)
      rwa [header_withRoom, Header.moved_shoff_of_ne _ hnum] at hshoff
    · have hoffset := again.sections (s.moved pos first)
        (by rw [hsections]; exact List.mem_map_of_mem hs) (by rwa [Section.isNull_moved])
      rwa [s.moved_offset hnull] at hoffset
    · exact again.segments (s.moved pos first)
        (by rw [hsegments]; exact List.mem_map_of_mem hs)
  · intro whole
    refine ⟨fun hnum ↦ ?_, fun s hs hnull ↦ ?_, fun s hs ↦ ?_⟩
    · rw [header_withRoom, Header.moved_shnum] at hnum
      rw [header_withRoom, Header.moved_shoff_of_ne _ hnum]
      exact (canMove_add_iff.mp (whole.shoff hnum)).2
    · rw [hsections] at hs
      obtain ⟨t, ht, rfl⟩ := List.mem_map.mp hs
      rw [Section.isNull_moved] at hnull
      rw [t.moved_offset hnull]
      exact (canMove_add_iff.mp (whole.sections t ht hnull)).2
    · rw [hsegments] at hs
      obtain ⟨t, ht, rfl⟩ := List.mem_map.mp hs
      exact (canMove_add_iff.mp (whole.segments t ht)).2

variable (hle : pos ≤ img.size)
  (hbeside : img.header.shnum ≠ 0 → pos ≤ img.header.shoff.toNat ∨
    img.header.shoff.toNat + 64 * img.header.shnum.toNat ≤ pos)
  (hsize : bytes.size + (first + second) < capacity)

include hle hbeside hsize

/-- Making room in a file with room at the same position fails on what would stand in the way of one
room of both lengths, and else gives the file with that room. -/
theorem makeRoom_withRoom_eq_ok_iff (movable : img.Movable pos first) :
    (makeRoom pos second).effect (img.withRoom pos first) = (.ok (), out) ↔
      img.Movable pos (first + second) ∧ out = img.withRoom pos (first + second) := by
  have hlast : bytes.size < lastOffset := lt_lastOffset (by omega)
  have fits := fitsIn_of_load hlast loaded
  obtain ⟨rfl, -⟩ := (load_eq_ok_iff hlast).mp loaded
  rw [← Image.size] at hsize hlast
  have hgrown := size_withRoom fits movable
  have hle' : pos ≤ (img.withRoom pos first).size := by omega
  have hsize' : (img.withRoom pos first).bytes.size + second < capacity := by
    rw [← Image.size]
    omega
  have ha := makesRoom_withRoom loaded hpos hle (by rw [← Image.size]; omega) apart movable
  have hmovable : (img.withRoom pos first).Movable pos second ↔ img.Movable pos (first + second) :=
    movable_add_iff loaded apart hpos hlast movable
  rw [makeRoom_eq_ok_iff ha.loaded hle' hsize', hmovable]
  refine and_congr_right fun whole ↦ ?_
  -- Both images are what one room of both lengths makes of the file, so they are one image.
  have hb := makesRoom_withRoom ha.loaded (by rwa [ha.entryOffset_eq]) hle' hsize'
    (apart_withRoom fits movable hpos hlast apart (lt_lastOffset (by omega)))
    (hmovable.mpr whole)
  have hboth := makesRoom_withRoom loaded hpos hle hsize apart whole
  rw [(ha.trans fits hpos hle hbeside hb).unique fits hpos hle hbeside (lt_lastOffset hsize) hboth]

/-- Room made twice at a position that does not divide the section table is room made once: one
succeeds exactly if the other does, with the same bytes and the same header. -/
theorem makeRoom_makeRoom :
    (do makeRoom pos first; makeRoom pos second : Action Image Unit).effect img = (.ok (), out) ↔
      (makeRoom pos (first + second)).effect img = (.ok (), out) := by
  have hfirst : bytes.size + first < capacity := by omega
  rw [Action.effect_bind_eq_ok_iff, makeRoom_eq_ok_iff loaded hle hsize]
  constructor
  · rintro ⟨_, mid, made, again⟩
    obtain ⟨movable, rfl⟩ := (makeRoom_eq_ok_iff loaded hle hfirst).mp made
    exact (makeRoom_withRoom_eq_ok_iff loaded apart hpos hle hbeside hsize movable).mp again
  · rintro ⟨whole, rfl⟩
    have movable : img.Movable pos first := whole.mono (Nat.le_add_right _ _)
    exact ⟨(), _, (makeRoom_eq_ok_iff loaded hle hfirst).mpr ⟨movable, rfl⟩,
      (makeRoom_withRoom_eq_ok_iff loaded apart hpos hle hbeside hsize movable).mpr ⟨whole, rfl⟩⟩

end Load

/-- Room of 56 and then of 4096 bytes in front of the section table, which moves both times. -/
theorem makeRoom_makeRoom_sampleImage :
    (do makeRoom 200 56; makeRoom 200 4096 : Action Image Unit).effect sampleImage =
      (.ok (), sampleImage.withRoom 200 4152) := by
  have hsize : sampleBytes.size = 328 := size_eq_sampleImage
  refine (makeRoom_makeRoom load_sampleBytes apart_sampleImage (by decide) ?_
    (fun _ ↦ Or.inl (by decide)) ?_).mpr (makeRoom_sampleImage (by decide))
  · rw [size_eq_sampleImage]
    decide
  · rw [hsize]
    decide

end Image

end BootNote
