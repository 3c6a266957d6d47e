import BootNote.Proofs.Image.Load
import BootNote.Proofs.Image.Relocation
import BootNote.Proofs.Image.Write

/-!
The image after room is made. `withRoom` is that image, and `effect_makeRoom` says that making room
either fails in one of the checks, with the image as it was, or gives this image: nothing that is
written after the bytes are inserted can fail. The two tables of `withRoom` read back moved
(`segments_withRoom`, `sections_withRoom`), and each byte outside the header and the tables stands
where the insertion moved it (`get?_withRoom`).
-/

set_option autoImplicit false
set_option relaxedAutoImplicit false

namespace BootNote.Image

open Bytes Elf

/-- An image with bytes inserted at `pos` and the moved header written, before its tables are
written. -/
def grown (img : Image) (pos len : Nat) : Image :=
  writeHeader { img with bytes := insert img.bytes pos (zeros len) } (img.header.moved pos len)

@[simp] theorem header_grown (img : Image) (pos len : Nat) :
    (img.grown pos len).header = img.header.moved pos len := rfl

/-- An image with `len` zero bytes inserted at `pos` and everything moved that is placed there. -/
def withRoom (img : Image) (pos len : Nat) : Image :=
  ((img.grown pos len).withSections (img.sections.map (Section.moved pos len))).withSegments
    (img.segments.map (Segment.moved pos len))

variable {img : Image} {pos len : Nat}

section Grown

variable (fits : img.header.FitsIn img.size)

include fits

private theorem headerSize_le_inserted :
    headerSize ≤ size { img with bytes := insert img.bytes pos (zeros len) } := by
  show headerSize ≤ (insert img.bytes pos (zeros len)).size
  rw [size_insert]
  exact Nat.le_trans fits.headerSize_le_size (Nat.le_add_right _ _)

theorem size_grown : (img.grown pos len).size = img.size + len := by
  rw [grown, size_writeHeader (headerSize_le_inserted fits)]
  show (insert img.bytes pos (zeros len)).size = _
  rw [size_insert, size_zeros]
  rfl

theorem slice_grown_ident (hle : pos ≤ img.size) (hpos : headerSize ≤ pos) :
    Bytes.slice (img.grown pos len).bytes 0 16 = Bytes.slice img.bytes 0 16 := by
  change 64 ≤ pos at hpos
  rw [grown, slice_writeHeader_ident (headerSize_le_inserted fits),
    slice_insert_of_le hle (by omega)]

theorem atFront_grown (hle : pos ≤ img.size) (hpos : headerSize ≤ pos) :
    Header.atFront (img.grown pos len).bytes = { Header.atFront img.bytes with
      shoff := (img.header.moved pos len).shoff, phnum := (img.header.moved pos len).phnum } := by
  rw [grown, atFront_writeHeader (headerSize_le_inserted fits),
    Header.atFront_congr (slice_insert_of_le hle (by omega))]

/-- A moved header places its tables in the image that has grown. -/
theorem fitsIn_grown (hshoff : img.header.shnum ≠ 0 → CanMove pos len img.header.shoff) :
    (img.grown pos len).header.FitsIn (img.grown pos len).size := by
  rw [size_grown fits]
  show (img.header.moved pos len).FitsIn (img.size + len)
  have hsegments := fits.segments_le
  refine ⟨?_, ?_, ?_, ?_, fun hnum ↦ ?_, fun hnum ↦ ?_, fun hnum ↦ ?_⟩
  · simpa using fits.phnum_ne_zero
  · simpa using fits.phentsize_eq
  · simpa using fits.headerSize_le
  · simp only [Header.moved_phoff, Header.moved_phnum]
    omega
  · rw [Header.moved_shnum] at hnum
    rw [Header.moved_of_eq _ hnum]
    exact fits.shoff_eq_zero hnum
  · rw [Header.moved_shnum] at hnum
    simpa using fits.shentsize_eq hnum
  · rw [Header.moved_shnum] at hnum
    have hsections := fits.sections_le hnum
    rw [Header.moved_shoff_of_ne _ hnum, Header.moved_shnum, toNat_moved (hshoff hnum), shifted]
    split_ifs <;> omega

end Grown

@[simp] theorem header_withRoom :
    (img.withRoom pos len).header = img.header.moved pos len := rfl

/-- Making room fails only in one of the checks, and then nothing has changed. Once they have
passed, neither the insertion nor any entry that is written fails. -/
theorem effect_makeRoom (fits : img.header.FitsIn img.size) :
    (makeRoom pos len).effect img =
      match img.checkRoom pos len with
      | .ok () => (.ok (), img.withRoom pos len)
      | .error e => (.error e, img) := by
  rw [makeRoom, Action.effect_bind_ok (Action.effect_get img), checkRoom]
  cases hheader : img.header.relocate pos len with
  | error e => rfl
  | ok header =>
    rw [Action.effect_bind_ok (Action.effect_ofExcept _ _)]
    refine (Action.effect_ite_emit _ _ _ _).trans ?_
    cases hsections : img.sections.mapM (Section.relocate pos len) with
    | error e => rfl
    | ok sections =>
      rw [Action.effect_bind_ok (Action.effect_ofExcept _ _)]
      cases hsegments : img.segments.mapM (Segment.relocate pos len) with
      | error e => rfl
      | ok segments =>
        rw [Action.effect_bind_ok (Action.effect_ofExcept _ _)]
        obtain ⟨hshoff, rfl⟩ := Header.relocate_eq_ok_iff.mp hheader
        obtain ⟨-, rfl⟩ := (mapM_eq_ok_iff fun _ _ ↦ Section.relocate_eq_ok_iff).mp hsections
        obtain ⟨-, rfl⟩ := (mapM_eq_ok_iff fun _ _ ↦ Segment.relocate_eq_ok_iff).mp hsegments
        cases hinsert : img.insertAt pos (zeros len) with
        | error e =>
          rw [Action.effect_bind_error (Action.effect_update_error hinsert)]
          rfl
        | ok inserted =>
          obtain ⟨hle, rfl⟩ := insertAt_eq_ok_iff.mp hinsert
          have hgrown := fitsIn_grown fits hshoff
          have hsecs : (img.sections.map (Section.moved pos len)).length =
              (img.grown pos len).header.shnum.toNat := by simp
          have hsectioned := fitsIn_withSections hgrown hsecs
          rw [Action.effect_bind_ok (Action.effect_update_ok hinsert),
            Action.effect_bind_ok (Action.effect_update_total _ _)]
          show Action.effect _ (img.grown pos len) = _
          rw [Action.effect_bind_ok (effect_writeSections hgrown hsecs),
            effect_writeSegments hsectioned (by simp)]
          rfl

theorem effect_makeRoom_eq_ok_iff (fits : img.header.FitsIn img.size) {out : Image} :
    (makeRoom pos len).effect img = (.ok (), out) ↔
      (img.Movable pos len ∧ pos ≤ img.size) ∧ out = img.withRoom pos len := by
  rw [effect_makeRoom fits, ← checkRoom_eq_ok_iff]
  cases img.checkRoom pos len <;> simp [eq_comm]

/-! ### The image with room -/

section WithRoom

variable (fits : img.header.FitsIn img.size) (movable : img.Movable pos len)

include fits movable

private theorem fitsIn_moved_sections :
    ((img.grown pos len).withSections (img.sections.map (Section.moved pos len))).header.FitsIn
      ((img.grown pos len).withSections (img.sections.map (Section.moved pos len))).size :=
  fitsIn_withSections (fitsIn_grown fits movable.shoff) (by simp)

theorem size_withRoom : (img.withRoom pos len).size = img.size + len := by
  rw [withRoom, size_withSegments (fitsIn_moved_sections fits movable) (by simp),
    size_withSections (fitsIn_grown fits movable.shoff) (by simp), size_grown fits]

theorem fitsIn_withRoom : (img.withRoom pos len).header.FitsIn (img.withRoom pos len).size :=
  fitsIn_withSegments (fitsIn_moved_sections fits movable) (by simp)

theorem segments_withRoom :
    (img.withRoom pos len).segments = img.segments.map (Segment.moved pos len) :=
  segments_withSegments (fitsIn_moved_sections fits movable) (by simp)

/-- Behind the front and outside the two tables, the bytes are those of the insertion. -/
theorem get?_withRoom {i : Nat} (hfront : headerSize ≤ i)
    (hsegments : i < img.header.phoff.toNat ∨
      img.header.phoff.toNat + img.header.phnum.toNat * segmentSize ≤ i)
    (hsections : img.header.shnum ≠ 0 → i < shifted pos len img.header.shoff.toNat ∨
      shifted pos len img.header.shoff.toNat + img.header.shnum.toNat * sectionSize ≤ i) :
    get? (img.withRoom pos len).bytes i = get? (insert img.bytes pos (zeros len)) i := by
  rw [withRoom, get?_withSegments (fitsIn_moved_sections fits movable) (by simp) (by simpa),
    get?_withSections (fitsIn_grown fits movable.shoff) (by simp) fun hnum ↦ ?_, grown,
    get?_writeHeader (headerSize_le_inserted fits) hfront]
  simp only [header_grown, Header.moved_shnum] at hnum ⊢
  rw [Header.moved_shoff_of_ne _ hnum, toNat_moved (movable.shoff hnum)]
  exact hsections hnum

variable (hpos : img.header.phoff.toNat + img.header.phnum.toNat * segmentSize ≤ pos)
  (hle : pos ≤ img.size)

include hpos hle

/-- Behind the front and outside the two tables, each byte stands where the insertion moves it. -/
theorem get?_withRoom_shifted {i : Nat} (hfront : headerSize ≤ i)
    (hsegments : i < img.header.phoff.toNat ∨
      img.header.phoff.toNat + img.header.phnum.toNat * segmentSize ≤ i)
    (hsections : img.header.shnum ≠ 0 → i < img.header.shoff.toNat ∨
      img.header.shoff.toNat + img.header.shnum.toNat * sectionSize ≤ i) :
    get? (img.withRoom pos len).bytes (shifted pos len i) = get? img.bytes i := by
  have hinsert : get? (insert img.bytes pos (zeros len)) (shifted pos len i) =
      get? img.bytes i := by
    have hmove := @get?_insert_shifted img.bytes (zeros len) pos i hle
    rwa [size_zeros] at hmove
  rw [← hinsert]
  refine get?_withRoom fits movable ?_ ?_ fun hnum ↦ ?_
  · unfold shifted
    split_ifs <;> omega
  · unfold shifted
    split_ifs <;> omega
  · have := hsections hnum
    unfold shifted
    split_ifs <;> omega

end WithRoom

section Apart

variable (fits : img.header.FitsIn img.size) (movable : img.Movable pos len)
  (hpos : img.header.phoff.toNat + img.header.phnum.toNat * segmentSize ≤ pos)
  (hsize : img.size < lastOffset) (apart : img.header.Apart)

include fits movable hpos hsize apart

/-- A section table that is apart from the segment table stays so: the segment table keeps its
place, and a section table behind it moves away from it if at all. -/
private theorem apart_moved (hnum : img.header.shnum ≠ 0) :
    headerSize ≤ (img.header.moved pos len).shoff.toNat ∧
      ((img.header.moved pos len).shoff.toNat + img.header.shnum.toNat * sectionSize ≤
        img.header.phoff.toNat ∨ img.header.phoff.toNat + img.header.phnum.toNat * segmentSize ≤
          (img.header.moved pos len).shoff.toNat) := by
  have hapart := (fits.apart_iff hsize).mp apart hnum
  rw [Header.moved_shoff_of_ne _ hnum, toNat_moved (movable.shoff hnum), shifted]
  split_ifs <;> omega

theorem apart_withRoom (hsize' : (img.withRoom pos len).size < lastOffset) :
    (img.withRoom pos len).header.Apart := by
  refine ((fitsIn_withRoom fits movable).apart_iff hsize').mpr fun hnum ↦ ?_
  simp only [header_withRoom, Header.moved_shnum, Header.moved_phoff, Header.moved_phnum] at hnum ⊢
  exact apart_moved fits movable hpos hsize apart hnum

theorem sections_withRoom :
    (img.withRoom pos len).sections = img.sections.map (Section.moved pos len) := by
  refine (sections_withSegments (fitsIn_moved_sections fits movable) (by simp) ?_).trans
    (sections_withSections (fitsIn_grown fits movable.shoff) (by simp))
  intro hnum
  simp only [header_withSections, header_grown, Header.moved_shnum, Header.moved_phoff,
    Header.moved_phnum] at hnum ⊢
  exact (apart_moved fits movable hpos hsize apart hnum).2

/-- Nothing but the two fields of the header changes in front of the tables. -/
private theorem slice_withRoom {p n : Nat} (hfront : p + n ≤ headerSize) :
    Bytes.slice (img.withRoom pos len).bytes p n = Bytes.slice (img.grown pos len).bytes p n := by
  have hphoff := fits.headerSize_le
  rw [withRoom, slice_withSegments (fitsIn_moved_sections fits movable) (by simp) (Or.inl ?_),
    slice_withSections (fitsIn_grown fits movable.shoff) (by simp) fun hnum ↦ Or.inl ?_]
  · simp only [header_grown, Header.moved_shnum] at hnum ⊢
    have := apart_moved fits movable hpos hsize apart hnum
    omega
  · simp only [header_withSections, header_grown, Header.moved_phoff]
    omega

section Front

variable (hle : pos ≤ img.size)

include hle

theorem slice_withRoom_ident :
    Bytes.slice (img.withRoom pos len).bytes 0 16 = Bytes.slice img.bytes 0 16 := by
  have hphoff := fits.headerSize_le
  rw [slice_withRoom fits movable hpos hsize apart (by decide),
    slice_grown_ident fits hle (by omega)]

/-- The header of the image with room is the one at its front, if that holds of the image before. -/
theorem atFront_withRoom (hheader : img.header = Header.atFront img.bytes) :
    Header.atFront (img.withRoom pos len).bytes = img.header.moved pos len := by
  have hphoff := fits.headerSize_le
  rw [Header.atFront_congr (slice_withRoom fits movable hpos hsize apart (by decide)),
    atFront_grown fits hle (by omega), ← hheader]
  exact Header.moved_eq _

/-- The image with room is what loading its bytes gives, if that holds of the image before. -/
theorem load_withRoom (loaded : load img.bytes = .ok img)
    (hsize' : (img.withRoom pos len).size < lastOffset) :
    load (img.withRoom pos len).bytes = .ok (img.withRoom pos len) := by
  obtain ⟨-, -, hheader, -⟩ := (load_eq_ok_iff hsize).mp loaded
  exact load_of_front hsize loaded hsize' (fitsIn_withRoom fits movable)
    (slice_withRoom_ident fits movable hpos hsize apart hle)
    (atFront_withRoom fits movable hpos hsize apart hle hheader)

end Front

end Apart

end BootNote.Image
