import BootNote.Image.Inject
import BootNote.Proofs.Image.Note
import BootNote.Proofs.Image.Room

/-!
The image after an injection. `findRoom_eq_ok_iff` says when either strategy finds room. An
injection then makes room as the strategy does (`roomFor`) and appends the note; `effect_inject`
says that it fails only while it looks for room or in one of the checks of making room, with the
image as it was.
-/

set_option autoImplicit false
set_option relaxedAutoImplicit false

namespace BootNote

open Bytes Elf

/-- The number of bytes by which a strategy moves the content behind the segment table. -/
def Strategy.growth : Strategy → Nat
  | shifted => segmentSize
  | reusedPadding => 0

namespace Image

/-- The end of the segment table, where the entry goes. -/
def entryOffset (img : Image) : Nat :=
  img.header.phoff.toNat + img.header.phnum.toNat * segmentSize

/-- An image with room for one more entry, made as the strategy makes it. -/
def roomFor (img : Image) : Strategy → Image
  | .shifted => img.withRoom img.entryOffset segmentSize
  | .reusedPadding => img

/-- The checks that the strategy makes before it changes the image. -/
def checkFor (img : Image) : Strategy → Except Error Unit
  | .shifted => img.checkRoom img.entryOffset segmentSize
  | .reusedPadding => .ok ()

/-- A position in the file that belongs neither to the header nor to one of the tables. -/
structure IsContent (img : Image) (i : Nat) : Prop where
  lt_size : i < img.size
  headerSize_le : headerSize ≤ i
  segments : i < img.header.phoff.toNat ∨ img.entryOffset ≤ i
  sections : img.header.shnum ≠ 0 → i < img.header.shoff.toNat ∨
    img.header.shoff.toNat + img.header.shnum.toNat * sectionSize ≤ i

variable {img : Image} {note : Note} {strategy : Strategy} {available : Nat}

@[simp] theorem header_roomFor :
    (img.roomFor strategy).header = img.header.moved img.entryOffset strategy.growth := by
  cases strategy with
  | shifted => rfl
  | reusedPadding => exact (Header.moved_zero _).symm

/-- The segment table keeps its place. -/
theorem entryOffset_roomFor : (img.roomFor strategy).entryOffset = img.entryOffset := by
  simp [entryOffset]

theorem isZeroed_iff {pos len : Nat} : img.isZeroed pos len = true ↔
    pos + len ≤ img.size ∧ ∀ i < len, get? img.bytes (pos + i) = some 0 := by
  unfold isZeroed Image.slice
  split_ifs with hle
  · have hget (i : Nat) : (toList (Bytes.slice img.bytes pos len))[i]? =
        if i < len then get? img.bytes (pos + i) else none := get?_slice
    simp only [hle, true_and, List.all_eq_true, beq_iff_eq]
    constructor
    · intro hall i hi
      have hsome := hget i
      rw [if_pos hi] at hsome
      obtain ⟨b, hb⟩ : ∃ b, get? img.bytes (pos + i) = some b :=
        ⟨_, List.getElem?_eq_getElem (by rw [length_toList]; change _ < img.size; omega)⟩
      rw [hb, ← hall b (List.mem_of_getElem? (hsome.trans hb))]
    · intro hzero b hb
      obtain ⟨i, hi⟩ := List.getElem?_of_mem hb
      have hsome := hget i
      rw [hi] at hsome
      split_ifs at hsome with hlt
      rw [hzero i hlt] at hsome
      exact Option.some.inj hsome
  · simp [hle]

/-- The strategy that finds room, with the size of the gap: content moves if the gap can hold an
entry, and otherwise the entry takes the place of zeros that are no part of the section table. -/
theorem findRoom_eq_ok_iff : img.findRoom = .ok (strategy, available) ↔
    img.header.phnum.toNat + 1 < 65535 ∧
      available = img.firstContent img.header.segmentTable.stop - img.header.segmentTable.stop ∧
      ((strategy = .shifted ∧ img.header.phentsize.toNat ≤ available) ∨
        (strategy = .reusedPadding ∧ available < img.header.phentsize.toNat ∧
          (img.header.shnum ≠ 0 → img.header.sectionTable.meets img.header.segmentTable.stop
            (img.header.segmentTable.stop + img.header.phentsize.toNat) = false) ∧
          img.isZeroed img.header.segmentTable.stop img.header.phentsize.toNat = true)) := by
  simp only [findRoom]
  constructor
  · intro hfound
    split_ifs at hfound with hcount hgap hzero
    · obtain ⟨rfl, rfl⟩ := Prod.mk.inj (Except.ok.inj hfound)
      exact ⟨by omega, rfl, Or.inl ⟨rfl, hgap⟩⟩
    · obtain ⟨rfl, rfl⟩ := Prod.mk.inj (Except.ok.inj hfound)
      refine ⟨by omega, rfl, Or.inr ⟨rfl, by omega, fun hnum ↦ ?_, hzero.2⟩⟩
      simpa using hzero.1.resolve_left hnum
  · rintro ⟨hcount, rfl, ⟨rfl, hgap⟩ | ⟨rfl, hgap, hmeets, hzero⟩⟩
    · rw [if_neg (by omega), if_pos hgap]
    · rw [if_neg (by omega), if_neg (by omega), if_pos]
      refine ⟨?_, hzero⟩
      by_cases hnum : img.header.shnum = 0
      · exact Or.inl hnum
      · exact Or.inr (by simpa using hmeets hnum)

/-- Content can move if the offsets of the sections and of the segments can: the section table of an
image lies in the image. -/
theorem checkFor_shifted (fits : img.header.FitsIn img.size)
    (hsize : img.size + segmentSize ≤ lastOffset)
    (sections : ∀ s ∈ img.sections, s.isNull = false →
      CanMove img.entryOffset segmentSize s.offset)
    (segments : ∀ s ∈ img.segments, CanMove img.entryOffset segmentSize s.offset) :
    img.checkFor .shifted = .ok () := by
  refine checkRoom_eq_ok_iff.mpr ⟨⟨fun hnum ↦ Or.inr ?_, sections, segments⟩, fits.segments_le⟩
  have hstop := fits.sections_le hnum
  omega

section Inject

variable (fits : img.header.FitsIn img.size) (hsize : img.size < lastOffset)

include fits hsize

theorem segmentTable_stop : img.header.segmentTable.stop = img.entryOffset := by
  rw [fits.segmentTable_eq hsize, entryOffset]

/-- Where a strategy finds room and its checks pass, the image that it makes has room for one more
entry. -/
theorem hasRoom_roomFor (found : img.findRoom = .ok (strategy, available))
    (checked : img.checkFor strategy = .ok ()) :
    (img.roomFor strategy).header.FitsIn (img.roomFor strategy).size ∧
      (img.roomFor strategy).HasRoom := by
  rcases findRoom_eq_ok_iff.mp found with ⟨hcount, -, ⟨rfl, -⟩ | ⟨rfl, -, -, hzero⟩⟩
  · obtain ⟨movable, hle⟩ := checkRoom_eq_ok_iff.mp checked
    refine ⟨fitsIn_withRoom fits movable, ?_, ?_⟩
    · simpa [roomFor] using hcount
    · have hsize' := size_withRoom fits movable
      simp only [roomFor, header_withRoom, Header.moved_phoff, Header.moved_phnum]
      rw [hsize']
      show img.entryOffset + segmentSize ≤ _
      omega
  · refine ⟨fits, hcount, ?_⟩
    rw [segmentTable_stop fits hsize, fits.phentsize_eq] at hzero
    exact (isZeroed_iff.mp hzero).1

/-- An injection fails only while it looks for room or in a check of making room, and then nothing
has changed. Otherwise the image has room made for it and the note at its end. -/
theorem effect_inject : (inject note).effect img =
    match img.findRoom with
    | .error e => (.error e, img)
    | .ok (strategy, available) =>
      match img.checkFor strategy with
      | .error e => (.error e, img)
      | .ok () =>
        (.ok ⟨strategy, available, img.entryOffset,
          alignUp (img.roomFor strategy).size Note.alignment, img.header.phnum.toNat⟩,
          (img.roomFor strategy).withNote note) := by
  rw [inject, Action.effect_bind_ok (Action.effect_get img)]
  cases found : img.findRoom with
  | error e => rfl
  | ok room =>
    obtain ⟨strategy, available⟩ := room
    rw [Action.effect_bind_ok (Action.effect_ofExcept _ _),
      Action.effect_bind_ok (Action.effect_emit _ _), segmentTable_stop fits hsize]
    cases strategy with
    | shifted =>
      rw [if_pos rfl, fits.phentsize_eq]
      cases checked : img.checkRoom img.entryOffset segmentSize with
      | error e =>
        rw [Action.effect_bind_error (by rw [effect_makeRoom fits, checked])]
        simp only [checkFor, checked]
      | ok _ =>
        obtain ⟨fits', room⟩ := hasRoom_roomFor fits hsize found checked
        rw [Action.effect_bind_ok (by rw [effect_makeRoom fits, checked])]
        refine (Action.effect_bind_ok (effect_appendNote room fits') _).trans ?_
        simp only [checkFor, checked]
        rfl
    | reusedPadding =>
      obtain ⟨fits', room⟩ := hasRoom_roomFor fits hsize found rfl
      rw [if_neg (by decide)]
      refine (Action.effect_bind_ok (effect_appendNote room fits') _).trans ?_
      rfl

/-- The injections that succeed. -/
theorem effect_inject_eq_ok_iff {injection : Injection} {out : Image} :
    (inject note).effect img = (.ok injection, out) ↔
      img.findRoom = .ok (injection.strategy, injection.available) ∧
        img.checkFor injection.strategy = .ok () ∧ injection.segmentOffset = img.entryOffset ∧
        injection.noteOffset = alignUp (img.roomFor injection.strategy).size Note.alignment ∧
        injection.index = img.header.phnum.toNat ∧
        out = (img.roomFor injection.strategy).withNote note := by
  rw [effect_inject fits hsize]
  obtain ⟨strategy, available, segmentOffset, noteOffset, index⟩ := injection
  cases found : img.findRoom with
  | error e => simp
  | ok room =>
    obtain ⟨strategy', available'⟩ := room
    dsimp only
    cases checked : img.checkFor strategy' with
    | error e =>
      simp only [Prod.mk.injEq, reduceCtorEq, false_and, Except.ok.injEq, false_iff]
      rintro ⟨⟨rfl, rfl⟩, hchecked, -⟩
      rw [checked] at hchecked
      contradiction
    | ok _ =>
      simp only [Prod.mk.injEq, Except.ok.injEq, Injection.mk.injEq]
      constructor
      · rintro ⟨⟨rfl, rfl, rfl, rfl, rfl⟩, rfl⟩
        exact ⟨⟨rfl, rfl⟩, checked, rfl, rfl, rfl, rfl⟩
      · rintro ⟨⟨rfl, rfl⟩, -, rfl, rfl, rfl, rfl⟩
        exact ⟨⟨rfl, rfl, rfl, rfl, rfl⟩, rfl⟩

end Inject

/-! ### The image that room is made in -/

section RoomFor

variable (fits : img.header.FitsIn img.size) (hsize : img.size < lastOffset)
  (found : img.findRoom = .ok (strategy, available)) (checked : img.checkFor strategy = .ok ())

include checked

/-- Every offset is moved without leaving the 64-bit range. -/
theorem movable_of_checkFor : img.Movable img.entryOffset strategy.growth := by
  cases strategy with
  | shifted => exact (checkRoom_eq_ok_iff.mp checked).1
  | reusedPadding =>
    have hcan (offset : UInt64) : CanMove img.entryOffset 0 offset :=
      Or.inr (Nat.le_of_lt_succ offset.toNat_lt)
    exact ⟨fun _ ↦ hcan _, fun s _ _ ↦ hcan s.offset, fun s _ ↦ hcan s.offset⟩

include fits

theorem size_roomFor : (img.roomFor strategy).size = img.size + strategy.growth := by
  cases strategy with
  | shifted => exact size_withRoom fits (checkRoom_eq_ok_iff.mp checked).1
  | reusedPadding => rfl

theorem segments_roomFor : (img.roomFor strategy).segments =
    img.segments.map (Segment.moved img.entryOffset strategy.growth) := by
  cases strategy with
  | shifted => exact segments_withRoom fits (checkRoom_eq_ok_iff.mp checked).1
  | reusedPadding => simp [roomFor, Strategy.growth]

/-- Every byte of the content stands where the strategy moves it. -/
theorem get?_roomFor_shifted {i : Nat} (content : img.IsContent i) :
    get? (img.roomFor strategy).bytes (shifted img.entryOffset strategy.growth i) =
      get? img.bytes i := by
  cases strategy with
  | shifted =>
    obtain ⟨movable, hle⟩ := checkRoom_eq_ok_iff.mp checked
    exact get?_withRoom_shifted fits movable (Nat.le_refl _) hle content.headerSize_le
      content.segments content.sections
  | reusedPadding => simp [roomFor, Strategy.growth, shifted]

variable (apart : img.header.Apart)

include hsize apart

theorem sections_roomFor : (img.roomFor strategy).sections =
    img.sections.map (Section.moved img.entryOffset strategy.growth) := by
  cases strategy with
  | shifted =>
    exact sections_withRoom fits (checkRoom_eq_ok_iff.mp checked).1 (Nat.le_refl _) hsize apart
  | reusedPadding => simp [roomFor, Strategy.growth]

theorem atFront_roomFor (hheader : img.header = Header.atFront img.bytes) :
    Header.atFront (img.roomFor strategy).bytes = (img.roomFor strategy).header := by
  cases strategy with
  | shifted =>
    obtain ⟨movable, hle⟩ := checkRoom_eq_ok_iff.mp checked
    exact atFront_withRoom fits movable (Nat.le_refl _) hsize apart hle hheader
  | reusedPadding => exact hheader.symm

include found

/-- The section table lies behind the front, and it shares no byte with the segment table and its
new entry: a table behind the segment table has moved by the size of the entry, and padding is
reused only where the section table does not reach. -/
theorem sectionTable_roomFor (hnum : img.header.shnum ≠ 0) :
    headerSize ≤ (img.roomFor strategy).header.shoff.toNat ∧
      ((img.roomFor strategy).header.shoff.toNat + img.header.shnum.toNat * sectionSize ≤
        img.header.phoff.toNat ∨
        img.entryOffset + segmentSize ≤ (img.roomFor strategy).header.shoff.toNat) := by
  have movable := movable_of_checkFor checked
  obtain ⟨hfront, hside⟩ := (fits.apart_iff hsize).mp apart hnum
  rw [header_roomFor, Header.moved_shoff_of_ne _ hnum, toNat_moved (movable.shoff hnum)]
  rcases findRoom_eq_ok_iff.mp found with ⟨-, -, ⟨rfl, -⟩ | ⟨rfl, -, hmeets, -⟩⟩
  · have htable : img.entryOffset =
        img.header.phoff.toNat + img.header.phnum.toNat * segmentSize := rfl
    simp only [Strategy.growth]
    by_cases hbelow : img.header.shoff.toNat < img.entryOffset
    · rw [shifted_of_lt hbelow]
      omega
    · rw [shifted_of_le (Nat.not_lt.mp hbelow)]
      omega
  · have hshnum := Header.toNat_pos hnum
    have hclear := hmeets hnum
    rw [segmentTable_stop fits hsize, fits.sectionTable_eq hsize hnum, fits.phentsize_eq] at hclear
    simp only [Extent.meets, Bool.and_eq_false_iff, decide_eq_false_iff_not] at hclear
    simp only [Strategy.growth, shifted, Nat.add_zero, ite_self]
    simp only [entryOffset, segmentSize, sectionSize] at *
    omega

end RoomFor

end Image

end BootNote
