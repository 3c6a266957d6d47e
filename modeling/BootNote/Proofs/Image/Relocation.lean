import BootNote.Image.Room
import BootNote.Proofs.Bytes

/-!
Offsets that move. `relocate` fails exactly on an offset that has to move and would leave the 64-bit
range (`relocate_eq_ok_iff`), and a header or an entry is moved by moving its one offset. The checks
that come before room is made are `checkRoom`; they succeed exactly if every offset can move and the
position lies in the image (`checkRoom_eq_ok_iff`). In an image that is not too long, the offsets
that decide are those that its entries place (`movable_iff`), and a check that fails names one of
them (`exists_of_checkRoom_error`).
-/

set_option autoImplicit false
set_option relaxedAutoImplicit false

namespace BootNote

open Elf

/-- An offset can be held in 64 bits after `len` bytes are inserted at `pos`. -/
def CanMove (pos len : Nat) (offset : UInt64) : Prop :=
  offset.toNat < pos ∨ offset.toNat + len ≤ lastOffset

instance (pos len : Nat) (offset : UInt64) : Decidable (CanMove pos len offset) :=
  inferInstanceAs (Decidable (_ ∨ _))

/-- Where an offset stands after `len` bytes are inserted at `pos`. -/
def moved (pos len : Nat) (offset : UInt64) : UInt64 :=
  if offset.toNat < pos then offset else .ofNat (offset.toNat + len)

variable {pos len : Nat} {offset offset' : UInt64}

theorem relocate_eq_ok_iff :
    relocate pos len offset = .ok offset' ↔
      CanMove pos len offset ∧ offset' = moved pos len offset := by
  unfold relocate CanMove moved
  split_ifs with hfront hrange
  · rw [Except.ok.injEq]
    exact ⟨fun heq ↦ ⟨Or.inl hfront, heq.symm⟩, fun h ↦ h.2.symm⟩
  · rw [Except.ok.injEq]
    exact ⟨fun heq ↦ ⟨Or.inr hrange, heq.symm⟩, fun h ↦ h.2.symm⟩
  · simp only [hfront, hrange, or_self, false_and]

/-- The error names the offset that cannot move. -/
theorem relocate_eq_error_iff {e : Error} :
    relocate pos len offset = .error e ↔
      ¬ CanMove pos len offset ∧ e = .format (.offsetOverflow offset.toNat len) := by
  unfold relocate CanMove
  split_ifs with hfront hrange
  · simp [hfront]
  · simp [hrange]
  · simp [hfront, hrange, eq_comm]

/-- A value that is made from one offset is moved by moving the offset. -/
theorem relocate_bind_eq_ok_iff {α : Type} {put : UInt64 → α} {a : α} :
    (relocate pos len offset >>= fun o ↦ pure (put o)) = Except.ok a ↔
      CanMove pos len offset ∧ a = put (moved pos len offset) := by
  cases hoff : relocate pos len offset with
  | error e =>
    have hnot : ¬ CanMove pos len offset := fun hcan ↦ by
      rw [relocate_eq_ok_iff.mpr ⟨hcan, rfl⟩] at hoff
      contradiction
    simp only [bind, Except.bind, hnot, false_and, reduceCtorEq]
  | ok o =>
    obtain ⟨hcan, rfl⟩ := relocate_eq_ok_iff.mp hoff
    simp only [bind, Except.bind, pure, Except.pure, Except.ok.injEq, hcan, true_and]
    exact eq_comm

theorem relocate_bind_eq_error_iff {α : Type} {put : UInt64 → α} {e : Error} :
    (relocate pos len offset >>= fun o ↦ pure (put o)) = Except.error e ↔
      relocate pos len offset = .error e := by
  cases relocate pos len offset with
  | error e' => simp only [bind, Except.bind, Except.error.injEq]
  | ok o => simp only [bind, Except.bind, pure, Except.pure, reduceCtorEq]

theorem toNat_moved (h : CanMove pos len offset) :
    (moved pos len offset).toNat = Bytes.shifted pos len offset.toNat := by
  unfold moved Bytes.shifted
  split_ifs with hfront
  · rfl
  · exact UInt64.toNat_ofNat_of_lt' (Nat.lt_succ_of_le (h.resolve_left hfront))

theorem CanMove.mono {len' : Nat} (h : CanMove pos len offset) (hle : len' ≤ len) :
    CanMove pos len' offset :=
  h.imp id (Nat.le_trans (Nat.add_le_add_left hle _))

/-- What can move further can move again after it has moved. -/
theorem CanMove.moved {more : Nat} (h : CanMove pos (len + more) offset) :
    CanMove (pos + len) more (moved pos len offset) := by
  have hfirst : CanMove pos len offset := h.mono (Nat.le_add_right _ _)
  unfold CanMove at h ⊢
  rw [toNat_moved hfirst, Bytes.shifted]
  split_ifs <;> omega

/-- To move by two lengths is to move by one and then by the other. -/
theorem canMove_add_iff {more : Nat} : CanMove pos (len + more) offset ↔
    CanMove pos len offset ∧ CanMove pos more (moved pos len offset) := by
  refine ⟨fun h ↦ ?_, fun ⟨hfirst, h⟩ ↦ ?_⟩
  · have hfirst : CanMove pos len offset := h.mono (Nat.le_add_right _ _)
    refine ⟨hfirst, ?_⟩
    unfold CanMove at h ⊢
    rw [toNat_moved hfirst, Bytes.shifted]
    split_ifs <;> omega
  · unfold CanMove at h ⊢
    rw [toNat_moved hfirst, Bytes.shifted] at h
    split_ifs at h <;> omega

@[simp] theorem moved_zero : moved pos 0 offset = offset := by
  simp [moved]

namespace Elf

/-- A header after `len` bytes are inserted at `pos`: its section table, if there is one, moves. -/
def Header.moved (pos len : Nat) (h : Header) : Header :=
  if h.shnum = 0 then h else { h with shoff := BootNote.moved pos len h.shoff }

/-- A section after `len` bytes are inserted at `pos`. A null entry stays as it is. -/
def Section.moved (pos len : Nat) (s : Section) : Section :=
  if s.isNull then s else { s with offset := BootNote.moved pos len s.offset }

/-- A segment after `len` bytes are inserted at `pos`. -/
def Segment.moved (pos len : Nat) (s : Segment) : Segment :=
  { s with offset := BootNote.moved pos len s.offset }

section Header

variable (h : Header)

@[simp] theorem Header.moved_phoff : (h.moved pos len).phoff = h.phoff := by
  unfold Header.moved
  split_ifs <;> rfl

@[simp] theorem Header.moved_phentsize : (h.moved pos len).phentsize = h.phentsize := by
  unfold Header.moved
  split_ifs <;> rfl

@[simp] theorem Header.moved_phnum : (h.moved pos len).phnum = h.phnum := by
  unfold Header.moved
  split_ifs <;> rfl

@[simp] theorem Header.moved_shentsize : (h.moved pos len).shentsize = h.shentsize := by
  unfold Header.moved
  split_ifs <;> rfl

@[simp] theorem Header.moved_shnum : (h.moved pos len).shnum = h.shnum := by
  unfold Header.moved
  split_ifs <;> rfl

theorem Header.moved_shoff_of_ne (hnum : h.shnum ≠ 0) :
    (h.moved pos len).shoff = BootNote.moved pos len h.shoff := by
  rw [Header.moved, if_neg hnum]

theorem Header.moved_of_eq (hnum : h.shnum = 0) : h.moved pos len = h := if_pos hnum

/-- Of the fields that are written into a file, moving a header may change the one. -/
theorem Header.moved_eq : { h with
    shoff := (h.moved pos len).shoff, phnum := (h.moved pos len).phnum } = h.moved pos len := by
  unfold Header.moved
  split_ifs <;> rfl

end Header

section Section

variable (s : Section)

@[simp] theorem Section.moved_type : (s.moved pos len).type = s.type := by
  unfold Section.moved
  split_ifs <;> rfl

@[simp] theorem Section.moved_size : (s.moved pos len).size = s.size := by
  unfold Section.moved
  split_ifs <;> rfl

@[simp] theorem Section.moved_link : (s.moved pos len).link = s.link := by
  unfold Section.moved
  split_ifs <;> rfl

@[simp] theorem Section.moved_entsize : (s.moved pos len).entsize = s.entsize := by
  unfold Section.moved
  split_ifs <;> rfl

@[simp] theorem Section.isNull_moved : (s.moved pos len).isNull = s.isNull := by
  rw [Section.isNull, Section.moved_type, Section.isNull]

theorem Section.moved_offset (hnull : s.isNull = false) :
    (s.moved pos len).offset = BootNote.moved pos len s.offset := by
  rw [Section.moved, if_neg (by simp [hnull])]

end Section

@[simp] theorem Header.moved_zero (h : Header) : h.moved pos 0 = h := by
  simp [Header.moved]

@[simp] theorem Section.moved_zero : Section.moved pos 0 = id := by
  funext s
  simp [Section.moved]

@[simp] theorem Segment.moved_zero : Segment.moved pos 0 = id := by
  funext s
  simp [Segment.moved]

theorem Header.relocate_eq_ok_iff {h h' : Header} : h.relocate pos len = .ok h' ↔
    (h.shnum ≠ 0 → CanMove pos len h.shoff) ∧ h' = h.moved pos len := by
  unfold Header.relocate Header.moved
  split_ifs with hnum
  · simp only [Except.ok.injEq, hnum, ne_eq, not_true_eq_false, false_implies, true_and]
    exact eq_comm
  · simp only [hnum, ne_eq, not_false_eq_true, true_implies]
    exact relocate_bind_eq_ok_iff

theorem Section.relocate_eq_ok_iff {s s' : Section} : s.relocate pos len = .ok s' ↔
    (s.isNull = false → CanMove pos len s.offset) ∧ s' = s.moved pos len := by
  unfold Section.relocate Section.moved
  split_ifs with hnull
  · simp only [Except.ok.injEq, hnull, reduceCtorEq, false_implies, true_and]
    exact eq_comm
  · simp only [hnull, true_implies]
    exact relocate_bind_eq_ok_iff

theorem Segment.relocate_eq_ok_iff {s s' : Segment} : s.relocate pos len = .ok s' ↔
    CanMove pos len s.offset ∧ s' = s.moved pos len :=
  relocate_bind_eq_ok_iff

theorem Header.relocate_eq_error {h : Header} {e : Error} (failed : h.relocate pos len = .error e) :
    h.shnum ≠ 0 ∧ BootNote.relocate pos len h.shoff = .error e := by
  unfold Header.relocate at failed
  split_ifs at failed with hnum
  exact ⟨hnum, relocate_bind_eq_error_iff.mp failed⟩

theorem Section.relocate_eq_error {s : Section} {e : Error}
    (failed : s.relocate pos len = .error e) :
    s.isNull = false ∧ BootNote.relocate pos len s.offset = .error e := by
  unfold Section.relocate at failed
  split_ifs at failed with hnull
  exact ⟨by simpa using hnull, relocate_bind_eq_error_iff.mp failed⟩

/-- Where moving the entries of a table fails, it fails on one of them. -/
theorem exists_of_mapM_error {α : Type} {move : α → Except Error α} {entries : List α} {e : Error}
    (failed : entries.mapM move = .error e) : ∃ a ∈ entries, move a = .error e := by
  induction entries with
  | nil => simp [pure, Except.pure] at failed
  | cons a rest ih =>
    simp only [List.mapM_cons, bind, Except.bind, pure, Except.pure] at failed
    cases hfirst : move a with
    | error e' =>
      simp only [hfirst, Except.error.injEq] at failed
      exact ⟨a, List.mem_cons_self, failed ▸ hfirst⟩
    | ok a' =>
      cases hrest : rest.mapM move with
      | error e' =>
        simp only [hfirst, hrest] at failed
        obtain ⟨b, hb, hmove⟩ := ih (hrest.trans failed)
        exact ⟨b, List.mem_cons_of_mem a hb, hmove⟩
      | ok rest' => simp [hfirst, hrest] at failed

/-- The entries of a table can be moved together if each of them can. -/
theorem mapM_eq_ok_iff {α : Type} {move : α → Except Error α} {can : α → Prop} {after : α → α}
    (h : ∀ a a', move a = .ok a' ↔ can a ∧ a' = after a) {entries entries' : List α} :
    entries.mapM move = .ok entries' ↔
      (∀ a ∈ entries, can a) ∧ entries' = entries.map after := by
  induction entries generalizing entries' with
  | nil => simp [pure, Except.pure, eq_comm]
  | cons a rest ih =>
    simp only [List.mapM_cons, bind, Except.bind, pure, Except.pure, List.forall_mem_cons,
      List.map_cons]
    cases hfirst : move a with
    | error e =>
      have hnot : ¬ can a := fun hcan ↦ by
        rw [(h a _).mpr ⟨hcan, rfl⟩] at hfirst
        contradiction
      simp only [hnot, false_and, reduceCtorEq]
    | ok a' =>
      obtain ⟨hcan, rfl⟩ := (h a a').mp hfirst
      cases hrest : rest.mapM move with
      | error e =>
        have hnot : ¬ ∀ b ∈ rest, can b := fun hall ↦ by
          rw [ih.mpr ⟨hall, rfl⟩] at hrest
          contradiction
        simp only [hnot, and_false, false_and, reduceCtorEq]
      | ok rest' =>
        obtain ⟨hall, rfl⟩ := ih.mp hrest
        simp only [Except.ok.injEq, hcan, true_and]
        exact ⟨fun heq ↦ ⟨hall, heq.symm⟩, fun hboth ↦ hboth.2.symm⟩

end Elf

namespace Image

/-- Everything that the header and the tables place at or behind `pos` can move. -/
structure Movable (img : Image) (pos len : Nat) : Prop where
  shoff : img.header.shnum ≠ 0 → CanMove pos len img.header.shoff
  sections : ∀ s ∈ img.sections, s.isNull = false → CanMove pos len s.offset
  segments : ∀ s ∈ img.segments, CanMove pos len s.offset

theorem Movable.mono {img : Image} {len' : Nat} (movable : img.Movable pos len) (hle : len' ≤ len) :
    img.Movable pos len' where
  shoff hnum := (movable.shoff hnum).mono hle
  sections s hs hnull := (movable.sections s hs hnull).mono hle
  segments s hs := (movable.segments s hs).mono hle

/-- A section that is not null, or a segment, has an offset. -/
inductive Places (img : Image) : UInt64 → Prop where
  | ofSection {s : Section} (hs : s ∈ img.sections) (hnull : s.isNull = false) :
    img.Places s.offset
  | ofSegment {s : Segment} (hs : s ∈ img.segments) : img.Places s.offset

/-- The section table itself can move in an image that is not too long, so it is only the entries
that decide. -/
theorem movable_iff {img : Image}
    (hshoff : img.header.shnum ≠ 0 → CanMove pos len img.header.shoff) :
    img.Movable pos len ↔ ∀ offset, img.Places offset → CanMove pos len offset := by
  constructor
  · rintro movable offset (⟨hs, hnull⟩ | hs)
    · exact movable.sections _ hs hnull
    · exact movable.segments _ hs
  · intro h
    exact ⟨hshoff, fun s hs hnull ↦ h s.offset (.ofSection hs hnull),
      fun s hs ↦ h s.offset (.ofSegment hs)⟩

/-- The checks that are made before room is made: every offset can move, and the position lies in
the image. -/
def checkRoom (img : Image) (pos len : Nat) : Except Error Unit := do
  let _ ← img.header.relocate pos len
  let _ ← img.sections.mapM (Section.relocate pos len)
  let _ ← img.segments.mapM (Segment.relocate pos len)
  let _ ← img.insertAt pos (Bytes.zeros len)

theorem checkRoom_eq_ok_iff {img : Image} :
    img.checkRoom pos len = .ok () ↔ img.Movable pos len ∧ pos ≤ img.size := by
  unfold checkRoom
  constructor
  · intro h
    cases hheader : img.header.relocate pos len with
    | error e => simp [hheader, bind, Except.bind] at h
    | ok header =>
      cases hsections : img.sections.mapM (Section.relocate pos len) with
      | error e => simp [hheader, hsections, bind, Except.bind] at h
      | ok sections =>
        cases hsegments : img.segments.mapM (Segment.relocate pos len) with
        | error e => simp [hheader, hsections, hsegments, bind, Except.bind] at h
        | ok segments =>
          by_cases hle : pos ≤ img.size
          · exact ⟨⟨(Header.relocate_eq_ok_iff.mp hheader).1,
              ((mapM_eq_ok_iff fun _ _ ↦ Section.relocate_eq_ok_iff).mp hsections).1,
              ((mapM_eq_ok_iff fun _ _ ↦ Segment.relocate_eq_ok_iff).mp hsegments).1⟩, hle⟩
          · simp [hheader, hsections, hsegments, insertAt, hle, bind, Except.bind] at h
  · rintro ⟨movable, hle⟩
    rw [Header.relocate_eq_ok_iff.mpr ⟨movable.shoff, rfl⟩,
      (mapM_eq_ok_iff fun _ _ ↦ Section.relocate_eq_ok_iff).mpr ⟨movable.sections, rfl⟩,
      (mapM_eq_ok_iff fun _ _ ↦ Segment.relocate_eq_ok_iff).mpr ⟨movable.segments, rfl⟩,
      insertAt, if_pos hle]
    rfl

/-- A check that fails at a position in the image names an offset of the header or of an entry that
cannot move. -/
theorem exists_of_checkRoom_error {img : Image} {e : Error} (hle : pos ≤ img.size)
    (failed : img.checkRoom pos len = .error e) :
    ∃ offset, (img.header.shnum ≠ 0 ∧ offset = img.header.shoff ∨ img.Places offset) ∧
      ¬ CanMove pos len offset ∧ e = .format (.offsetOverflow offset.toNat len) := by
  unfold checkRoom at failed
  cases hheader : img.header.relocate pos len with
  | error e' =>
    obtain rfl : e' = e := by simpa [hheader, bind, Except.bind] using failed
    obtain ⟨hnum, hmove⟩ := Header.relocate_eq_error hheader
    exact ⟨_, Or.inl ⟨hnum, rfl⟩, relocate_eq_error_iff.mp hmove⟩
  | ok header =>
    cases hsections : img.sections.mapM (Section.relocate pos len) with
    | error e' =>
      obtain rfl : e' = e := by simpa [hheader, hsections, bind, Except.bind] using failed
      obtain ⟨s, hs, hsection⟩ := exists_of_mapM_error hsections
      obtain ⟨hnull, hmove⟩ := Section.relocate_eq_error hsection
      exact ⟨_, Or.inr (.ofSection hs hnull), relocate_eq_error_iff.mp hmove⟩
    | ok sections =>
      cases hsegments : img.segments.mapM (Segment.relocate pos len) with
      | error e' =>
        obtain rfl : e' = e := by
          simpa [hheader, hsections, hsegments, bind, Except.bind] using failed
        obtain ⟨s, hs, hsegment⟩ := exists_of_mapM_error hsegments
        have hmove := relocate_bind_eq_error_iff.mp hsegment
        exact ⟨_, Or.inr (.ofSegment hs), relocate_eq_error_iff.mp hmove⟩
      | ok segments =>
        simp [hheader, hsections, hsegments, insertAt, hle, bind, Except.bind, pure,
          Except.pure] at failed

end Image

end BootNote
