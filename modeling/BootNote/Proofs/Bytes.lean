import BootNote.Bytes
import Mathlib.Tactic.Common

/-!
Byte strings position by position. `get?` is the byte at a position, and each change of a byte
string says which byte stands where afterwards: `get?_overwrite`, `get?_insert`,
`get?_appendAligned`. Two byte strings that agree at every position of a stretch have the same
slice there (`slice_congr`). What a byte string holds at a position (`HoldsAt`), it holds part by
part (`holdsAt_append_iff`).
-/

set_option autoImplicit false
set_option relaxedAutoImplicit false

namespace BootNote.Bytes

/-- The length that no byte string in memory reaches, two to the power of 63: an allocation has
fewer bytes. -/
def capacity : Nat := 0x8000000000000000

/-- Where the byte at `i` stands after `len` bytes are inserted at `pos`. -/
def shifted (pos len i : Nat) : Nat := if i < pos then i else i + len

theorem shifted_of_lt {pos len i : Nat} (h : i < pos) : shifted pos len i = i := if_pos h

theorem le_shifted (pos len i : Nat) : i ≤ shifted pos len i := by
  unfold shifted
  split_ifs <;> omega

theorem shifted_le_add (pos len i : Nat) : shifted pos len i ≤ i + len := by
  unfold shifted
  split_ifs <;> omega

theorem shifted_of_le {pos len i : Nat} (h : pos ≤ i) : shifted pos len i = i + len :=
  if_neg (Nat.not_lt.mpr h)

/-- What moves twice from one position moves by both lengths. -/
theorem shifted_shifted (pos first second i : Nat) :
    shifted pos second (shifted pos first i) = shifted pos (first + second) i := by
  unfold shifted
  split_ifs <;> omega

/-- The byte at a position, if there is one. -/
def get? (b : ByteArray) (i : Nat) : Option UInt8 := (toList b)[i]?

theorem eq_of_get? {a b : ByteArray} (h : ∀ i, get? a i = get? b i) : a = b :=
  toList_inj.mp (List.ext_getElem? h)

theorem get?_eq_none {b : ByteArray} {i : Nat} (h : b.size ≤ i) : get? b i = none :=
  List.getElem?_eq_none (by simpa using h)

@[simp] theorem size_toByteArray (bs : List UInt8) : bs.toByteArray.size = bs.length := by
  rw [← length_toList, toList_toByteArray]

@[simp] theorem toByteArray_toList (b : ByteArray) : (toList b).toByteArray = b :=
  toList_inj.mp (toList_toByteArray _)

/-! ### Sizes -/

section Size

variable {b new : ByteArray} {pos len step : Nat}

theorem size_slice (h : pos + len ≤ b.size) : (slice b pos len).size = len := by
  rw [← length_toList, toList_slice]
  simp only [List.length_take, List.length_drop, length_toList]
  omega

theorem size_overwrite (h : pos + new.size ≤ b.size) : (overwrite b pos new).size = b.size := by
  rw [← length_toList, toList_overwrite]
  simp only [List.length_append, List.length_take, List.length_drop, length_toList]
  omega

theorem size_insert : (insert b pos new).size = b.size + new.size := by
  rw [← length_toList, toList_insert]
  simp only [List.length_append, List.length_take, List.length_drop, length_toList]
  omega

theorem size_appendAligned :
    (appendAligned b new step).size = b.size + (alignUp b.size step - b.size) + new.size := by
  rw [← length_toList, toList_appendAligned]
  simp only [List.length_append, List.length_replicate, length_toList]

theorem le_alignUp (n : Nat) (hstep : 0 < step) : n ≤ alignUp n step := by
  have hlt : n + step - 1 < (n + step - 1) / step * step + step := Nat.lt_div_mul_add hstep
  unfold alignUp
  omega

theorem alignUp_lt (n : Nat) (hstep : 0 < step) : alignUp n step < n + step := by
  have hle := Nat.div_mul_le_self (n + step - 1) step
  unfold alignUp
  omega

end Size

/-! ### Bytes after a change -/

section Get

variable {b new : ByteArray} {pos len step i : Nat}

theorem get?_append {a : ByteArray} :
    get? (a ++ b) i = if i < a.size then get? a i else get? b (i - a.size) := by
  rw [get?, toList_append, List.getElem?_append]
  rfl

theorem get?_slice : get? (slice b pos len) i = if i < len then get? b (pos + i) else none := by
  simp only [get?, toList_slice, List.getElem?_take, List.getElem?_drop]

/-- A byte of a slice, by its position in the whole. -/
theorem get?_slice_sub (hpos : pos ≤ i) (hi : i < pos + len) :
    get? (slice b pos len) (i - pos) = get? b i := by
  rw [get?_slice, if_pos (by omega), Nat.add_sub_cancel' hpos]

theorem get?_overwrite (h : pos + new.size ≤ b.size) :
    get? (overwrite b pos new) i =
      if pos ≤ i ∧ i < pos + new.size then get? new (i - pos) else get? b i := by
  have hfront : ((toList b).take pos).length = pos := by
    simp only [List.length_take, length_toList]
    omega
  simp only [get?, toList_overwrite, List.append_assoc, List.getElem?_append, hfront,
    length_toList, List.getElem?_take, List.getElem?_drop]
  split_ifs <;> first | omega | rfl | (congr 1; omega)

theorem get?_insert (h : pos ≤ b.size) :
    get? (insert b pos new) i =
      if i < pos then get? b i
      else if i < pos + new.size then get? new (i - pos) else get? b (i - new.size) := by
  have hfront : ((toList b).take pos).length = pos := by
    simp only [List.length_take, length_toList]
    omega
  simp only [get?, toList_insert, List.append_assoc, List.getElem?_append, hfront,
    length_toList, List.getElem?_take, List.getElem?_drop]
  split_ifs <;> first | omega | rfl | (congr 1; omega)

theorem get?_insert_shifted (h : pos ≤ b.size) :
    get? (insert b pos new) (shifted pos new.size i) = get? b i := by
  rw [get?_insert h, shifted]
  split_ifs <;> first | omega | rfl | (congr 1; omega)

/-- The bytes keep their places, zeros follow up to the multiple of `step`, and the new bytes come
last. -/
theorem get?_appendAligned (hstep : 0 < step) :
    get? (appendAligned b new step) i =
      if i < b.size then get? b i
      else if i < alignUp b.size step then some 0 else get? new (i - alignUp b.size step) := by
  have hle := le_alignUp b.size hstep
  simp only [get?, toList_appendAligned, List.append_assoc, List.getElem?_append,
    length_toList, List.length_replicate, List.getElem?_replicate]
  split_ifs <;> first | omega | rfl | (congr 1; omega)

end Get

/-! ### Slices -/

section Slice

variable {a b new : ByteArray} {p q pos len n step : Nat}

theorem slice_congr (h : ∀ i < len, get? a (p + i) = get? b (q + i)) :
    slice a p len = slice b q len := by
  refine eq_of_get? fun i ↦ ?_
  rw [get?_slice, get?_slice]
  split_ifs with hi
  · exact h i hi
  · rfl

theorem take_slice (h : n ≤ len) : (toList (slice b p len)).take n = toList (slice b p n) := by
  rw [toList_slice, toList_slice, List.take_take, Nat.min_eq_left h]

/-- A part of a record is a slice of the byte string that the record is a slice of. -/
theorem take_drop_slice (h : q + n ≤ len) :
    ((toList (slice b p len)).drop q).take n = toList (slice b (p + q) n) := by
  simp only [toList_slice, List.drop_take, List.take_take, List.drop_drop]
  rw [Nat.min_eq_left (by omega)]

theorem slice_overwrite_of_disjoint (h : pos + new.size ≤ b.size)
    (hd : p + len ≤ pos ∨ pos + new.size ≤ p) :
    slice (overwrite b pos new) p len = slice b p len := by
  refine slice_congr fun i hi ↦ ?_
  rw [get?_overwrite h, if_neg (by omega)]

theorem slice_overwrite_self (h : pos + new.size ≤ b.size) (hlen : new.size = len) :
    slice (overwrite b pos new) pos len = new := by
  refine eq_of_get? fun i ↦ ?_
  subst hlen
  rw [get?_slice, get?_overwrite h]
  split_ifs with hi hrange
  · rw [Nat.add_sub_cancel_left]
  · omega
  · exact (get?_eq_none (by omega)).symm

theorem slice_insert_of_le (h : pos ≤ b.size) (hp : p + len ≤ pos) :
    slice (insert b pos new) p len = slice b p len := by
  refine slice_congr fun i hi ↦ ?_
  rw [get?_insert h, if_pos (by omega)]

theorem slice_appendAligned_of_le (hp : p + len ≤ b.size) :
    slice (appendAligned b new step) p len = slice b p len := by
  refine slice_congr fun i hi ↦ ?_
  rw [appendAligned, ByteArray.append_assoc, get?_append, if_pos (by omega)]

/-- Behind other bytes, a byte string has the slices that it has alone. -/
theorem slice_append_right : slice (a ++ b) (a.size + p) len = slice b p len := by
  refine slice_congr fun i _ ↦ ?_
  rw [get?_append, if_neg (by omega), Nat.add_assoc, Nat.add_sub_cancel_left]

/-- Bytes written directly behind others are written with them. -/
theorem overwrite_overwrite (next : ByteArray) (h : pos + new.size + next.size ≤ b.size) :
    overwrite (overwrite b pos new) (pos + new.size) next = overwrite b pos (new ++ next) := by
  have hb : (overwrite b pos new).size = b.size := size_overwrite (by omega)
  refine eq_of_get? fun i ↦ ?_
  rw [get?_overwrite (by omega), get?_overwrite (by omega),
    get?_overwrite (by rw [ByteArray.size_append]; omega), ByteArray.size_append, get?_append]
  by_cases hnew : i < pos + new.size
  · rw [if_neg (by omega)]
    split_ifs <;> first | omega | rfl
  · rw [if_neg (by omega : ¬ (pos ≤ i ∧ i < pos + new.size)),
      if_neg (by omega : ¬ i - pos < new.size), Nat.sub_sub]
    split_ifs <;> first | omega | rfl

theorem overwrite_empty : overwrite b pos ByteArray.empty = b := by
  apply toList_inj.mp
  rw [toList_overwrite]
  simp [toList]

end Slice

/-! ### Parts -/

/-- The bytes of `part` stand in a byte string from a position on. -/
def HoldsAt (b : ByteArray) (pos : Nat) (part : List UInt8) : Prop :=
  part <+: (toList b).drop pos

section HoldsAt

variable {b : ByteArray} {pos q n i : Nat} {part front back : List UInt8}

/-- A byte string that is put together from parts holds each part behind the ones before it. -/
theorem holdsAt_of_toList_eq (hb : toList b = front ++ part ++ back) :
    HoldsAt b front.length part :=
  ⟨back, by rw [hb, List.append_assoc, List.drop_left]⟩

theorem holdsAt_toByteArray : HoldsAt part.toByteArray 0 part := by
  rw [HoldsAt, toList_toByteArray]
  exact List.prefix_refl _

theorem holdsAt_append_iff {next : List UInt8} :
    HoldsAt b pos (part ++ next) ↔ HoldsAt b pos part ∧ HoldsAt b (pos + part.length) next := by
  unfold HoldsAt
  rw [← List.drop_drop]
  constructor
  · rintro ⟨rest, hrest⟩
    rw [← hrest, List.append_assoc, List.drop_left]
    exact ⟨List.prefix_append _ _, List.prefix_append _ _⟩
  · rintro ⟨⟨rest, hrest⟩, hnext⟩
    rw [← hrest, List.drop_left] at hnext
    rw [← hrest]
    exact (List.prefix_append_right_inj part).mpr hnext

theorem HoldsAt.toList_slice (h : HoldsAt b pos part) (hle : q + n ≤ part.length) :
    toList (slice b (pos + q) n) = (part.drop q).take n := by
  obtain ⟨rest, hrest⟩ := h
  rw [Bytes.toList_slice, ← List.drop_drop, ← hrest, List.drop_append_of_le_length (by omega),
    List.take_append_of_le_length (by rw [List.length_drop]; omega)]

/-- A slice holds what the whole holds at the same place, as far as it reaches. -/
theorem holdsAt_slice_iff {len : Nat} (hq : q ≤ len) :
    HoldsAt (slice b pos len) q part ↔ HoldsAt b (pos + q) part ∧ q + part.length ≤ len := by
  unfold HoldsAt
  rw [Bytes.toList_slice, List.drop_take, List.drop_drop, List.prefix_take_iff,
    Nat.le_sub_iff_add_le' hq]

/-- What is held at a position is the slice there. -/
theorem HoldsAt.slice_eq (h : HoldsAt b pos part) :
    slice b pos part.length = part.toByteArray := by
  have hwhole := h.toList_slice (Nat.le_of_eq (Nat.zero_add part.length))
  rw [List.drop_zero, List.take_length] at hwhole
  rw [← toList_inj, toList_toByteArray]
  exact hwhole

theorem HoldsAt.get?_eq (h : HoldsAt b pos part) (hi : i < part.length) :
    get? b (pos + i) = part[i]? := by
  obtain ⟨rest, hrest⟩ := h
  rw [get?, ← List.getElem?_drop, ← hrest, List.getElem?_append_left hi]

theorem HoldsAt.add_length_le (h : HoldsAt b pos part) (hpart : part ≠ []) :
    pos + part.length ≤ b.size := by
  have hlen := h.length_le
  have hpos := List.length_pos_iff.mpr hpart
  rw [List.length_drop, length_toList] at hlen
  omega

theorem HoldsAt.getElem_eq {c : UInt8} (h : HoldsAt b pos (c :: part)) :
    ∃ hlt : pos < b.size, b[pos] = c := by
  have hend := h.add_length_le (List.cons_ne_nil c part)
  rw [List.length_cons] at hend
  have hget := h.get?_eq (i := 0) (by simp)
  exact ⟨by omega, (List.getElem?_eq_some_iff.mp hget).2⟩

theorem holdsAt_cons_iff {c : UInt8} :
    HoldsAt b pos (c :: part) ↔ (∃ hlt : pos < b.size, b[pos] = c) ∧ HoldsAt b (pos + 1) part := by
  constructor
  · intro holds
    have hparts : HoldsAt b pos ([c] ++ part) := holds
    exact ⟨holds.getElem_eq, (holdsAt_append_iff.mp hparts).2⟩
  · rintro ⟨⟨hlt, rfl⟩, rest, hrest⟩
    refine ⟨rest, ?_⟩
    rw [List.cons_append, hrest, List.drop_eq_getElem_cons (i := pos) (by rwa [length_toList])]
    rfl

end HoldsAt

end BootNote.Bytes
