import BootNote.Word
import Mathlib.Algebra.Group.Nat.Defs

/-!
Fields of a record read back. A field that was written as bytes reads as its value, and a field that
was read writes as the bytes that stood there.
-/

set_option autoImplicit false
set_option relaxedAutoImplicit false

namespace BootNote.Word

theorem decode_lt (bs : List UInt8) : decode bs < 256 ^ bs.length := by
  induction bs with
  | nil => simp [decode]
  | cons b bs ih =>
    have hb : b.toNat < 256 := b.toNat_lt
    simp only [decode, List.length_cons, Nat.pow_succ]
    omega

@[simp] theorem decode_encode (width n : Nat) : decode (encode width n) = n % 256 ^ width := by
  induction width generalizing n with
  | zero => simp [encode, decode, Nat.mod_one]
  | succ width ih =>
    have low : (UInt8.ofNat n).toNat = n % 256 := UInt8.toNat_ofNat'
    rw [encode, decode, ih, low, Nat.pow_succ, Nat.mul_comm (256 ^ width), Nat.mod_mul]

@[simp] theorem ofNat_decode_singleton (b : UInt8) : UInt8.ofNat (decode [b]) = b := by
  rw [decode, decode, Nat.mul_zero, Nat.add_zero, UInt8.ofNat_toNat]

@[simp] theorem ofNat_decode_ofHalf (x : UInt16) : UInt16.ofNat (decode (ofHalf x)) = x := by
  have hlt : x.toNat < 256 ^ 2 := x.toNat_lt
  rw [ofHalf, decode_encode, Nat.mod_eq_of_lt hlt, UInt16.ofNat_toNat]

@[simp] theorem ofNat_decode_ofWord (x : UInt32) : UInt32.ofNat (decode (ofWord x)) = x := by
  have hlt : x.toNat < 256 ^ 4 := x.toNat_lt
  rw [ofWord, decode_encode, Nat.mod_eq_of_lt hlt, UInt32.ofNat_toNat]

@[simp] theorem ofNat_decode_ofLong (x : UInt64) : UInt64.ofNat (decode (ofLong x)) = x := by
  have hlt : x.toNat < 256 ^ 8 := x.toNat_lt
  rw [ofLong, decode_encode, Nat.mod_eq_of_lt hlt, UInt64.ofNat_toNat]

variable {bs : List UInt8} {pos : Nat}

theorem toNat_half : (half bs pos).toNat = decode ((bs.drop pos).take 2) :=
  UInt16.toNat_ofNat_of_lt' (Nat.lt_of_lt_of_le (decode_lt _)
    (Nat.pow_le_pow_right (by decide) (List.length_take_le _ _)))

theorem toNat_word : (word bs pos).toNat = decode ((bs.drop pos).take 4) :=
  UInt32.toNat_ofNat_of_lt' (Nat.lt_of_lt_of_le (decode_lt _)
    (Nat.pow_le_pow_right (by decide) (List.length_take_le _ _)))

theorem toNat_long : (long bs pos).toNat = decode ((bs.drop pos).take 8) :=
  UInt64.toNat_ofNat_of_lt' (Nat.lt_of_lt_of_le (decode_lt _)
    (Nat.pow_le_pow_right (by decide) (List.length_take_le _ _)))

/-- A part of a record is written back as it was read. -/
theorem encode_decode_part {width : Nat} (h : pos + width ≤ bs.length) :
    encode width (decode ((bs.drop pos).take width)) = (bs.drop pos).take width := by
  have hlen : ((bs.drop pos).take width).length = width := by
    simp only [List.length_take, List.length_drop]
    omega
  have hpart := encode_decode ((bs.drop pos).take width)
  rwa [hlen] at hpart

theorem singleton_byte (h : pos + 1 ≤ bs.length) : [byte bs pos] = (bs.drop pos).take 1 := by
  rw [byte, List.drop_eq_getElem_cons h, List.take_succ_cons, List.take_zero,
    ofNat_decode_singleton]

theorem ofHalf_half (h : pos + 2 ≤ bs.length) : ofHalf (half bs pos) = (bs.drop pos).take 2 := by
  rw [ofHalf, toNat_half, encode_decode_part h]

theorem ofWord_word (h : pos + 4 ≤ bs.length) : ofWord (word bs pos) = (bs.drop pos).take 4 := by
  rw [ofWord, toNat_word, encode_decode_part h]

theorem ofLong_long (h : pos + 8 ≤ bs.length) : ofLong (long bs pos) = (bs.drop pos).take 8 := by
  rw [ofLong, toNat_long, encode_decode_part h]

end BootNote.Word
