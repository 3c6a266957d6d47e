/-!
Words as bytes, least significant byte first. One pair `encode`, `decode` serves every width:
`encode_decode` says that the bytes of a word are those it was read from. A record is laid out as
consecutive words.
-/

set_option autoImplicit false
set_option relaxedAutoImplicit false

namespace BootNote.Word

/-- The `width` low bytes of a number, least significant first. -/
def encode : Nat → Nat → List UInt8
  | 0, _ => []
  | width + 1, n => UInt8.ofNat n :: encode width (n / 256)

/-- The number whose bytes are given, least significant first. -/
def decode : List UInt8 → Nat
  | [] => 0
  | b :: bs => b.toNat + 256 * decode bs

@[simp] theorem length_encode (width n : Nat) : (encode width n).length = width := by
  induction width generalizing n with
  | zero => rfl
  | succ width ih => simp [encode, ih]

@[simp] theorem encode_decode (bs : List UInt8) : encode bs.length (decode bs) = bs := by
  induction bs with
  | nil => rfl
  | cons b bs ih =>
    have hb : b.toNat < 256 := b.toNat_lt
    have low : UInt8.ofNat (b.toNat + 256 * decode bs) = b := by
      apply UInt8.toNat_inj.mp
      have := @UInt8.toNat_ofNat' (b.toNat + 256 * decode bs)
      omega
    have high : (b.toNat + 256 * decode bs) / 256 = decode bs := by omega
    simp [encode, decode, low, high, ih]

/-! ### Fields of a record -/

/-- The byte at a position of a record. -/
def byte (bs : List UInt8) (pos : Nat) : UInt8 := UInt8.ofNat (decode ((bs.drop pos).take 1))

/-- The 16-bit field at a position of a record. -/
def half (bs : List UInt8) (pos : Nat) : UInt16 := UInt16.ofNat (decode ((bs.drop pos).take 2))

/-- The 32-bit field at a position of a record. -/
def word (bs : List UInt8) (pos : Nat) : UInt32 := UInt32.ofNat (decode ((bs.drop pos).take 4))

/-- The 64-bit field at a position of a record. -/
def long (bs : List UInt8) (pos : Nat) : UInt64 := UInt64.ofNat (decode ((bs.drop pos).take 8))

/-- A 16-bit field as bytes. -/
def ofHalf (x : UInt16) : List UInt8 := encode 2 x.toNat

/-- A 32-bit field as bytes. -/
def ofWord (x : UInt32) : List UInt8 := encode 4 x.toNat

/-- A 64-bit field as bytes. -/
def ofLong (x : UInt64) : List UInt8 := encode 8 x.toNat

@[simp] theorem length_ofHalf (x : UInt16) : (ofHalf x).length = 2 := length_encode _ _

@[simp] theorem length_ofWord (x : UInt32) : (ofWord x).length = 4 := length_encode _ _

@[simp] theorem length_ofLong (x : UInt64) : (ofLong x).length = 8 := length_encode _ _

end BootNote.Word
