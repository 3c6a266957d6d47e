/-!
Byte strings. `toList` is the view in which they are reasoned about, and each operation says what
it does to that view: `toList_slice`, `toList_overwrite`, `toList_insert`, `toList_appendAligned`.
-/

set_option autoImplicit false
set_option relaxedAutoImplicit false

namespace BootNote.Bytes

/-- Byte strings are equal if their bytes are. -/
instance decidableEq : DecidableEq ByteArray := ByteArray.instDecidableEq

/-- The bytes of a byte string, in order. -/
def toList (b : ByteArray) : List UInt8 := b.data.toList

@[simp] theorem length_toList (b : ByteArray) : (toList b).length = b.size := rfl

@[simp] theorem toList_append (a b : ByteArray) : toList (a ++ b) = toList a ++ toList b := by
  simp [toList]

@[simp] theorem toList_toByteArray (bs : List UInt8) : toList bs.toByteArray = bs := by
  simp [toList]

theorem toList_inj {a b : ByteArray} : toList a = toList b ↔ a = b :=
  ⟨fun h ↦ ByteArray.ext (Array.toList_inj.mp h), fun h ↦ h ▸ rfl⟩

/-- The least multiple of `step` that is not below `n`. -/
def alignUp (n step : Nat) : Nat := (n + step - 1) / step * step

/-- `n` zero bytes. -/
def zeros (n : Nat) : ByteArray := ⟨Array.replicate n 0⟩

@[simp] theorem toList_zeros (n : Nat) : toList (zeros n) = List.replicate n 0 := by
  simp [toList, zeros]

@[simp] theorem size_zeros (n : Nat) : (zeros n).size = n := by
  simp [← ByteArray.size_data, zeros]

/-- The `len` bytes from `pos` on, or as many of them as there are. -/
def slice (b : ByteArray) (pos len : Nat) : ByteArray := b.extract pos (pos + len)

@[simp] theorem toList_slice (b : ByteArray) (pos len : Nat) :
    toList (slice b pos len) = ((toList b).drop pos).take len := by
  simp [toList, slice, List.extract_eq_take_drop]

/-- A byte string with the bytes from `pos` on replaced by others. -/
def overwrite (b : ByteArray) (pos : Nat) (new : ByteArray) : ByteArray :=
  new.copySlice 0 b pos new.size

theorem toList_overwrite (b new : ByteArray) (pos : Nat) :
    toList (overwrite b pos new) =
      (toList b).take pos ++ toList new ++ (toList b).drop (pos + new.size) := by
  have whole : List.take new.size new.data.toList = new.data.toList :=
    List.take_of_length_le (Nat.le_refl _)
  have rest : List.take (b.size - (pos + new.size)) (List.drop (pos + new.size) b.data.toList) =
      List.drop (pos + new.size) b.data.toList :=
    List.take_of_length_le (by simp)
  simp [toList, overwrite, ByteArray.copySlice, List.extract_eq_take_drop, whole, rest]

/-- A byte string with others inserted in front of position `pos`. -/
def insert (b : ByteArray) (pos : Nat) (new : ByteArray) : ByteArray :=
  b.extract 0 pos ++ new ++ b.extract pos b.size

theorem toList_insert (b new : ByteArray) (pos : Nat) :
    toList (insert b pos new) = (toList b).take pos ++ toList new ++ (toList b).drop pos := by
  have rest : List.take (b.size - pos) (List.drop pos b.data.toList) =
      List.drop pos b.data.toList :=
    List.take_of_length_le (by simp)
  simp [toList, insert, List.extract_eq_take_drop, rest]

/-- A byte string with zeros up to the next multiple of `step` and then others at its end. -/
def appendAligned (b new : ByteArray) (step : Nat) : ByteArray :=
  b ++ zeros (alignUp b.size step - b.size) ++ new

theorem toList_appendAligned (b new : ByteArray) (step : Nat) :
    toList (appendAligned b new step) =
      toList b ++ List.replicate (alignUp b.size step - b.size) 0 ++ toList new := by
  simp [appendAligned]

/-- The `count` records of `size` bytes each that lie one behind the other from `start` on. -/
def records (b : ByteArray) (start size count : Nat) : List (List UInt8) :=
  (List.range count).map fun i ↦ toList (slice b (start + i * size) size)

@[simp] theorem length_records (b : ByteArray) (start size count : Nat) :
    (records b start size count).length = count := by
  simp [records]

end BootNote.Bytes
