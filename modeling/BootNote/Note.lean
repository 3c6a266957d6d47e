import BootNote.Word

/-!
The note that tells a boot loader where to enter a kernel in 32-bit mode. It is one record of a note
segment: the lengths of its name and of its descriptor, its type, the name `PVH` and, as descriptor,
the entry address. Its form is fixed, so `decode?` accepts exactly what `encode` writes.
-/

set_option autoImplicit false
set_option relaxedAutoImplicit false

namespace BootNote

/-- A note with the physical address at which the kernel is entered. -/
structure Note where
  entry : UInt32
  deriving DecidableEq, Repr

namespace Note

/-- The type of the note: a 32-bit physical entry address. -/
def type : UInt32 := 18

/-- The name of the note, with the NUL that ends it. -/
def name : List UInt8 := [0x50, 0x56, 0x48, 0x00]

/-- The size of the note in bytes. -/
def size : Nat := 20

/-- The multiple that a note's offset in a file has to be of. -/
def alignment : Nat := 4

/-- The note for an address, of which it keeps the low 32 bits. -/
def ofAddress (address : UInt64) : Note := ⟨address.toUInt32⟩

/-- Writes a note. -/
def encode (note : Note) : List UInt8 :=
  Word.ofWord 4 ++ Word.ofWord 4 ++ Word.ofWord type ++ name ++ Word.ofWord note.entry

/-- Reads the note at the front of a byte string, if there is one. -/
def decode? (bs : List UInt8) : Option Note :=
  if size ≤ bs.length ∧ Word.word bs 0 = 4 ∧ Word.word bs 4 = 4 ∧ Word.word bs 8 = type ∧
      (bs.drop 12).take 4 = name then
    some ⟨Word.word bs 16⟩
  else none

@[simp] theorem length_encode (note : Note) : note.encode.length = size := rfl

end Note

end BootNote
