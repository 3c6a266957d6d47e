import BootNote.Word

/-!
Symbols: the records of a symbol table. A record has 24 bytes, which `decode` and `encode` turn into
its fields and back.
-/

set_option autoImplicit false
set_option relaxedAutoImplicit false

namespace BootNote.Elf

/-- The size of a symbol record in bytes. -/
def symbolSize : Nat := 24

/-- A record of a symbol table. -/
structure Symbol where
  /-- Where the name starts in the string table; 0 stands for no name. -/
  name : UInt32
  info : UInt8
  other : UInt8
  /-- The index of the section that the symbol belongs to. -/
  shndx : UInt16
  value : UInt64
  size : UInt64
  deriving DecidableEq, Repr

namespace Symbol

/-- The record that every symbol table starts with. -/
def undefined : Symbol := ⟨0, 0, 0, 0, 0, 0⟩

/-- The kind of a function that other files can see. -/
def globalFunction : UInt8 := 0x12

/-- Reads the fields of a record. -/
def decode (bs : List UInt8) : Symbol where
  name := Word.word bs 0
  info := Word.byte bs 4
  other := Word.byte bs 5
  shndx := Word.half bs 6
  value := Word.long bs 8
  size := Word.long bs 16

/-- Writes the fields of a record. -/
def encode (s : Symbol) : List UInt8 :=
  Word.ofWord s.name ++ [s.info, s.other] ++ Word.ofHalf s.shndx ++ Word.ofLong s.value ++
    Word.ofLong s.size

@[simp] theorem length_encode (s : Symbol) : s.encode.length = 24 := by simp [encode]

end Symbol

end BootNote.Elf
