import BootNote.Elf.Extent
import BootNote.Word

/-!
Sections: what the section table says about the parts of a file. An entry has 64 bytes, which
`decode` and `encode` turn into its fields and back. An entry of type null says nothing and its
other fields mean nothing.
-/

set_option autoImplicit false
set_option relaxedAutoImplicit false

namespace BootNote.Elf

/-- An entry of the section table. -/
structure Section where
  /-- Where the name starts in the table of section names. -/
  name : UInt32
  type : UInt32
  flags : UInt64
  addr : UInt64
  /-- Where the section's bytes lie in the file. -/
  offset : UInt64
  /-- How many bytes the section has. -/
  size : UInt64
  /-- The index of a section that this one refers to. -/
  link : UInt32
  info : UInt32
  addralign : UInt64
  /-- The size of a record, where the section is a table of records. -/
  entsize : UInt64
  deriving DecidableEq, Repr

namespace Section

/-- The type of an entry that stands for no section. -/
def null : UInt32 := 0

/-- The type of a section of program bytes. -/
def progbits : UInt32 := 1

/-- The type of a symbol table. -/
def symtab : UInt32 := 2

/-- The type of a string table. -/
def strtab : UInt32 := 3

/-- The flag of a section that can be written. -/
def writable : UInt64 := 1

/-- The flag of a section that is in memory. -/
def allocated : UInt64 := 2

/-- The flag of a section that can be executed. -/
def executable : UInt64 := 4

/-- Whether an entry stands for no section. -/
def isNull (s : Section) : Bool := s.type == null

/-- The bytes of a section in the file. -/
def extent (s : Section) : Extent := .ofSize s.offset.toNat s.size.toNat

/-- Reads the fields of an entry. -/
def decode (bs : List UInt8) : Section where
  name := Word.word bs 0
  type := Word.word bs 4
  flags := Word.long bs 8
  addr := Word.long bs 16
  offset := Word.long bs 24
  size := Word.long bs 32
  link := Word.word bs 40
  info := Word.word bs 44
  addralign := Word.long bs 48
  entsize := Word.long bs 56

/-- Writes the fields of an entry. -/
def encode (s : Section) : List UInt8 :=
  Word.ofWord s.name ++ Word.ofWord s.type ++ Word.ofLong s.flags ++ Word.ofLong s.addr ++
    Word.ofLong s.offset ++ Word.ofLong s.size ++ Word.ofWord s.link ++ Word.ofWord s.info ++
    Word.ofLong s.addralign ++ Word.ofLong s.entsize

@[simp] theorem length_encode (s : Section) : s.encode.length = 64 := by simp [encode]

end Section

end BootNote.Elf
