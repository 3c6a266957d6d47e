import BootNote.Word

/-!
Segments: what the segment table says about the parts of a file that are loaded or read at load
time. An entry has 56 bytes, which `decode` and `encode` turn into its fields and back.
-/

set_option autoImplicit false
set_option relaxedAutoImplicit false

namespace BootNote.Elf

/-- An entry of the segment table. -/
structure Segment where
  type : UInt32
  flags : UInt32
  /-- Where the segment's bytes lie in the file. -/
  offset : UInt64
  vaddr : UInt64
  paddr : UInt64
  /-- How many bytes the segment has in the file. -/
  filesz : UInt64
  memsz : UInt64
  align : UInt64
  deriving DecidableEq, Repr

namespace Segment

/-- The type of a segment that is loaded. -/
def load : UInt32 := 1

/-- The type of a segment that holds notes. -/
def note : UInt32 := 4

/-- The flag of a segment that can be executed. -/
def executable : UInt32 := 1

/-- The flag of a segment that can be written. -/
def writable : UInt32 := 2

/-- The flag of a segment that can be read. -/
def readable : UInt32 := 4

/-- Reads the fields of an entry. -/
def decode (bs : List UInt8) : Segment where
  type := Word.word bs 0
  flags := Word.word bs 4
  offset := Word.long bs 8
  vaddr := Word.long bs 16
  paddr := Word.long bs 24
  filesz := Word.long bs 32
  memsz := Word.long bs 40
  align := Word.long bs 48

/-- Writes the fields of an entry. -/
def encode (s : Segment) : List UInt8 :=
  Word.ofWord s.type ++ Word.ofWord s.flags ++ Word.ofLong s.offset ++ Word.ofLong s.vaddr ++
    Word.ofLong s.paddr ++ Word.ofLong s.filesz ++ Word.ofLong s.memsz ++ Word.ofLong s.align

/-- The entry for `size` bytes of notes at an offset of the file. They are read from the file and
have no address in memory. -/
def ofNotes (offset size align : Nat) : Segment where
  type := note
  flags := readable
  offset := .ofNat offset
  vaddr := 0
  paddr := 0
  filesz := .ofNat size
  memsz := .ofNat size
  align := .ofNat align

@[simp] theorem length_encode (s : Segment) : s.encode.length = 56 := by simp [encode]

end Segment

end BootNote.Elf
