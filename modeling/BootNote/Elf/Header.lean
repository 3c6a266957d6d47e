import BootNote.Bytes
import BootNote.Elf.Extent
import BootNote.Error
import BootNote.Word

/-!
The header at the front of an ELF file. `read` takes it from the file's bytes and refuses a file
that is not a 64-bit little-endian ELF; `check` refuses a header whose two tables do not lie in the
file. `encode` writes the 64 bytes that `decode` reads.
-/

set_option autoImplicit false
set_option relaxedAutoImplicit false

namespace BootNote.Elf

/-- The size of the header in bytes. -/
def headerSize : Nat := 64

/-- The size of an entry of the segment table in bytes. -/
def segmentSize : Nat := 56

/-- The size of an entry of the section table in bytes. -/
def sectionSize : Nat := 64

/-- The header of a 64-bit ELF file. `phoff`, `phentsize` and `phnum` place the segment table, and
`shoff`, `shentsize` and `shnum` the section table. -/
structure Header where
  /-- The 16 bytes that identify the file. -/
  ident : List UInt8
  type : UInt16
  machine : UInt16
  version : UInt32
  entry : UInt64
  phoff : UInt64
  shoff : UInt64
  flags : UInt32
  ehsize : UInt16
  phentsize : UInt16
  phnum : UInt16
  shentsize : UInt16
  shnum : UInt16
  shstrndx : UInt16
  deriving DecidableEq, Repr

namespace Header

/-- Reads the fields of a header. -/
def decode (bs : List UInt8) : Header where
  ident := bs.take 16
  type := Word.half bs 16
  machine := Word.half bs 18
  version := Word.word bs 20
  entry := Word.long bs 24
  phoff := Word.long bs 32
  shoff := Word.long bs 40
  flags := Word.word bs 48
  ehsize := Word.half bs 52
  phentsize := Word.half bs 54
  phnum := Word.half bs 56
  shentsize := Word.half bs 58
  shnum := Word.half bs 60
  shstrndx := Word.half bs 62

/-- Writes the fields of a header. -/
def encode (h : Header) : List UInt8 :=
  h.ident ++ Word.ofHalf h.type ++ Word.ofHalf h.machine ++ Word.ofWord h.version ++
    Word.ofLong h.entry ++ Word.ofLong h.phoff ++ Word.ofLong h.shoff ++ Word.ofWord h.flags ++
    Word.ofHalf h.ehsize ++ Word.ofHalf h.phentsize ++ Word.ofHalf h.phnum ++
    Word.ofHalf h.shentsize ++ Word.ofHalf h.shnum ++ Word.ofHalf h.shstrndx

/-- The bytes of the segment table. -/
def segmentTable (h : Header) : Extent :=
  .ofSize h.phoff.toNat (h.phentsize.toNat * h.phnum.toNat)

/-- The bytes of the section table. -/
def sectionTable (h : Header) : Extent :=
  .ofSize h.shoff.toNat (h.shentsize.toNat * h.shnum.toNat)

/-- The bytes that every ELF file starts with. -/
def magic : List UInt8 := [0x7f, 0x45, 0x4c, 0x46]

/-- The code of the 64-bit class. -/
def class64 : UInt8 := 2

/-- The code of the little-endian encoding. -/
def littleEndian : UInt8 := 1

/-- Refuses identification bytes that are not those of a 64-bit little-endian ELF file. -/
def checkIdent (ident : List UInt8) : Except FormatFault Unit := do
  if ident.take 4 ≠ magic then throw .badMagic
  match ident[4]? with
  | none => throw .truncatedIdent
  | some code => if code ≠ class64 then throw (.unsupportedClass code)
  match ident[5]? with
  | none => throw .truncatedIdent
  | some code => if code ≠ littleEndian then throw (.unsupportedEncoding code)

/-- Reads the header at the front of a file. -/
def read (bytes : ByteArray) : Except FormatFault Header := do
  checkIdent (Bytes.toList (Bytes.slice bytes 0 16))
  if bytes.size < headerSize then throw (.truncatedHeader bytes.size)
  return decode (Bytes.toList (Bytes.slice bytes 0 headerSize))

/-- Refuses a header whose tables do not lie in a file of `size` bytes. Every image has segments; a
file without sections places no table of them, because the count would then be kept elsewhere. -/
def check (h : Header) (size : Nat) : Except FormatFault Unit := do
  if h.phnum = 0 ∨ h.phoff.toNat < headerSize then throw .noSegmentTable
  if h.phentsize.toNat ≠ segmentSize then throw (.segmentEntrySize h.phentsize)
  if size < h.segmentTable.stop then throw (.segmentTableEnd h.segmentTable.stop size)
  if h.shnum = 0 then
    if h.shoff ≠ 0 then throw .extendedNumbering
  else
    if h.shentsize.toNat ≠ sectionSize then throw (.sectionEntrySize h.shentsize)
    if size < h.sectionTable.stop then throw (.sectionTableEnd h.sectionTable.stop size)

end Header

end BootNote.Elf
