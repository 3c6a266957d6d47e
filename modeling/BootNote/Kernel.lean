import BootNote.Bytes
import BootNote.Elf.Header
import BootNote.Elf.Section
import BootNote.Elf.Segment
import BootNote.Elf.StringTable
import BootNote.Elf.Symbol

/-!
Small kernel images. A file has the header, two segments, padding, the program bytes, the data, a
symbol table with its strings unless it is left out, the names of the sections, and the section
table. Each part has its offset as a function of the configuration, and `bytes` puts the parts at
these offsets. The padding behind the segment table is what decides how a note finds room there.
-/

set_option autoImplicit false
set_option relaxedAutoImplicit false

namespace BootNote

open Elf

/-- What goes into a kernel image. -/
structure Kernel where
  /-- The address at which the program bytes are loaded, which is also the entry. -/
  base : UInt64 := 0x100000
  /-- The number of bytes between the segment table and the program bytes. -/
  padding : Nat := 64
  /-- The byte that the padding consists of. -/
  fill : UInt8 := 0
  text : ByteArray := ⟨Array.replicate 16 0x90⟩
  data : ByteArray := ⟨Array.replicate 16 0xaa⟩
  /-- The symbols and their values, in order. -/
  symbols : List (String × UInt64) := []
  /-- Whether the symbols are written. -/
  symtab : Bool := true

namespace Kernel

/-- The multiple that the offsets of the data, the symbol table and the section table are of. -/
def alignment : Nat := 8

/-- The multiple that the distance between two loaded segments is of. -/
def pageSize : Nat := 0x1000

/-- Where the segment table ends. -/
def segmentsEnd : Nat := headerSize + 2 * segmentSize

/-! ### Offsets -/

/-- Where the program bytes lie. -/
def textOffset (k : Kernel) : Nat := segmentsEnd + k.padding

/-- Where the program bytes end. -/
def textEnd (k : Kernel) : Nat := k.textOffset + k.text.size

/-- Where the data lies. -/
def dataOffset (k : Kernel) : Nat := Bytes.alignUp k.textEnd alignment

/-- Where the data ends. -/
def dataEnd (k : Kernel) : Nat := k.dataOffset + k.data.size

/-- The address at which the data is loaded. -/
def dataAddress (k : Kernel) : UInt64 := k.base + .ofNat (Bytes.alignUp k.text.size pageSize)

/-- The names of the symbols, as bytes. -/
def symbolNames (k : Kernel) : List (List UInt8) :=
  k.symbols.map fun (name, _) ↦ Bytes.toList name.toUTF8

/-- The string table of the symbols. -/
def strings (k : Kernel) : List UInt8 := StringTable.encode k.symbolNames

/-- The symbol table: the record that every one starts with, and a function for each symbol. -/
def records (k : Kernel) : List Symbol :=
  .undefined :: (StringTable.positions k.symbolNames).zipWith (fun pos (_, value) ↦
    { name := .ofNat pos, info := Symbol.globalFunction, other := 0, shndx := 1, value, size := 0 })
    k.symbols

/-- Where the symbol table lies, if there is one. -/
def recordsOffset (k : Kernel) : Nat := Bytes.alignUp k.dataEnd alignment

/-- Where the symbol table's strings lie, if there is one. -/
def stringsOffset (k : Kernel) : Nat := k.recordsOffset + symbolSize * k.records.length

/-- Where the names of the sections lie. -/
def namesOffset (k : Kernel) : Nat :=
  if k.symtab then k.stringsOffset + k.strings.length else k.dataEnd

/-! ### Tables -/

/-- The sections behind the null one, with their names. The last one holds the names, and its size
is that of the table of all names, `namesSize`. -/
def namedSections (k : Kernel) (namesSize : Nat) : List (String × Section) :=
  [(".text",
      { name := 0, type := Section.progbits, flags := Section.allocated ||| Section.executable
        addr := k.base, offset := .ofNat k.textOffset, size := .ofNat k.text.size
        link := 0, info := 0, addralign := 16, entsize := 0 }),
    (".data",
      { name := 0, type := Section.progbits, flags := Section.allocated ||| Section.writable
        addr := k.dataAddress, offset := .ofNat k.dataOffset, size := .ofNat k.data.size
        link := 0, info := 0, addralign := .ofNat alignment, entsize := 0 })] ++
  (if k.symtab then
    [(".symtab",
      { name := 0, type := Section.symtab, flags := 0, addr := 0
        offset := .ofNat k.recordsOffset, size := .ofNat (symbolSize * k.records.length)
        link := 4, info := 1, addralign := .ofNat alignment, entsize := .ofNat symbolSize }),
    (".strtab",
      { name := 0, type := Section.strtab, flags := 0, addr := 0
        offset := .ofNat k.stringsOffset, size := .ofNat k.strings.length
        link := 0, info := 0, addralign := 1, entsize := 0 })]
  else []) ++
  [(".shstrtab",
    { name := 0, type := Section.strtab, flags := 0, addr := 0
      offset := .ofNat k.namesOffset, size := .ofNat namesSize
      link := 0, info := 0, addralign := 1, entsize := 0 })]

/-- The names of the sections behind the null one, as bytes. -/
def sectionNames (k : Kernel) : List (List UInt8) :=
  (k.namedSections 0).map fun (name, _) ↦ Bytes.toList name.toUTF8

/-- The string table of the section names. -/
def names (k : Kernel) : List UInt8 := StringTable.encode k.sectionNames

/-- The section table. -/
def sections (k : Kernel) : List Section :=
  { name := 0, type := Section.null, flags := 0, addr := 0, offset := 0, size := 0
    link := 0, info := 0, addralign := 0, entsize := 0 } ::
    (StringTable.positions k.sectionNames).zipWith (fun pos (_, s) ↦ { s with name := .ofNat pos })
      (k.namedSections k.names.length)

/-- Where the section table lies. -/
def sectionsOffset (k : Kernel) : Nat :=
  Bytes.alignUp (k.namesOffset + k.names.length) alignment

/-- A segment that is loaded from `size` bytes of the file. -/
def loaded (flags : UInt32) (offset : Nat) (address : UInt64) (size : Nat) : Segment where
  type := Segment.load
  flags := flags
  offset := .ofNat offset
  vaddr := address
  paddr := address
  filesz := .ofNat size
  memsz := .ofNat size
  align := 0x10

/-- The segment table: the program bytes and the data. -/
def segments (k : Kernel) : List Segment :=
  [loaded (Segment.readable ||| Segment.executable) k.textOffset k.base k.text.size,
    loaded (Segment.readable ||| Segment.writable) k.dataOffset k.dataAddress k.data.size]

/-- The header. -/
def header (k : Kernel) : Header where
  ident := Header.magic ++ [Header.class64, Header.littleEndian, 1] ++ List.replicate 9 0
  type := 2
  machine := 62
  version := 1
  entry := k.base
  phoff := .ofNat headerSize
  shoff := .ofNat k.sectionsOffset
  flags := 0
  ehsize := .ofNat headerSize
  phentsize := .ofNat segmentSize
  phnum := .ofNat k.segments.length
  shentsize := .ofNat sectionSize
  shnum := .ofNat k.sections.length
  shstrndx := .ofNat (k.sections.length - 1)

/-! ### The file -/

/-- The symbol table and its strings, or nothing if they are left out, with the zeros in front. -/
def symbolBytes (k : Kernel) : ByteArray :=
  if k.symtab then
    Bytes.zeros (k.recordsOffset - k.dataEnd) ++
      (k.records.flatMap Symbol.encode).toByteArray ++ k.strings.toByteArray
  else .empty

/-- The bytes of the image. -/
def bytes (k : Kernel) : ByteArray :=
  (k.header.encode ++ k.segments.flatMap Segment.encode).toByteArray ++
    ⟨Array.replicate k.padding k.fill⟩ ++ k.text ++
    Bytes.zeros (k.dataOffset - k.textEnd) ++ k.data ++
    k.symbolBytes ++ k.names.toByteArray ++
    Bytes.zeros (k.sectionsOffset - (k.namesOffset + k.names.length)) ++
    (k.sections.flatMap Section.encode).toByteArray

end Kernel

end BootNote
