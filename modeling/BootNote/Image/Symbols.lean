import BootNote.Elf.StringTable
import BootNote.Elf.Symbol
import BootNote.Image

/-!
Looking up a symbol in an image. The symbol table is the first section of that type, and its names
are in the string table that it links to. Both have to lie in the image. The answer is the value of
the first symbol whose name is the one looked for.
-/

set_option autoImplicit false
set_option relaxedAutoImplicit false

namespace BootNote.Image

open Elf

/-- The bytes of a section, if they lie in the image. -/
def contents? (img : Image) (s : Section) : Option ByteArray :=
  (img.slice s.offset.toNat s.size.toNat).toOption

/-- The distance between two records of a symbol table, from the size that its section gives: none
given means the usual one, and a smaller one than that cannot hold a record. -/
def symbolStride? (entsize : UInt64) : Option Nat :=
  if entsize = 0 then some symbolSize
  else if entsize.toNat < symbolSize then none
  else some entsize.toNat

/-- The symbols of an image, with the string table that holds their names. -/
def symbolTable? (img : Image) : Option (List Symbol × ByteArray) := do
  let sections := img.sections
  let table ← sections.find? (·.type = Section.symtab)
  let strings ← sections[table.link.toNat]?
  guard (strings.type = Section.strtab)
  let names ← img.contents? strings
  let stride ← symbolStride? table.entsize
  let records ← img.contents? table
  return ((Bytes.records records 0 stride (records.size / stride)).map Symbol.decode, names)

/-- The name of a symbol, if it has one and the string table holds it. -/
def symbolName? (names : ByteArray) (s : Symbol) : Option ByteArray :=
  if s.name = 0 then none else StringTable.stringAt? names s.name.toNat

/-- The value of the first symbol of a name. -/
def findSymbol (img : Image) (name : String) : Option UInt64 := do
  let (symbols, names) ← img.symbolTable?
  let symbol ← symbols.find? fun s ↦ symbolName? names s = some name.toUTF8
  return symbol.value

end BootNote.Image
