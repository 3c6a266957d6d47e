import BootNote.Bytes
import BootNote.Elf.Header
import BootNote.Elf.Section
import BootNote.Elf.Segment
import BootNote.Error

/-!
Images: the bytes of an ELF file together with its header, which is read once. The header says where
the two tables lie, and the tables are read from the bytes each time. The edits change the bytes;
`writeHeader` alone changes the header, and writes the two fields that may differ.
-/

set_option autoImplicit false
set_option relaxedAutoImplicit false

namespace BootNote

open Elf

/-- An ELF file in memory. -/
structure Image where
  bytes : ByteArray
  /-- The header as it was read, and as `writeHeader` left it since. -/
  header : Header
  deriving DecidableEq

namespace Image

/-- Reads an image from the bytes of a file. -/
def load (bytes : ByteArray) : Except Error Image := do
  let header ← (Header.read bytes).mapError .format
  (header.check bytes.size).mapError .format
  return ⟨bytes, header⟩

/-- The number of bytes of an image. -/
def size (img : Image) : Nat := img.bytes.size

/-- The entries of the segment table. -/
def segments (img : Image) : List Segment :=
  (Bytes.records img.bytes img.header.phoff.toNat img.header.phentsize.toNat
    img.header.phnum.toNat).map Segment.decode

/-- The entries of the section table. -/
def sections (img : Image) : List Section :=
  (Bytes.records img.bytes img.header.shoff.toNat img.header.shentsize.toNat
    img.header.shnum.toNat).map Section.decode

/-- The `len` bytes from `pos` on, all of which have to lie in the image. -/
def slice (img : Image) (pos len : Nat) : Except Error ByteArray :=
  if pos + len ≤ img.size then .ok (Bytes.slice img.bytes pos len)
  else .error (.format (.outsideImage pos len img.size))

/-- Whether the `len` bytes from `pos` on lie in the image and are all zero. -/
def isZeroed (img : Image) (pos len : Nat) : Bool :=
  match img.slice pos len with
  | .ok bytes => (Bytes.toList bytes).all (· == 0)
  | .error _ => false

/-- Inserts bytes in front of position `pos`. -/
def insertAt (img : Image) (pos : Nat) (new : ByteArray) : Except Error Image :=
  if pos ≤ img.size then .ok { img with bytes := Bytes.insert img.bytes pos new }
  else .error (.format (.insertionPastEnd pos img.size))

/-- Replaces the bytes from `pos` on, all of which have to lie in the image. -/
@[inline] def overwriteAt (img : Image) (pos : Nat) (new : ByteArray) : Except Error Image :=
  if pos + new.size ≤ img.size then .ok { img with bytes := Bytes.overwrite img.bytes pos new }
  else .error (.format (.outsideImage pos new.size img.size))

/-- Appends bytes at the next multiple of `step`, with zeros in front of them. -/
def appendAligned (img : Image) (new : ByteArray) (step : Nat) : Image :=
  { img with bytes := Bytes.appendAligned img.bytes new step }

/-- Takes over a header and writes its section table's offset and its number of segments. -/
def writeHeader (img : Image) (header : Header) : Image where
  bytes :=
    let placed := Bytes.overwrite img.bytes 40 (Word.ofLong header.shoff).toByteArray
    Bytes.overwrite placed 56 (Word.ofHalf header.phnum).toByteArray
  header := header

/-- Writes the entry of the segment table at an index. -/
@[inline] def writeSegment (img : Image) (index : Nat) (s : Segment) : Except Error Image :=
  img.overwriteAt (img.header.phoff.toNat + index * img.header.phentsize.toNat)
    s.encode.toByteArray

/-- Writes the entry of the section table at an index. -/
@[inline] def writeSection (img : Image) (index : Nat) (s : Section) : Except Error Image :=
  img.overwriteAt (img.header.shoff.toNat + index * img.header.shentsize.toNat)
    s.encode.toByteArray

end Image

end BootNote
