import BootNote.Proofs.Elf.Codec
import BootNote.Proofs.Note

/-!
The bytes of entries and of notes. The entries of the two tables are read from and written as byte
strings of one size, without loss either way. Whatever moves in a file, its entry is read whole,
given another offset and written back whole, and of its bytes only the eight of the offset change
(`IsEntryCodec`). A note is read from exactly the byte strings that begin with its bytes.
`encodings_exact` says all of this.
-/

set_option autoImplicit false
set_option relaxedAutoImplicit false

namespace BootNote

open Bytes Elf

/-- A codec of entries that hold an offset in the eight bytes from `pos` on. An entry that was read
and is written back with another offset has those bytes replaced and all others as they stood. -/
structure IsEntryCodec {α : Type} (size pos : Nat) (encode : α → List UInt8)
    (decode : List UInt8 → α) (withOffset : α → UInt64 → α) : Prop
    extends IsCodec size encode decode where
  encode_withOffset : ∀ (bs : List UInt8) (offset : UInt64), bs.length = size →
    encode (withOffset (decode bs) offset) =
      bs.take pos ++ Word.ofLong offset ++ bs.drop (pos + 8)

theorem Elf.Segment.isEntryCodec : IsEntryCodec segmentSize 8 Segment.encode Segment.decode
    fun s offset ↦ { s with offset := offset } where
  toIsCodec := isCodec
  encode_withOffset bs offset hbs := by rw [encode_offset, encode_decode hbs]

theorem Elf.Section.isEntryCodec : IsEntryCodec sectionSize 24 Section.encode Section.decode
    fun s offset ↦ { s with offset := offset } where
  toIsCodec := isCodec
  encode_withOffset bs offset hbs := by rw [encode_offset, encode_decode hbs]

/-- Entries and notes are exactly their bytes. An entry of the segment table reads as it was written
and is written as it was read, with its offset in the bytes from 8 on, and so is an entry of the
section table, with its offset in the bytes from 24 on. A note is read if and only if the bytes
begin with what it is written as. -/
theorem encodings_exact :
    IsEntryCodec segmentSize 8 Segment.encode Segment.decode
        (fun s offset ↦ { s with offset := offset }) ∧
      IsEntryCodec sectionSize 24 Section.encode Section.decode
        (fun s offset ↦ { s with offset := offset }) ∧
      ∀ (bs : List UInt8) (note : Note), Note.decode? bs = some note ↔
        Note.size ≤ bs.length ∧ bs.take Note.size = note.encode :=
  ⟨Segment.isEntryCodec, Section.isEntryCodec, fun _ _ ↦ Note.decode?_eq_some_iff⟩

/-- The numbers from 0 on as bytes. No two fields of an entry with these bytes have the same
value. -/
def risingBytes (n : Nat) : List UInt8 := (List.range n).map UInt8.ofNat

theorem encodings_risingBytes :
    ((risingBytes 56).length = segmentSize ∧
      ({ Segment.decode (risingBytes 56) with offset := 0xf7f6f5f4f3f2f1f0 } : Segment).encode =
        risingBytes 8 ++ [0xf0, 0xf1, 0xf2, 0xf3, 0xf4, 0xf5, 0xf6, 0xf7] ++
          (risingBytes 56).drop 16) ∧
    ((risingBytes 64).length = sectionSize ∧
      ({ Section.decode (risingBytes 64) with offset := 0xf7f6f5f4f3f2f1f0 } : Section).encode =
        risingBytes 24 ++ [0xf0, 0xf1, 0xf2, 0xf3, 0xf4, 0xf5, 0xf6, 0xf7] ++
          (risingBytes 64).drop 32) ∧
    Note.decode? [4, 0, 0, 0, 4, 0, 0, 0, 18, 0, 0, 0, 0x50, 0x56, 0x48, 0, 3, 2, 1, 0, 0xff] =
      some ⟨0x00010203⟩ :=
  have exact := encodings_exact
  ⟨⟨rfl, exact.1.encode_withOffset (risingBytes 56) 0xf7f6f5f4f3f2f1f0 rfl⟩,
    ⟨rfl, exact.2.1.encode_withOffset (risingBytes 64) 0xf7f6f5f4f3f2f1f0 rfl⟩,
    (exact.2.2 _ _).mpr ⟨by decide, by decide⟩⟩

end BootNote
