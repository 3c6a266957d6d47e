import BootNote.Elf.Header
import BootNote.Elf.Section
import BootNote.Elf.Segment
import BootNote.Elf.Symbol
import BootNote.Proofs.Bytes.Table
import BootNote.Proofs.Word

/-!
Records and their bytes. An entry of a table reads back as it was written, and the bytes of an entry
or of the header are written back as they were read. The offset in an entry has eight bytes of its
own: with another offset, the entry is written with these bytes replaced (`Segment.encode_offset`,
`Section.encode_offset`).
-/

set_option autoImplicit false
set_option relaxedAutoImplicit false

namespace BootNote.Elf

open Bytes

theorem Segment.size_encode (s : Segment) : s.encode.length = segmentSize := s.length_encode

theorem Section.size_encode (s : Section) : s.encode.length = sectionSize := s.length_encode

@[simp] theorem Segment.decode_encode (s : Segment) : Segment.decode s.encode = s := by
  simp [Segment.decode, Segment.encode, Word.word, Word.long, List.drop_append,
    List.drop_eq_nil_of_le, List.take_of_length_le]

@[simp] theorem Section.decode_encode (s : Section) : Section.decode s.encode = s := by
  simp [Section.decode, Section.encode, Word.word, Word.long, List.drop_append,
    List.drop_eq_nil_of_le, List.take_of_length_le]

theorem Symbol.size_encode (s : Symbol) : s.encode.length = symbolSize := s.length_encode

@[simp] theorem Symbol.decode_encode (s : Symbol) : Symbol.decode s.encode = s := by
  simp [Symbol.decode, Symbol.encode, Word.byte, Word.half, Word.word, Word.long, List.drop_append,
    List.drop_eq_nil_of_le, List.take_of_length_le]

/-- The fields of a symbol are read from the first bytes of its record. -/
theorem Symbol.decode_take {bs : List UInt8} {n : Nat} (hn : symbolSize ≤ n) :
    Symbol.decode (bs.take n) = Symbol.decode bs := by
  rw [symbolSize] at hn
  simp (disch := omega) only [Symbol.decode, Word.byte, Word.half, Word.word, Word.long,
    List.drop_take, List.take_take, Nat.min_eq_left]

theorem Segment.type_decode (bs : List UInt8) : (Segment.decode bs).type = Word.word bs 0 := rfl

theorem Segment.offset_decode (bs : List UInt8) : (Segment.decode bs).offset = Word.long bs 8 := rfl

theorem Segment.encode_decode {bs : List UInt8} (h : bs.length = segmentSize) :
    (Segment.decode bs).encode = bs := by
  rw [segmentSize] at h
  simp (disch := omega) only [Segment.decode, Segment.encode, Word.ofWord_word, Word.ofLong_long,
    List.drop_zero, ← List.take_add, Nat.reduceAdd, ← h, List.take_length]

theorem Section.encode_decode {bs : List UInt8} (h : bs.length = sectionSize) :
    (Section.decode bs).encode = bs := by
  rw [sectionSize] at h
  simp (disch := omega) only [Section.decode, Section.encode, Word.ofWord_word, Word.ofLong_long,
    List.drop_zero, ← List.take_add, Nat.reduceAdd, ← h, List.take_length]

theorem Symbol.encode_decode {bs : List UInt8} (h : bs.length = symbolSize) :
    (Symbol.decode bs).encode = bs := by
  rw [symbolSize] at h
  have hbytes : [Word.byte bs 4, Word.byte bs 5] = (bs.drop 4).take 2 := by
    calc [Word.byte bs 4] ++ [Word.byte bs 5]
        = (bs.drop 4).take 1 ++ ((bs.drop 4).drop 1).take 1 := by
          rw [Word.singleton_byte (by omega), Word.singleton_byte (by omega), List.drop_drop]
      _ = (bs.drop 4).take 2 := List.take_add.symm
  simp (disch := omega) only [Symbol.decode, Symbol.encode, hbytes, Word.ofHalf_half,
    Word.ofWord_word, Word.ofLong_long, List.drop_zero, ← List.take_add, Nat.reduceAdd, ← h,
    List.take_length]

theorem Segment.isCodec : IsCodec segmentSize Segment.encode Segment.decode :=
  ⟨size_encode, decode_encode, fun _ ↦ encode_decode⟩

theorem Section.isCodec : IsCodec sectionSize Section.encode Section.decode :=
  ⟨size_encode, decode_encode, fun _ ↦ encode_decode⟩

theorem Symbol.isCodec : IsCodec symbolSize Symbol.encode Symbol.decode :=
  ⟨size_encode, decode_encode, fun _ ↦ encode_decode⟩

theorem Header.size_encode {h : Header} (hident : h.ident.length = 16) :
    h.encode.length = headerSize := by
  simp [Header.encode, hident, headerSize]

/-- A header with identification bytes of their size reads back as it was written. -/
theorem Header.decode_encode {h : Header} (hident : h.ident.length = 16) :
    Header.decode h.encode = h := by
  simp [Header.decode, Header.encode, Word.half, Word.word, Word.long, List.drop_append,
    List.drop_eq_nil_of_le, List.take_of_length_le, hident]

/-- The offset of a segment takes the bytes 8 to 15 of its entry, and no other byte depends on
it. -/
theorem Segment.encode_offset (s : Segment) (offset : UInt64) :
    ({ s with offset := offset } : Segment).encode =
      s.encode.take 8 ++ Word.ofLong offset ++ s.encode.drop 16 := by
  simp [encode, List.take_append, List.drop_append, List.drop_eq_nil_of_le,
    List.take_of_length_le]

/-- The offset of a section takes the bytes 24 to 31 of its entry, and no other byte depends on
it. -/
theorem Section.encode_offset (s : Section) (offset : UInt64) :
    ({ s with offset := offset } : Section).encode =
      s.encode.take 24 ++ Word.ofLong offset ++ s.encode.drop 32 := by
  simp [encode, List.take_append, List.drop_append, List.drop_eq_nil_of_le,
    List.take_of_length_le]

theorem Section.getElem?_encode_offset (s : Section) (offset : UInt64) (i : Nat) :
    ({ s with offset := offset } : Section).encode[i]? =
      if 24 ≤ i ∧ i < 32 then (Word.ofLong offset)[i - 24]? else s.encode[i]? := by
  rw [encode_offset]
  simp only [List.getElem?_append, List.getElem?_take, List.getElem?_drop, List.length_append,
    List.length_take, length_encode, Word.length_ofLong]
  split_ifs <;> first | omega | rfl | (congr 1; omega)

theorem Header.encode_decode {bs : List UInt8} (h : bs.length = headerSize) :
    (Header.decode bs).encode = bs := by
  rw [headerSize] at h
  simp (disch := omega) only [Header.decode, Header.encode, Word.ofHalf_half, Word.ofWord_word,
    Word.ofLong_long, ← List.take_add, Nat.reduceAdd, ← h, List.take_length]

end BootNote.Elf
