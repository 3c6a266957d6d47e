import BootNote.Kernel
import BootNote.Proofs.Elf.StringTable
import BootNote.Proofs.Image.Load

/-!
The files of the generator, part by part. The offsets of a kernel are computed one from the other,
and `Placed` says that each part of the file stands at its offset (`placed`). The file ends behind
its section table (`size_bytes`). It loads (`load_bytes`), and its two tables read back as they were
written (`segments_image`, `sections_image`).
-/

set_option autoImplicit false
set_option relaxedAutoImplicit false

namespace BootNote.Kernel

open Bytes Elf

variable (k : Kernel)

/-! ### Offsets -/

theorem textEnd_le_dataOffset : k.textEnd ≤ k.dataOffset := le_alignUp _ (by decide)

theorem dataEnd_le_recordsOffset : k.dataEnd ≤ k.recordsOffset := le_alignUp _ (by decide)

theorem namesEnd_le_sectionsOffset : k.namesOffset + k.names.length ≤ k.sectionsOffset :=
  le_alignUp _ (by decide)

/-- The names of the sections follow the symbols, or the data if the symbols are left out. -/
theorem dataEnd_add_size_symbolBytes : k.dataEnd + k.symbolBytes.size = k.namesOffset := by
  have hle := k.dataEnd_le_recordsOffset
  unfold symbolBytes namesOffset stringsOffset
  split_ifs with hsymtab
  · simp only [ByteArray.size_append, size_zeros, size_toByteArray,
      length_flatMap Symbol.size_encode]
    rw [Nat.mul_comm]
    omega
  · rfl

theorem length_encode_header : k.header.encode.length = headerSize := Header.size_encode rfl

/-! ### Parts -/

/-- Each part of the file stands at its offset. -/
structure Placed : Prop where
  header : HoldsAt k.bytes 0 k.header.encode
  segments : HoldsAt k.bytes headerSize (k.segments.flatMap Segment.encode)
  padding : HoldsAt k.bytes segmentsEnd (List.replicate k.padding k.fill)
  text : HoldsAt k.bytes k.textOffset (toList k.text)
  data : HoldsAt k.bytes k.dataOffset (toList k.data)
  records : k.symtab = true → HoldsAt k.bytes k.recordsOffset (k.records.flatMap Symbol.encode)
  strings : k.symtab = true → HoldsAt k.bytes k.stringsOffset k.strings
  names : HoldsAt k.bytes k.namesOffset k.names
  sections : HoldsAt k.bytes k.sectionsOffset (k.sections.flatMap Section.encode)

theorem toList_bytes : toList k.bytes = k.header.encode ++ (k.segments.flatMap Segment.encode ++
    (List.replicate k.padding k.fill ++ (toList k.text ++
      (List.replicate (k.dataOffset - k.textEnd) 0 ++ (toList k.data ++ (toList k.symbolBytes ++
        (k.names ++ (List.replicate (k.sectionsOffset - (k.namesOffset + k.names.length)) 0 ++
          k.sections.flatMap Section.encode)))))))) := by
  have hpadding : toList ⟨Array.replicate k.padding k.fill⟩ = List.replicate k.padding k.fill :=
    Array.toList_replicate
  simp only [bytes, toList_append, toList_toByteArray, toList_zeros, hpadding, List.append_assoc]

theorem placed : k.Placed := by
  have whole : HoldsAt k.bytes 0 (toList k.bytes) := List.prefix_refl _
  have hsegments : headerSize + k.segments.length * segmentSize = segmentsEnd := rfl
  have hpadding : segmentsEnd + k.padding = k.textOffset := rfl
  have htext : k.textOffset + k.text.size = k.textEnd := rfl
  have hgap : k.textEnd + (k.dataOffset - k.textEnd) = k.dataOffset :=
    Nat.add_sub_cancel' k.textEnd_le_dataOffset
  have hdata : k.dataOffset + k.data.size = k.dataEnd := rfl
  have hnames : k.namesOffset + k.names.length +
      (k.sectionsOffset - (k.namesOffset + k.names.length)) = k.sectionsOffset :=
    Nat.add_sub_cancel' k.namesEnd_le_sectionsOffset
  -- Each part starts where the one before it ends, which the equations above name.
  simp only [toList_bytes, holdsAt_append_iff, length_encode_header,
    length_flatMap Segment.size_encode, List.length_replicate, length_toList, Nat.zero_add,
    hsegments, hpadding, htext, hgap, hdata, dataEnd_add_size_symbolBytes, hnames] at whole
  obtain ⟨header, segments, padding, text, -, data, symbols, names, -, sections⟩ := whole
  have hsymbols (hsymtab : k.symtab = true) :
      HoldsAt k.bytes k.recordsOffset (k.records.flatMap Symbol.encode) ∧
        HoldsAt k.bytes k.stringsOffset k.strings := by
    have hgap' : k.dataEnd + (k.recordsOffset - k.dataEnd) = k.recordsOffset :=
      Nat.add_sub_cancel' k.dataEnd_le_recordsOffset
    have hrecords : k.recordsOffset + k.records.length * symbolSize = k.stringsOffset := by
      rw [stringsOffset, Nat.mul_comm]
    simp only [symbolBytes, hsymtab, if_true, toList_append, toList_zeros, toList_toByteArray,
      List.append_assoc, holdsAt_append_iff, List.length_replicate,
      length_flatMap Symbol.size_encode, hgap', hrecords] at symbols
    exact symbols.2
  exact ⟨header, segments, padding, text, data, fun hsymtab ↦ (hsymbols hsymtab).1,
    fun hsymtab ↦ (hsymbols hsymtab).2, names, sections⟩

/-- The section table ends the file. -/
theorem size_bytes : k.bytes.size = k.sectionsOffset + k.sections.length * sectionSize := by
  have htext := k.textEnd_le_dataOffset
  have hsymbols := k.dataEnd_add_size_symbolBytes
  have hnames := k.namesEnd_le_sectionsOffset
  have hsegments : headerSize + k.segments.length * segmentSize = segmentsEnd := rfl
  have hlength := congrArg List.length k.toList_bytes
  simp only [List.length_append, length_encode_header, length_flatMap Segment.size_encode,
    length_flatMap Section.size_encode, List.length_replicate, length_toList] at hlength
  simp only [textEnd, textOffset, dataEnd] at *
  omega

/-! ### Loading -/

theorem length_namedSections (namesSize : Nat) :
    (k.namedSections namesSize).length = if k.symtab then 5 else 3 := by
  unfold namedSections
  split_ifs <;> rfl

theorem length_sections : k.sections.length = if k.symtab then 6 else 4 := by
  simp only [sections, sectionNames, List.length_cons, List.length_zipWith,
    StringTable.length_positions, List.length_map, length_namedSections, Nat.min_self]
  split_ifs <;> rfl

theorem segmentsEnd_le_sectionsOffset : segmentsEnd ≤ k.sectionsOffset := by
  have htext := k.textEnd_le_dataOffset
  have hsymbols := k.dataEnd_add_size_symbolBytes
  have hnames := k.namesEnd_le_sectionsOffset
  simp only [textEnd, textOffset, dataEnd] at *
  omega

/-- The file with its header. -/
def image : Image := ⟨k.bytes, k.header⟩

@[simp] theorem bytes_image : k.image.bytes = k.bytes := rfl

@[simp] theorem header_image : k.image.header = k.header := rfl

@[simp] theorem toNat_phnum : k.header.phnum.toNat = k.segments.length := rfl

@[simp] theorem toNat_shnum : k.header.shnum.toNat = k.sections.length := by
  refine UInt16.toNat_ofNat_of_lt' ?_
  rw [length_sections]
  split_ifs <;> decide

@[simp] theorem toNat_shstrndx : k.header.shstrndx.toNat = k.sections.length - 1 := by
  refine UInt16.toNat_ofNat_of_lt' ?_
  rw [length_sections]
  split_ifs <;> decide

theorem shnum_ne_zero : k.header.shnum ≠ 0 := by
  intro hzero
  have hcount := k.toNat_shnum
  rw [hzero, length_sections] at hcount
  split_ifs at hcount <;> exact absurd hcount (by decide)

section Load

variable {k} (hsize : k.bytes.size < capacity)

include hsize

theorem sectionsOffset_lt : k.sectionsOffset < UInt64.size := by
  have hend := k.size_bytes
  simp only [capacity, UInt64.size] at *
  omega

theorem toNat_shoff : k.header.shoff.toNat = k.sectionsOffset :=
  UInt64.toNat_ofNat_of_lt' (sectionsOffset_lt hsize)

theorem fitsIn_header : k.header.FitsIn k.bytes.size where
  phnum_ne_zero := (by decide : UInt16.ofNat 2 ≠ 0)
  phentsize_eq := rfl
  headerSize_le := Nat.le_refl _
  segments_le := by
    rw [size_bytes]
    exact Nat.le_trans k.segmentsEnd_le_sectionsOffset (Nat.le_add_right _ _)
  shoff_eq_zero hzero := absurd hzero k.shnum_ne_zero
  shentsize_eq _ := rfl
  sections_le _ := Nat.le_of_eq (by rw [toNat_shoff hsize, toNat_shnum, size_bytes])

theorem load_bytes : Image.load k.bytes = .ok k.image := by
  obtain ⟨rest, hrest⟩ := k.placed.header
  exact Image.load_of_encode (lt_lastOffset hsize) rfl rfl (fitsIn_header hsize) hrest.symm

theorem sections_image : k.image.sections = k.sections := by
  rw [Image.sections, header_image, toNat_shoff hsize, toNat_shnum, bytes_image]
  exact Section.isCodec.map_decode_records k.placed.sections

end Load

theorem segments_image : k.image.segments = k.segments := by
  rw [Image.segments, header_image, bytes_image, toNat_phnum]
  exact Segment.isCodec.map_decode_records k.placed.segments

/-! ### A kernel with symbols -/

/-- A kernel with two symbols of one name, a symbol without a name, and names that begin or end like
others. -/
def sampleKernel : Kernel where
  padding := 3
  fill := 0xff
  text := ⟨#[0x90, 0x90, 0xf4]⟩
  data := .empty
  symbols := [("_start", 0x100000), ("start", 0x100001), ("", 0x100002), ("_start", 0x200000),
    ("_start2", 0x200001)]

theorem size_sampleKernel : sampleKernel.bytes.size < capacity := by
  rw [size_bytes]
  decide +kernel

end BootNote.Kernel
