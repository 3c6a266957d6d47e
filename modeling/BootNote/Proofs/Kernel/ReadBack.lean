import BootNote.Proofs.Kernel.Sections

/-!
What a reader finds in a file of the generator. `ReadsBack` is the agreement of an image with the
kernel that it was made from: the numbers that the generator reports, the names, the types and the
contents of the sections, the loaded segments, the padding, and the order of the sections in the
file. `load_readsBack` shows it of the image that is loaded from the file of any kernel whose
addresses do not leave the 64-bit range.
-/

set_option autoImplicit false
set_option relaxedAutoImplicit false

namespace BootNote

open Bytes Elf

/-- A segment is loaded to an address from exactly these bytes of the file. -/
structure Image.LoadsAt (img : Image) (s : Segment) (content : ByteArray) (address : Nat) :
    Prop where
  type_eq : s.type = Segment.load
  slice_eq : img.slice s.offset.toNat s.filesz.toNat = .ok content
  memsz_eq : s.memsz = s.filesz
  vaddr_eq : s.vaddr.toNat = address

namespace Kernel

variable (k : Kernel)

/-- The image `img` is what a reader should find in the file of the kernel. -/
structure ReadsBack (img : Image) : Prop where
  phnum_eq : img.header.phnum.toNat = k.segments.length
  shnum_eq : img.header.shnum.toNat = k.sections.length
  entryOffset_eq : img.entryOffset = segmentsEnd
  shoff_eq : img.header.shoff.toNat = k.sectionsOffset
  /-- The section table ends the file. -/
  size_eq : img.size = img.header.shoff.toNat + 64 * img.header.shnum.toNat
  /-- The names are read from the last section. -/
  shstrndx_eq : img.header.shstrndx.toNat + 1 = img.sections.length
  outline_eq : img.sections.map (fun s ↦ (img.sectionName? s, s.type)) =
    k.outline.map fun titled ↦ (some titled.1.toUTF8, titled.2)
  textOffset_eq : img.sections[1]?.map (·.offset.toNat) = some k.textOffset
  text_eq : img.sections[1]?.bind img.contents? = some k.text
  data_eq : img.sections[2]?.bind img.contents? = some k.data
  segments : ∃ text data, img.segments = [text, data] ∧ img.LoadsAt text k.text k.base.toNat ∧
    img.LoadsAt data k.data (k.base.toNat + alignUp k.text.size pageSize)
  /-- The padding separates the segment table from the program bytes. -/
  padding_eq : k.textOffset = img.entryOffset + k.padding
  fill_eq : ∀ i < k.padding, get? img.bytes (img.entryOffset + i) = some k.fill
  /-- No section has bytes of another one, and they follow each other as in the table. -/
  ordered : img.sections.Pairwise fun s t ↦ s.isNull = false → t.isNull = false →
    s.offset.toNat + s.size.toNat ≤ t.offset.toNat
  between : ∀ s ∈ img.sections, s.isNull = false →
    img.entryOffset + k.padding ≤ s.offset.toNat ∧
      s.offset.toNat + s.size.toNat ≤ img.header.shoff.toNat

theorem toNat_dataAddress (hbase : k.base.toNat + alignUp k.text.size pageSize < 2 ^ 64) :
    k.dataAddress.toNat = k.base.toNat + alignUp k.text.size pageSize := by
  have hpages : (UInt64.ofNat (alignUp k.text.size pageSize)).toNat =
      alignUp k.text.size pageSize := UInt64.toNat_ofNat_of_lt' (by rw [UInt64.size]; omega)
  rw [dataAddress, UInt64.toNat_add, hpages, Nat.mod_eq_of_lt hbase]

section Load

variable {k} (hsize : k.bytes.size < capacity)

include hsize

/-! ### Segments -/

/-- A segment that is made from a part of the file is loaded from that part. -/
theorem loadsAt_loaded (flags : UInt32) (address : UInt64) {offset : Nat} {part : List UInt8}
    (hpart : (offset, part) ∈ k.parts) :
    k.image.LoadsAt (loaded flags offset address part.length) part.toByteArray address.toNat := by
  have hend : offset + part.length ≤ k.sectionsOffset := k.end_le_of_mem_parts _ hpart
  have hlt := sectionsOffset_lt hsize
  refine ⟨rfl, ?_, rfl, rfl⟩
  rw [loaded, UInt64.toNat_ofNat_of_lt' (by omega), UInt64.toNat_ofNat_of_lt' (by omega)]
  exact k.slice_of_mem_parts hpart

/-! ### Order -/

theorem pairwise_sections : k.sections.tail.Pairwise fun s t ↦
    s.offset.toNat + s.size.toNat ≤ t.offset.toNat := by
  have hextents : (k.sections.tail.map fun s ↦ (s.offset.toNat, s.size.toNat)).Pairwise
      fun extent next ↦ extent.1 + extent.2 ≤ next.1 := by
    rw [map_extent_sections hsize, List.pairwise_map]
    exact k.pairwise_parts
  exact List.pairwise_map.mp hextents

theorem bounds_of_mem_sections {s : Section} (hs : s ∈ k.sections.tail) :
    k.textOffset ≤ s.offset.toNat ∧ s.offset.toNat + s.size.toNat ≤ k.sectionsOffset := by
  have hextent := List.mem_map_of_mem (f := fun s : Section ↦ (s.offset.toNat, s.size.toNat)) hs
  rw [map_extent_sections hsize] at hextent
  obtain ⟨part, hpart, heq⟩ := List.mem_map.mp hextent
  obtain ⟨hoffset, hlength⟩ := Prod.ext_iff.mp heq
  simp only at hoffset hlength
  rw [← hoffset, ← hlength]
  exact ⟨k.textOffset_le_of_mem_parts part hpart, k.end_le_of_mem_parts part hpart⟩

end Load

/-! ### The file and the kernel -/

section Agreement

variable {k} (hbase : k.base.toNat + alignUp k.text.size pageSize < 2 ^ 64)
  (hsize : k.bytes.size < capacity)

include hbase hsize

theorem readsBack_image : k.ReadsBack k.image where
  phnum_eq := rfl
  shnum_eq := k.toNat_shnum
  entryOffset_eq := rfl
  shoff_eq := toNat_shoff hsize
  size_eq := by
    rw [Image.size, bytes_image, size_bytes, header_image, toNat_shoff hsize, toNat_shnum,
      Nat.mul_comm]
    rfl
  shstrndx_eq := by
    rw [header_image, toNat_shstrndx, sections_image hsize]
    exact Nat.sub_add_cancel (by rw [length_sections]; split_ifs <;> decide)
  outline_eq := map_sectionName?_sections hsize
  textOffset_eq := by
    have hextents := congrArg (fun extents ↦ extents[0]?.map Prod.fst) (map_extent_sections hsize)
    simp only [List.getElem?_map, Option.map_map, List.getElem?_tail] at hextents
    rw [sections_image hsize]
    exact hextents
  text_eq := (contents?_getElem?_sections hsize 0).trans (congrArg some (toByteArray_toList _))
  data_eq := (contents?_getElem?_sections hsize 1).trans (congrArg some (toByteArray_toList _))
  segments := by
    have htext : (k.textOffset, toList k.text) ∈ k.parts := List.mem_cons_self
    have hdata : (k.dataOffset, toList k.data) ∈ k.parts :=
      List.mem_cons_of_mem _ List.mem_cons_self
    have hloaded := loadsAt_loaded hsize (Segment.readable ||| Segment.executable) k.base htext
    have hloaded' :=
      loadsAt_loaded hsize (Segment.readable ||| Segment.writable) k.dataAddress hdata
    rw [toByteArray_toList] at hloaded hloaded'
    rw [k.toNat_dataAddress hbase] at hloaded'
    exact ⟨_, _, k.segments_image, hloaded, hloaded'⟩
  padding_eq := rfl
  fill_eq i hi := by
    have hfill := k.placed.padding.get?_eq (i := i) (by rwa [List.length_replicate])
    rwa [List.getElem?_replicate_of_lt hi] at hfill
  ordered := by
    rw [sections_image hsize, sections_eq_cons]
    refine List.pairwise_cons.mpr ⟨fun t _ hnull ↦ ?_, ?_⟩
    · exact absurd hnull (by decide)
    · exact (pairwise_sections hsize).imp fun hle _ _ ↦ hle
  between s hs hnull := by
    rw [sections_image hsize, sections_eq_cons] at hs
    rw [header_image, toNat_shoff hsize]
    rcases List.mem_cons.mp hs with rfl | hs
    · exact absurd hnull (by decide)
    · exact bounds_of_mem_sections hsize hs

/-- The file of a kernel loads, and everything that went into it is found where the generator says
that it is. -/
theorem load_readsBack : ∃ img, Image.load k.bytes = .ok img ∧ k.ReadsBack img :=
  ⟨k.image, load_bytes hsize, readsBack_image hbase hsize⟩

end Agreement

theorem readsBack_sampleKernel : ∃ img, Image.load sampleKernel.bytes = .ok img ∧
    sampleKernel.ReadsBack img :=
  load_readsBack (by decide) size_sampleKernel

end Kernel

end BootNote
