import BootNote.Image.Symbols
import BootNote.Proofs.Image.Injection
import BootNote.Proofs.Kernel.Layout

/-!
The sections of a file of the generator. They are the parts of the file in their order (`parts`):
each entry of the section table has the offset and the size of its part (`map_extent_sections`), and
the part is what the section holds (`map_contents?_sections`). The last part holds the names, where
each section is found by its own (`map_sectionName?_sections`).
-/

set_option autoImplicit false
set_option relaxedAutoImplicit false

namespace BootNote

open Bytes Elf

namespace Image

/-- The table of the names of the sections. The header has the index of its section. -/
def nameTable? (img : Image) : Option ByteArray :=
  img.sections[img.header.shstrndx.toNat]?.bind img.contents?

/-- The name of a section. -/
def sectionName? (img : Image) (s : Section) : Option ByteArray :=
  img.nameTable?.bind fun names ↦ StringTable.stringAt? names s.name.toNat

/-- What is held at a position inside an image is the slice there. -/
theorem slice_of_holdsAt {img : Image} {pos : Nat} {part : List UInt8}
    (holds : HoldsAt img.bytes pos part) (hend : pos + part.length ≤ img.size) :
    img.slice pos part.length = .ok part.toByteArray := by
  rw [Image.slice, if_pos hend, holds.slice_eq]

end Image

/-- An entry of the section table apart from its name. -/
def Elf.Section.unnamed (s : Section) : Section := { s with name := 0 }

namespace Kernel

variable (k : Kernel)

/-- The contents of the sections behind the null one, each with its offset. -/
def parts : List (Nat × List UInt8) :=
  [(k.textOffset, toList k.text), (k.dataOffset, toList k.data)] ++
    (if k.symtab then
      [(k.recordsOffset, k.records.flatMap Symbol.encode), (k.stringsOffset, k.strings)]
    else []) ++
    [(k.namesOffset, k.names)]

/-- The names and the types of the sections. -/
def outline : List (String × UInt32) :=
  [("", Section.null), (".text", Section.progbits), (".data", Section.progbits)] ++
    (if k.symtab then [(".symtab", Section.symtab), (".strtab", Section.strtab)] else []) ++
    [(".shstrtab", Section.strtab)]

/-! ### Names -/

theorem map_type_namedSections (namesSize : Nat) :
    (k.namedSections namesSize).map (fun named ↦ (named.1, named.2.type)) = k.outline.tail := by
  unfold namedSections outline
  split_ifs <;> rfl

theorem sectionNames_eq (namesSize : Nat) :
    k.sectionNames = (k.namedSections namesSize).map fun named ↦ toList named.1.toUTF8 := by
  unfold sectionNames namedSections
  split_ifs <;> rfl

theorem sectionNames_eq_outline :
    k.sectionNames = k.outline.tail.map fun titled ↦ toList titled.1.toUTF8 := by
  rw [← k.map_type_namedSections 0, List.map_map]
  rfl

theorem nul_not_mem_sectionNames : ∀ name ∈ k.sectionNames, 0 ∉ name := by
  rw [sectionNames_eq_outline, outline]
  split_ifs <;> decide +kernel

theorem length_names_lt : k.names.length < UInt32.size := by
  rw [names, sectionNames_eq_outline, outline]
  split_ifs <;> decide +kernel

/-- Each section is found by its name at the position that its entry is given. -/
theorem forall₂_namedSections : List.Forall₂ (fun pos (named : String × Section) ↦
      UInt32.ofNat pos ≠ 0 ∧
        StringTable.stringAt? k.names.toByteArray (UInt32.ofNat pos).toNat = some named.1.toUTF8)
    (StringTable.positions k.sectionNames) (k.namedSections k.names.length) :=
  StringTable.forall₂_fields _ _ (k.sectionNames_eq _) k.nul_not_mem_sectionNames k.length_names_lt

/-! ### Entries -/

/-- The entry that stands for no section. -/
def nullEntry : Section := ⟨0, Section.null, 0, 0, 0, 0, 0, 0, 0, 0⟩

theorem sections_eq_cons : k.sections = nullEntry :: k.sections.tail := rfl

/-- What does not depend on its name, an entry has from the section that it was made for. -/
theorem map_sections {α : Type} {read : Section → α} (hread : ∀ s, read s.unnamed = read s) :
    k.sections.tail.map read =
      (k.namedSections k.names.length).map fun named ↦ read named.2 :=
  StringTable.map_zipWith_of_forall₂ k.forall₂_namedSections fun _ named _ ↦
    (hread _).symm.trans (hread named.2)

/-! ### Parts -/

theorem length_records_encode :
    (k.records.flatMap Symbol.encode).length = symbolSize * k.records.length := by
  rw [length_flatMap Symbol.size_encode, Nat.mul_comm]

theorem stringsEnd_eq (hsymtab : k.symtab = true) :
    k.stringsOffset + k.strings.length = k.namesOffset := by
  rw [namesOffset, if_pos hsymtab]

theorem parts_of_symtab (hsymtab : k.symtab = true) : k.parts =
    [(k.textOffset, toList k.text), (k.dataOffset, toList k.data),
      (k.recordsOffset, k.records.flatMap Symbol.encode), (k.stringsOffset, k.strings),
      (k.namesOffset, k.names)] := by
  rw [parts, if_pos hsymtab]
  rfl

theorem parts_of_not_symtab (hsymtab : ¬ k.symtab = true) : k.parts =
    [(k.textOffset, toList k.text), (k.dataOffset, toList k.data), (k.namesOffset, k.names)] := by
  rw [parts, if_neg hsymtab]
  rfl

theorem holdsAt_of_mem_parts : ∀ part ∈ k.parts, HoldsAt k.bytes part.1 part.2 := by
  have placed := k.placed
  by_cases hsymtab : k.symtab = true
  · simp only [k.parts_of_symtab hsymtab, List.forall_mem_cons, List.not_mem_nil, false_implies,
      implies_true, and_true]
    exact ⟨placed.text, placed.data, placed.records hsymtab, placed.strings hsymtab, placed.names⟩
  · simp only [k.parts_of_not_symtab hsymtab, List.forall_mem_cons, List.not_mem_nil,
      false_implies, implies_true, and_true]
    exact ⟨placed.text, placed.data, placed.names⟩

/-- Each part ends in front of the parts behind it. -/
theorem pairwise_parts : k.parts.Pairwise fun part next ↦ part.1 + part.2.length ≤ next.1 := by
  have htext : k.textOffset + k.text.size ≤ k.dataOffset := k.textEnd_le_dataOffset
  have hdata : k.dataOffset + k.data.size ≤ k.recordsOffset := k.dataEnd_le_recordsOffset
  by_cases hsymtab : k.symtab = true
  · have hrecords : k.recordsOffset + symbolSize * k.records.length = k.stringsOffset := rfl
    have hstrings := k.stringsEnd_eq hsymtab
    simp only [k.parts_of_symtab hsymtab, List.pairwise_cons, List.forall_mem_cons,
      List.not_mem_nil, false_implies, implies_true, and_true, List.Pairwise.nil, length_toList,
      length_records_encode]
    omega
  · have hnames : k.dataOffset + k.data.size = k.namesOffset := by
      rw [namesOffset, if_neg hsymtab]
      rfl
    simp only [k.parts_of_not_symtab hsymtab, List.pairwise_cons, List.forall_mem_cons,
      List.not_mem_nil, false_implies, implies_true, and_true, List.Pairwise.nil, length_toList]
    omega

theorem textOffset_le_of_mem_parts : ∀ part ∈ k.parts, k.textOffset ≤ part.1 := by
  intro part hpart
  have hpairwise := k.pairwise_parts
  have hfirst : k.parts = (k.textOffset, toList k.text) :: k.parts.tail := rfl
  rw [hfirst] at hpart hpairwise
  rcases List.mem_cons.mp hpart with rfl | hrest
  · exact Nat.le_refl _
  · exact Nat.le_trans (Nat.le_add_right _ _) (List.rel_of_pairwise_cons hpairwise hrest)

/-- The names are the last part, and the section table follows them. -/
theorem end_le_of_mem_parts : ∀ part ∈ k.parts, part.1 + part.2.length ≤ k.sectionsOffset := by
  intro part hpart
  have hend := k.namesEnd_le_sectionsOffset
  have hpairwise := k.pairwise_parts
  rw [parts] at hpart hpairwise
  rcases List.mem_append.mp hpart with hfront | hlast
  · have hle : part.1 + part.2.length ≤ k.namesOffset :=
      (List.pairwise_append.mp hpairwise).2.2 part hfront _ (List.mem_singleton_self _)
    omega
  · obtain rfl := List.mem_singleton.mp hlast
    exact hend

theorem slice_of_mem_parts {part : Nat × List UInt8} (hpart : part ∈ k.parts) :
    k.image.slice part.1 part.2.length = .ok part.2.toByteArray := by
  refine Image.slice_of_holdsAt (k.holdsAt_of_mem_parts part hpart) ?_
  rw [Image.size, bytes_image, size_bytes]
  exact Nat.le_trans (k.end_le_of_mem_parts part hpart) (Nat.le_add_right _ _)

/-! ### Entries and parts -/

section Load

variable {k} (hsize : k.bytes.size < capacity)

include hsize

/-- An entry has the offset and the size of its part. -/
theorem map_extent_sections : k.sections.tail.map (fun s ↦ (s.offset.toNat, s.size.toNat)) =
    k.parts.map fun part ↦ (part.1, part.2.length) := by
  have hlt := sectionsOffset_lt hsize
  have hwords : (k.namedSections k.names.length).map (fun named ↦
        (named.2.offset, named.2.size)) =
      k.parts.map fun part ↦ (UInt64.ofNat part.1, UInt64.ofNat part.2.length) := by
    by_cases hsymtab : k.symtab = true
    · simp only [namedSections, if_pos hsymtab, k.parts_of_symtab hsymtab, List.cons_append,
        List.nil_append, List.map_cons, List.map_nil, length_toList, length_records_encode]
    · simp only [namedSections, if_neg hsymtab, k.parts_of_not_symtab hsymtab, List.cons_append,
        List.nil_append, List.map_cons, List.map_nil, length_toList]
  calc k.sections.tail.map (fun s ↦ (s.offset.toNat, s.size.toNat))
      = ((k.namedSections k.names.length).map fun named ↦ (named.2.offset, named.2.size)).map
          fun words ↦ (words.1.toNat, words.2.toNat) := by
        rw [k.map_sections fun _ ↦ rfl, List.map_map]
        rfl
    _ = k.parts.map fun part ↦ (part.1, part.2.length) := by
        -- The words hold the numbers, since every part ends in front of the section table.
        rw [hwords, List.map_map]
        refine List.map_congr_left fun part hpart ↦ ?_
        have hend := k.end_le_of_mem_parts part hpart
        refine Prod.ext (UInt64.toNat_ofNat_of_lt' ?_) (UInt64.toNat_ofNat_of_lt' ?_)
        · exact Nat.lt_of_le_of_lt (Nat.le_trans (Nat.le_add_right _ _) hend) hlt
        · exact Nat.lt_of_le_of_lt (Nat.le_trans (Nat.le_add_left _ _) hend) hlt

/-- A section holds its part. -/
theorem map_contents?_sections : k.sections.tail.map k.image.contents? =
    k.parts.map fun part ↦ some part.2.toByteArray := by
  calc k.sections.tail.map k.image.contents?
      = (k.sections.tail.map fun s ↦ (s.offset.toNat, s.size.toNat)).map
          fun extent ↦ (k.image.slice extent.1 extent.2).toOption := by
        rw [List.map_map]
        rfl
    _ = k.parts.map fun part ↦ some part.2.toByteArray := by
        rw [map_extent_sections hsize, List.map_map]
        refine List.map_congr_left fun part hpart ↦ ?_
        simp only [Function.comp_apply, k.slice_of_mem_parts hpart]
        rfl

/-- The section at an index holds the part at this index, not counting the null entry. -/
theorem contents?_getElem?_sections (index : Nat) :
    k.image.sections[index + 1]?.bind k.image.contents? =
      k.parts[index]?.map fun part ↦ part.2.toByteArray := by
  have hcontents :=
    congrArg (fun contents ↦ contents[index]?.bind id) (map_contents?_sections hsize)
  simp only [List.getElem?_map, Option.bind_map, Function.id_comp] at hcontents
  rw [sections_image hsize, ← List.getElem?_tail, hcontents, Option.map_eq_bind]
  rfl

theorem nameTable?_image : k.image.nameTable? = some k.names.toByteArray := by
  have hlast : k.sections.tail.getLast?.map k.image.contents? =
      some (some k.names.toByteArray) := by
    rw [← List.getLast?_map, map_contents?_sections hsize, parts, List.map_append,
      List.map_singleton, List.getLast?_concat]
  obtain ⟨s, hs, hcontents⟩ := Option.map_eq_some_iff.mp hlast
  rw [Image.nameTable?, sections_image hsize, header_image, toNat_shstrndx,
    ← List.getLast?_eq_getElem?, sections_eq_cons, List.getLast?_cons, hs]
  exact hcontents

theorem map_sectionName?_sections :
    k.image.sections.map (fun s ↦ (k.image.sectionName? s, s.type)) =
      k.outline.map fun titled ↦ (some titled.1.toUTF8, titled.2) := by
  have hname (s : Section) : k.image.sectionName? s =
      StringTable.stringAt? k.names.toByteArray s.name.toNat := by
    rw [Image.sectionName?, nameTable?_image hsize, Option.bind_some]
  have hnull : k.image.sectionName? nullEntry = some "".toUTF8 := by
    rw [hname]
    exact StringTable.stringAt?_zero
  have houtline : k.outline = ("", Section.null) :: k.outline.tail := rfl
  rw [sections_image hsize, sections_eq_cons, houtline, List.map_cons, List.map_cons, hnull]
  refine congrArg _ ?_
  calc k.sections.tail.map (fun s ↦ (k.image.sectionName? s, s.type))
      = (k.namedSections k.names.length).map fun named ↦
          (some named.1.toUTF8, named.2.type) := by
        refine StringTable.map_zipWith_of_forall₂ k.forall₂_namedSections fun _ named hread ↦ ?_
        rw [hname, hread.2]
    _ = k.outline.tail.map fun titled ↦ (some titled.1.toUTF8, titled.2) := by
        rw [← k.map_type_namedSections k.names.length, List.map_map]
        rfl

end Load

end Kernel

end BootNote
