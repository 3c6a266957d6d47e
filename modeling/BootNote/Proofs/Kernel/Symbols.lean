import BootNote.Proofs.Image.Lookup
import BootNote.Proofs.Kernel.Sections

/-!
Looking up symbols in a file of the generator. The symbol table of the loaded file is the one that
was written (`symbolTable?_image`), and what a lookup sees of its records is the names and values of
the symbols (`map_records`). The answer is therefore that of the list of symbols: the value of the
first one of the name, or none if the symbols are left out (`load_findSymbol`).
-/

set_option autoImplicit false
set_option relaxedAutoImplicit false

namespace BootNote.Kernel

open Bytes Elf

variable (k : Kernel)

/-! ### Records -/

/-- What a lookup sees of the records: the names and the values of the symbols, behind a record
without a name. -/
theorem map_records (hnul : ∀ symbol ∈ k.symbols, 0 ∉ toList symbol.1.toUTF8)
    (hstrings : k.strings.length < UInt32.size) :
    k.records.map (fun s ↦ (Image.symbolName? k.strings.toByteArray s, s.value)) =
      (none, 0) :: k.symbols.map fun symbol ↦ (some symbol.1.toUTF8, symbol.2) := by
  have hnames : ∀ string ∈ k.symbolNames, 0 ∉ string := by
    intro string hstring
    obtain ⟨symbol, hsymbol, rfl⟩ := List.mem_map.mp hstring
    exact hnul symbol hsymbol
  have hforall := StringTable.forall₂_fields Prod.fst k.symbols rfl hnames hstrings
  rw [records, List.map_cons]
  refine congrArg₂ List.cons rfl
    (StringTable.map_zipWith_of_forall₂ hforall fun pos symbol ⟨hpos, hread⟩ ↦ ?_)
  refine Prod.ext ?_ rfl
  rw [Image.symbolName?, if_neg hpos]
  exact hread

/-- The first record of a name is that of the first symbol of the name. -/
theorem find?_records (hnul : ∀ symbol ∈ k.symbols, 0 ∉ toList symbol.1.toUTF8)
    (hstrings : k.strings.length < UInt32.size) (name : String) :
    (k.records.find? fun s ↦ Image.symbolName? k.strings.toByteArray s = some name.toUTF8).map
        (·.value) =
      (k.symbols.find? (·.1 = name)).map Prod.snd := by
  have hname (symbol : String × UInt64) :
      some symbol.1.toUTF8 = some name.toUTF8 ↔ symbol.1 = name := by
    rw [Option.some_inj]
    exact String.toByteArray_inj
  calc (k.records.find? fun s ↦ Image.symbolName? k.strings.toByteArray s = some name.toUTF8).map
        (·.value)
      = ((k.records.map fun s ↦ (Image.symbolName? k.strings.toByteArray s, s.value)).find?
          (·.1 = some name.toUTF8)).map Prod.snd := by
        rw [List.find?_map, Option.map_map]
        rfl
    _ = ((k.symbols.map fun symbol ↦ (some symbol.1.toUTF8, symbol.2)).find?
          (·.1 = some name.toUTF8)).map Prod.snd := by
        rw [k.map_records hnul hstrings, List.find?_cons_of_neg (by simp)]
    _ = (k.symbols.find? (·.1 = name)).map Prod.snd := by
        rw [List.find?_map, Option.map_map]
        simp only [Function.comp_def, hname]

/-! ### The symbol table -/

theorem map_type_sections : k.sections.map (·.type) = k.outline.map Prod.snd := by
  have houtline : k.outline = ("", Section.null) :: k.outline.tail := rfl
  rw [sections_eq_cons, houtline, List.map_cons, List.map_cons, k.map_sections fun _ ↦ rfl,
    ← k.map_type_namedSections k.names.length, List.map_map]
  rfl

section Load

variable {k} (hsize : k.bytes.size < capacity)

include hsize

theorem symbolSection?_image : k.image.symbolSection? =
    if k.symtab then k.image.sections[3]? else none := by
  have hindex : k.sections.findIdx? (·.type = Section.symtab) =
      if k.symtab then some 3 else none := by
    have hmap := List.findIdx?_map (f := Section.type) (l := k.sections)
      (p := fun type ↦ decide (type = Section.symtab))
    rw [map_type_sections] at hmap
    refine hmap.symm.trans ?_
    rw [outline]
    split_ifs <;> rfl
  rw [Image.symbolSection?, sections_image hsize, List.find?_eq_bind_findIdx?_getElem?, hindex]
  split_ifs <;> rfl

/-- The symbol table is the third section behind the null one. -/
theorem exists_symbolSection (hsymtab : k.symtab = true) : ∃ table,
    k.image.sections[3]? = some table ∧ table.link = 4 ∧ table.entsize = 24 := by
  have hentry : k.sections.tail[2]?.map (fun s ↦ (s.link, s.entsize)) = some (4, 24) := by
    rw [← List.getElem?_map, k.map_sections fun _ ↦ rfl, namedSections, if_pos hsymtab]
    rfl
  obtain ⟨table, htable, hfields⟩ := Option.map_eq_some_iff.mp hentry
  rw [sections_image hsize, ← List.getElem?_tail]
  exact ⟨table, htable, Prod.ext_iff.mp hfields⟩

/-- The symbol table links to its strings, which are the section behind it. -/
theorem exists_stringSection (hsymtab : k.symtab = true) : ∃ strings,
    k.image.sections[4]? = some strings ∧ strings.type = Section.strtab := by
  have hentry : k.sections.tail[3]?.map (·.type) = some Section.strtab := by
    rw [← List.getElem?_map, k.map_sections fun _ ↦ rfl, namedSections, if_pos hsymtab]
    rfl
  rw [sections_image hsize, ← List.getElem?_tail]
  exact Option.map_eq_some_iff.mp hentry

theorem symbolTable?_image (hsymtab : k.symtab = true) :
    k.image.symbolTable? = some (k.records, k.strings.toByteArray) := by
  obtain ⟨table, htable, hlink, hentsize⟩ := exists_symbolSection hsize hsymtab
  obtain ⟨strings, hstrings, htype⟩ := exists_stringSection hsize hsymtab
  have hsymbolSection : k.image.symbolSection? = some table := by
    rw [symbolSection?_image hsize, if_pos hsymtab, htable]
  have hstringSection : k.image.stringSection? = some strings := by
    rw [Image.stringSection?, hsymbolSection, Option.bind_some, hlink]
    show k.image.sections[4]?.filter _ = _
    rw [hstrings, Option.filter_some, if_pos (decide_eq_true htype)]
  have hdata : k.image.contents? table = some (k.records.flatMap Symbol.encode).toByteArray := by
    have hpart := contents?_getElem?_sections hsize 2
    rw [htable, k.parts_of_symtab hsymtab] at hpart
    exact hpart
  have hnames : k.image.contents? strings = some k.strings.toByteArray := by
    have hpart := contents?_getElem?_sections hsize 3
    rw [hstrings, k.parts_of_symtab hsymtab] at hpart
    exact hpart
  exact Image.symbolTable?_of_written hsymbolSection hstringSection hentsize hdata hnames

/-- A lookup in the file of a kernel is a lookup in its list of symbols. -/
theorem findSymbol_image (hnul : ∀ symbol ∈ k.symbols, 0 ∉ toList symbol.1.toUTF8)
    (hstrings : k.strings.length < UInt32.size) (name : String) :
    k.image.findSymbol name =
      if k.symtab then (k.symbols.find? (·.1 = name)).map Prod.snd else none := by
  split_ifs with hsymtab
  · rw [← k.find?_records hnul hstrings, Image.findSymbol, symbolTable?_image hsize hsymtab,
      Option.map_eq_bind]
    rfl
  · rw [Image.findSymbol, Image.symbolTable?_eq, symbolSection?_image hsize, if_neg hsymtab]
    rfl

end Load

/-- For any kernel whose symbol names have no NUL, the file that is made from it loads, and looking
up a name in it gives the value of the first symbol that has exactly this name, if there is one and
the symbols are not left out. -/
theorem load_findSymbol (hnul : ∀ symbol ∈ k.symbols, 0 ∉ toList symbol.1.toUTF8)
    (hstrings : k.strings.length < 2 ^ 32) (hsize : k.bytes.size < capacity) :
    ∃ img, Image.load k.bytes = .ok img ∧ ∀ name, img.findSymbol name =
      if k.symtab then (k.symbols.find? (·.1 = name)).map Prod.snd else none :=
  ⟨k.image, load_bytes hsize, fun name ↦ findSymbol_image hsize hnul hstrings name⟩

/-- Of two symbols of one name the first counts, the empty name is a name like any other, and a name
that only begins like a symbol's is not found. -/
theorem findSymbol_sampleKernel : ∃ img, Image.load sampleKernel.bytes = .ok img ∧
    img.findSymbol "_start" = some 0x100000 ∧ img.findSymbol "start" = some 0x100001 ∧
      img.findSymbol "" = some 0x100002 ∧ img.findSymbol "_star" = none := by
  obtain ⟨img, loaded, hfind⟩ := sampleKernel.load_findSymbol (by decide +kernel)
    (by decide +kernel) size_sampleKernel
  exact ⟨img, loaded, hfind _, hfind _, hfind _, hfind _⟩

end BootNote.Kernel
