import BootNote.Image.Symbols
import BootNote.Proofs.Image.Front
import BootNote.Proofs.Image.Stretch
import Mathlib.Data.Option.Basic

/-!
Looking up symbols after an injection. A lookup reads two sections, the symbol table and the string
table that it links to (`lookupSections`); two images whose section tables differ in offsets only,
and which have the same bytes in these two sections, answer it alike (`findSymbol_congr`). A symbol
table that was written reads as its symbols (`symbolTable?_of_written`).
-/

set_option autoImplicit false
set_option relaxedAutoImplicit false

namespace BootNote.Image

open Bytes Elf

/-- The section that a lookup takes the symbols from. -/
def symbolSection? (img : Image) : Option Section :=
  img.sections.find? (·.type = Section.symtab)

/-- The section that a lookup takes the names from. -/
def stringSection? (img : Image) : Option Section :=
  img.symbolSection?.bind fun table ↦
    img.sections[table.link.toNat]?.filter (·.type = Section.strtab)

/-- The sections whose bytes a lookup reads. -/
def lookupSections (img : Image) : List Section :=
  img.symbolSection?.toList ++ img.stringSection?.toList

variable {img out : Image}

theorem symbolTable?_eq : img.symbolTable? =
    img.symbolSection?.bind fun table ↦ img.stringSection?.bind fun strings ↦
      (img.contents? strings).bind fun names ↦ (symbolStride? table.entsize).bind fun stride ↦
        (img.contents? table).bind fun data ↦
          some ((Bytes.records data 0 stride (data.size / stride)).map Symbol.decode, names) := by
  simp only [symbolTable?, Option.bind_eq_bind, stringSection?]
  rw [show img.sections.find? (·.type = Section.symtab) = img.symbolSection? from rfl]
  cases img.symbolSection? with
  | none => rfl
  | some table =>
    simp only [Option.bind_some]
    cases img.sections[table.link.toNat]? with
    | none => rfl
    | some strings =>
      by_cases htype : strings.type = Section.strtab
      · simp only [htype, guard, if_true, Option.bind_some, Option.filter_some, decide_true]
        rfl
      · simp only [htype, guard, if_false, Option.bind_some, Option.filter_some, decide_false]
        rfl

/-- A symbol table that was written, with records of the usual size, reads as its symbols. -/
theorem symbolTable?_of_written {table strings : Section} {symbols : List Symbol}
    {names : ByteArray} (htable : img.symbolSection? = some table)
    (hstrings : img.stringSection? = some strings) (hentsize : table.entsize = 24)
    (hdata : img.contents? table = some (symbols.flatMap Symbol.encode).toByteArray)
    (hnames : img.contents? strings = some names) : img.symbolTable? = some (symbols, names) := by
  have hstride : symbolStride? 24 = some symbolSize := rfl
  rw [symbolTable?_eq, htable, hstrings]
  simp only [Option.bind_some, hnames, hentsize, hstride, hdata,
    Symbol.isCodec.map_decode_toByteArray (by decide : 0 < symbolSize)]

theorem symbolSection?_congr {f : Section → Section} (hsections : out.sections = img.sections.map f)
    (htype : ∀ s, (f s).type = s.type) : out.symbolSection? = img.symbolSection?.map f := by
  rw [symbolSection?, symbolSection?, hsections, List.find?_map]
  simp only [Function.comp_def, htype]

theorem stringSection?_congr {f : Section → Section} (hsections : out.sections = img.sections.map f)
    (htype : ∀ s, (f s).type = s.type) (hlink : ∀ s, (f s).link = s.link) :
    out.stringSection? = img.stringSection?.map f := by
  rw [stringSection?, stringSection?, symbolSection?_congr hsections htype, hsections,
    Option.bind_map, Option.map_bind]
  congr 1
  funext table
  simp only [Function.comp_def, hlink, List.getElem?_map, Option.filter_map, htype]

/-- Two images answer alike if their section tables differ in offsets only and the sections that are
read have the same bytes. -/
theorem findSymbol_congr {f : Section → Section} (hsections : out.sections = img.sections.map f)
    (htype : ∀ s, (f s).type = s.type) (hlink : ∀ s, (f s).link = s.link)
    (hentsize : ∀ s, (f s).entsize = s.entsize)
    (hcontents : ∀ s ∈ img.lookupSections, out.contents? (f s) = img.contents? s) (name : String) :
    out.findSymbol name = img.findSymbol name := by
  have htable : out.symbolTable? = img.symbolTable? := by
    rw [symbolTable?_eq, symbolTable?_eq, symbolSection?_congr hsections htype,
      stringSection?_congr hsections htype hlink]
    unfold lookupSections at hcontents
    cases htable : img.symbolSection? with
    | none => rfl
    | some table =>
      cases hstrings : img.stringSection? with
      | none => rfl
      | some strings =>
        simp only [htable, hstrings, Option.toList_some, List.mem_append, List.mem_singleton,
          forall_eq_or_imp, forall_eq] at hcontents
        simp only [Option.map_some, Option.bind_some, hentsize, hcontents]
  rw [findSymbol, findSymbol, htable]

theorem isNull_of_type {s : Section} {type : UInt32} (htype : s.type = type)
    (hne : type ≠ Section.null) : s.isNull = false := by
  rw [Section.isNull, htype]
  exact beq_false_of_ne hne

/-- The sections that a lookup reads are sections of the image, and none of them is null. -/
theorem mem_sections_of_mem_lookupSections {s : Section} (hs : s ∈ img.lookupSections) :
    s ∈ img.sections ∧ s.isNull = false := by
  rw [lookupSections, List.mem_append, Option.mem_toList, Option.mem_toList] at hs
  rcases hs with htable | hstrings
  · refine ⟨List.mem_of_find?_eq_some htable, isNull_of_type ?_ (by decide : Section.symtab ≠ _)⟩
    simpa using List.find?_some htable
  · obtain ⟨table, -, hlinked⟩ := Option.bind_eq_some_iff.mp hstrings
    obtain ⟨hsome, htype⟩ := Option.filter_eq_some_iff.mp hlinked
    refine ⟨List.mem_of_getElem? hsome, isNull_of_type ?_ (by decide : Section.strtab ≠ _)⟩
    simpa using htype

section Injected

variable (note : Note) {strategy : Strategy} {available : Nat}
  (fits : img.header.FitsIn img.size) (hsize : img.size < lastOffset)
  (found : img.findRoom = .ok (strategy, available)) (checked : img.checkFor strategy = .ok ())
  (apart : img.header.Apart)

include fits hsize found checked

theorem contents?_injected {s : Section} (hs : s ∈ img.lookupSections)
    (clear : img.IsClear s.offset.toNat s.size.toNat)
    (beside : strategy = .reusedPadding → img.IsBesideEntry s.offset.toNat s.size.toNat) :
    ((img.roomFor strategy).withNote note).contents? (s.moved img.entryOffset strategy.growth) =
      img.contents? s := by
  obtain ⟨hmem, hnull⟩ := mem_sections_of_mem_lookupSections hs
  rw [contents?, contents?, Section.moved_size,
    slice_injected_section note fits hsize found checked hmem hnull clear beside]

include apart

/-- An injection keeps the answer of every lookup, if the two sections that a lookup reads are clear
and the new entry takes the place of none of their bytes. -/
theorem findSymbol_injected
    (clear : ∀ s ∈ img.lookupSections, img.IsClear s.offset.toNat s.size.toNat)
    (beside : strategy = .reusedPadding →
      ∀ s ∈ img.lookupSections, img.IsBesideEntry s.offset.toNat s.size.toNat) (name : String) :
    ((img.roomFor strategy).withNote note).findSymbol name = img.findSymbol name :=
  findSymbol_congr (sections_injected note fits hsize found checked apart)
    (fun s ↦ s.moved_type) (fun s ↦ s.moved_link) (fun s ↦ s.moved_entsize)
    (fun s hs ↦ contents?_injected note fits hsize found checked hs (clear s hs)
      fun reuses ↦ beside reuses s hs) name

end Injected

/-! ### Files with a symbol table -/

/-- A symbol table whose first 56 bytes are zero. Its last symbol alone has a name, which starts
inside a longer string. -/
def symbols : List Symbol :=
  [.undefined, .undefined, .undefined, ⟨4, Symbol.globalFunction, 0, 0, 0x1000, 0⟩]

/-- The bytes of the string `pvh_start`. -/
def pvhStart : List UInt8 := [0x70, 0x76, 0x68, 0x5f, 0x73, 0x74, 0x61, 0x72, 0x74]

def symbolTable (gap : UInt8) : Section :=
  ⟨0, Section.symtab, 0, 0, .ofNat (120 + gap.toNat), 96, 2, 0, 8, 24⟩

def stringTable (gap : UInt8) : Section :=
  ⟨0, Section.strtab, 0, 0, .ofNat (216 + gap.toNat), 11, 0, 0, 1, 0⟩

/-- The bytes of the symbols, of their names and of a note. -/
def symbolBytes : List UInt8 :=
  symbols.flatMap Symbol.encode ++ StringTable.encode [pvhStart] ++ [0] ++ Note.encode ⟨0x2000⟩

theorem length_symbolBytes : symbolBytes.length = 128 := by
  simp [symbolBytes, symbols, StringTable.encode, pvhStart, Note.size]

theorem size_symbolBody_lt (gap : UInt8) : headerSize + 1 * segmentSize +
    (List.replicate gap.toNat 0 ++ symbolBytes).length + 3 * sectionSize < capacity := by
  have hgap := gap.toNat_lt
  simp only [List.length_append, List.length_replicate, length_symbolBytes, headerSize, segmentSize,
    sectionSize, capacity]
  omega

/-- A file with one segment and, behind a gap, symbols, their names and a note. -/
def symbolParts (gap : UInt8) (segment : Segment) : Parts where
  segments := [segment]
  body := List.replicate gap.toNat 0 ++ symbolBytes
  sections := [⟨0, Section.null, 0, 0, 0, 0, 0, 0, 0, 0⟩, symbolTable gap, stringTable gap]
  size_lt := size_symbolBody_lt gap

/-- The segment of the note of such a file. -/
def noteSegment (gap : Nat) : Segment := .ofNotes (228 + gap) Note.size Note.alignment

section SymbolParts

variable (gap : UInt8) (segment : Segment)

theorem bodyStart_symbolParts : (symbolParts gap segment).bodyStart = 120 := rfl

theorem sectionStart_symbolParts :
    (symbolParts gap segment).sectionStart = 248 + gap.toNat := by
  rw [Parts.sectionStart, bodyStart_symbolParts, symbolParts, List.length_append,
    List.length_replicate, length_symbolBytes]
  omega

theorem toNat_offset_symbolTable : (symbolTable gap).offset.toNat = 120 + gap.toNat := by
  have hgap := gap.toNat_lt
  exact UInt64.toNat_ofNat_of_lt' (by rw [UInt64.size]; omega)

theorem toNat_offset_stringTable : (stringTable gap).offset.toNat = 216 + gap.toNat := by
  have hgap := gap.toNat_lt
  exact UInt64.toNat_ofNat_of_lt' (by rw [UInt64.size]; omega)

variable {gap segment}

theorem symbolSection?_symbolParts :
    (symbolParts gap segment).image.symbolSection? = some (symbolTable gap) := by
  rw [symbolSection?, Parts.sections_image]
  rfl

theorem stringSection?_symbolParts :
    (symbolParts gap segment).image.stringSection? = some (stringTable gap) := by
  rw [stringSection?, symbolSection?_symbolParts, Parts.sections_image]
  rfl

theorem lookupSections_symbolParts : (symbolParts gap segment).image.lookupSections =
    [symbolTable gap, stringTable gap] := by
  rw [lookupSections, symbolSection?_symbolParts, stringSection?_symbolParts]
  rfl

theorem contents?_symbolParts {s : Section} (pos : Nat)
    (hpos : s.offset.toNat = 120 + gap.toNat + pos) (hend : pos + s.size.toNat ≤ 128) :
    (symbolParts gap segment).image.contents? s =
      some ((symbolBytes.drop pos).take s.size.toNat).toByteArray := by
  have hbody : (symbolParts gap segment).body = List.replicate gap.toNat 0 ++ symbolBytes := rfl
  have hdrop : (List.replicate gap.toNat 0 ++ symbolBytes).drop (gap.toNat + pos) =
      symbolBytes.drop pos := by
    simp [List.drop_append]
  rw [contents?, hpos, Nat.add_assoc, ← bodyStart_symbolParts gap segment, Parts.slice_image,
    hbody, hdrop]
  · rfl
  · rw [hbody, List.length_append, List.length_replicate, length_symbolBytes]
    omega

theorem contents?_symbolTable : (symbolParts gap segment).image.contents? (symbolTable gap) =
    some (symbols.flatMap Symbol.encode).toByteArray :=
  contents?_symbolParts 0 (toNat_offset_symbolTable gap) (by decide : 96 ≤ 128)

theorem contents?_stringTable : (symbolParts gap segment).image.contents? (stringTable gap) =
    some (StringTable.encode [pvhStart]).toByteArray :=
  contents?_symbolParts 96
    ((toNat_offset_stringTable gap).trans (Nat.add_right_comm 120 96 gap.toNat))
    (by decide : 96 + 11 ≤ 128)

theorem symbolTable?_symbolParts : (symbolParts gap segment).image.symbolTable? =
    some (symbols, (StringTable.encode [pvhStart]).toByteArray) :=
  symbolTable?_of_written symbolSection?_symbolParts stringSection?_symbolParts rfl
    contents?_symbolTable contents?_stringTable

theorem findSymbol_symbolParts :
    (symbolParts gap segment).image.findSymbol "_start" = some 0x1000 := by
  rw [findSymbol, symbolTable?_symbolParts]
  decide +kernel

theorem isClear_symbolParts : ∀ s ∈ (symbolParts gap segment).image.lookupSections,
    (symbolParts gap segment).image.IsClear s.offset.toNat s.size.toNat := by
  rw [lookupSections_symbolParts]
  simp only [List.forall_mem_cons, List.not_mem_nil, false_implies, implies_true, and_true,
    toNat_offset_symbolTable, toNat_offset_stringTable]
  refine ⟨Parts.isClear_image _ ?_ ?_, Parts.isClear_image _ ?_ ?_⟩
  all_goals
    simp only [bodyStart_symbolParts, sectionStart_symbolParts, symbolTable, stringTable,
      UInt64.reduceToNat]
    omega

end SymbolParts

/-- A file with a gap that can hold one more entry. -/
def wideParts : Parts := symbolParts 56 (noteSegment 56)

theorem findRoom_wideParts : wideParts.image.findRoom = .ok (.shifted, 56) := by
  refine wideParts.findRoom_of_gap (by decide) ?_ (by decide)
  rw [Parts.firstContent_image]
  decide +kernel

theorem checkFor_wideParts : wideParts.image.checkFor .shifted = .ok () :=
  wideParts.checkFor_image (by decide +kernel) (by decide +kernel)

def wideInjection : Injection := ⟨.shifted, 56, 120, 552, 1⟩

/-- The file after a note is added. -/
def wideResult : Image := (wideParts.image.roomFor .shifted).withNote ⟨0x1000⟩

theorem inject_wideParts :
    (inject ⟨0x1000⟩).effect wideParts.image = (.ok wideInjection, wideResult) :=
  wideParts.inject_image _ findRoom_wideParts checkFor_wideParts rfl (by decide +kernel) rfl

/-! ### Sections and lookups in the patched file -/

/-- An injection that moves content keeps every section whose bytes are content: its entry stays in
its place of the section table, with the offset moved, and says where the same bytes are. Therefore
it keeps the answer of every lookup whose two sections are of this kind. -/
theorem sections_kept_of_shifted {bytes : ByteArray} {note : Note} {injection : Injection}
    (hsize : bytes.size < capacity) (loaded : load bytes = .ok img) (apart : img.header.Apart)
    (injected : (inject note).effect img = (.ok injection, out))
    (moves : injection.strategy = .shifted) :
    load out.bytes = .ok out ∧
      (∀ (index : Nat) (s : Section), img.sections[index]? = some s → s.isNull = false →
        img.IsClear s.offset.toNat s.size.toNat →
        ∃ s' data, out.sections[index]? = some s' ∧
          s' = { s with offset := moved img.entryOffset segmentSize s.offset } ∧
          img.slice s.offset.toNat s.size.toNat = .ok data ∧
          out.slice s'.offset.toNat s'.size.toNat = .ok data) ∧
      ((∀ s ∈ img.lookupSections, img.IsClear s.offset.toNat s.size.toNat) →
        ∀ name : String, out.findSymbol name = img.findSymbol name) := by
  obtain ⟨loaded, fits, hlast, found, checked, rfl, hsize'⟩ := injects_of_load hsize loaded injected
  rw [moves] at found checked hsize' ⊢
  refine ⟨?_, fun index s hs hnull clear ↦ ?_, fun clear name ↦ ?_⟩
  · exact (load_injected_iff fits hlast found checked loaded hsize').mpr
      (not_spoilsHeader_of_apart fits hlast apart)
  · have hmem := List.mem_of_getElem? hs
    have hslice := slice_injected_section note fits hlast found checked hmem hnull clear
      (by rintro ⟨⟩)
    have hmoved : s.moved img.entryOffset segmentSize =
        { s with offset := moved img.entryOffset segmentSize s.offset } := by
      rw [Section.moved, if_neg (by simp [hnull])]
    refine ⟨_, Bytes.slice img.bytes s.offset.toNat s.size.toNat, ?_, rfl, if_pos clear.le_size, ?_⟩
    · rw [sections_injected note fits hlast found checked apart, List.getElem?_map, hs]
      exact congrArg some hmoved
    · rw [← hmoved, Section.moved_size]
      exact hslice.trans (if_pos clear.le_size)
  · exact findSymbol_injected note fits hlast found checked apart clear (by rintro ⟨⟩) name

theorem sections_kept_wideParts : load wideResult.bytes = .ok wideResult ∧
    (∃ s' data, wideResult.sections[2]? = some s' ∧
      s' = ⟨0, Section.strtab, 0, 0, moved 120 segmentSize 272, 11, 0, 0, 1, 0⟩ ∧
      wideParts.image.slice 272 11 = .ok data ∧
      wideResult.slice s'.offset.toNat s'.size.toNat = .ok data) ∧
    wideResult.findSymbol "_start" = wideParts.image.findSymbol "_start" := by
  obtain ⟨loaded, sections, lookups⟩ := sections_kept_of_shifted wideParts.size_bytes
    wideParts.load_image wideParts.apart_header inject_wideParts rfl
  refine ⟨loaded, ?_, lookups isClear_symbolParts "_start"⟩
  have h := sections 2 (stringTable 56) (by rw [Parts.sections_image]; rfl) rfl
    (isClear_symbolParts _ (by rw [lookupSections_symbolParts]; simp))
  rw [Parts.entryOffset_image, show wideParts.bodyStart = 120 from rfl] at h
  exact h

end BootNote.Image
