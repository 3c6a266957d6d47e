import BootNote.Proofs.Elf.Codec
import BootNote.Proofs.Elf.StringTable
import BootNote.Proofs.Image.Reuse

/-!
What a symbol lookup answers. A `SymbolTable` of an image is a section that a lookup can use: the
first of its type, with a string table that it links to, both in the image, and records that are
wide enough. A lookup answers with the value of the first record that carries the name, if there is
a usable table and such a record (`findSymbol_eq_some_iff`), and otherwise with nothing. The bytes
elsewhere in the file do not matter (`findSymbol_exact`).
-/

set_option autoImplicit false
set_option relaxedAutoImplicit false

namespace BootNote.Image

open Bytes Elf

/-- The distance between two records of a table, from the size that its section gives. -/
def recordStride (table : Section) : Nat :=
  if table.entsize = 0 then symbolSize else table.entsize.toNat

/-- The symbol table that an image is searched in, with the string table of its names. -/
structure SymbolTable (img : Image) where
  table : Section
  strings : Section
  /-- No section in front of the table is a symbol table. -/
  isFirst : ∃ before after, img.sections = before ++ table :: after ∧
    ∀ s ∈ before, s.type ≠ Section.symtab
  type_table : table.type = Section.symtab
  linked : img.sections[table.link.toNat]? = some strings
  type_strings : strings.type = Section.strtab
  table_le : table.offset.toNat + table.size.toNat ≤ img.size
  strings_le : strings.offset.toNat + strings.size.toNat ≤ img.size
  symbolSize_le : symbolSize ≤ recordStride table

namespace SymbolTable

variable {img : Image} (t : SymbolTable img)

/-- The symbol of a record. -/
def symbol (i : Nat) : Symbol :=
  .decode (toList (Bytes.slice img.bytes (t.table.offset.toNat + i * recordStride t.table)
    symbolSize))

/-- A symbol carries a name: the bytes of the name stand in the string table where the symbol says,
with a NUL behind them that still belongs to the table and none among them. -/
structure IsNamed (name : List UInt8) (s : Symbol) : Prop where
  name_ne_zero : s.name ≠ 0
  inStrings : s.name.toNat + name.length < t.strings.size.toNat
  holds : HoldsAt img.bytes (t.strings.offset.toNat + s.name.toNat) (name ++ [0])
  nul : 0 ∉ name

/-- A record lies in the table as a whole and is the first one that carries a name. -/
structure IsFirst (name : List UInt8) (i : Nat) : Prop where
  inTable : (i + 1) * recordStride t.table ≤ t.table.size.toNat
  named : t.IsNamed name (t.symbol i)
  unnamed : ∀ j < i, ¬ t.IsNamed name (t.symbol j)

/-- The symbols of the records that lie in the table as a whole. -/
def symbols : List Symbol :=
  (List.range (t.table.size.toNat / recordStride t.table)).map t.symbol

/-- The bytes of the string table. -/
def names : ByteArray := Bytes.slice img.bytes t.strings.offset.toNat t.strings.size.toNat

end SymbolTable

/-- A name is found in an image, with a value: the first record that carries the name has it. -/
def Finds (img : Image) (name : String) (value : UInt64) : Prop :=
  ∃ (t : SymbolTable img) (i : Nat), t.IsFirst (toList name.toUTF8) i ∧ (t.symbol i).value = value

variable {img img' : Image}

/-! ### The sections and their bytes -/

theorem symbolSection?_eq_some_iff {table : Section} : img.symbolSection? = some table ↔
    table.type = Section.symtab ∧ ∃ before after, img.sections = before ++ table :: after ∧
      ∀ s ∈ before, s.type ≠ Section.symtab := by
  rw [symbolSection?, List.find?_eq_some_iff_append]
  simp

theorem contents?_eq_some_iff {s : Section} {data : ByteArray} : img.contents? s = some data ↔
    s.offset.toNat + s.size.toNat ≤ img.size ∧
      Bytes.slice img.bytes s.offset.toNat s.size.toNat = data := by
  rw [contents?, Image.slice]
  split_ifs with hin
  · simp [Except.toOption, hin]
  · simp [Except.toOption, hin]

theorem symbolStride?_eq_some_iff {table : Section} {stride : Nat} :
    symbolStride? table.entsize = some stride ↔
      recordStride table = stride ∧ symbolSize ≤ recordStride table := by
  unfold symbolStride? recordStride
  split_ifs with hzero hsmall
  · simp
  · simp [hsmall]
  · simp [Nat.not_lt.mp hsmall]

/-- The records that are counted are those that lie in the table as a whole. -/
theorem lt_count_iff (t : SymbolTable img) {i : Nat} :
    i < t.table.size.toNat / recordStride t.table ↔
      (i + 1) * recordStride t.table ≤ t.table.size.toNat :=
  Nat.le_div_iff_mul_le (Nat.lt_of_lt_of_le (by decide) t.symbolSize_le)

/-- The records of a symbol table are its symbols. -/
theorem map_decode_records (t : SymbolTable img) :
    (Bytes.records (Bytes.slice img.bytes t.table.offset.toNat t.table.size.toNat) 0
      (recordStride t.table) (t.table.size.toNat / recordStride t.table)).map Symbol.decode =
      t.symbols := by
  rw [Bytes.records, List.map_map, SymbolTable.symbols]
  refine List.map_congr_left fun i hi ↦ ?_
  have hstride := t.symbolSize_le
  have hend := (lt_count_iff t).mp (List.mem_range.mp hi)
  rw [Nat.succ_mul] at hend
  rw [Function.comp_apply, SymbolTable.symbol, ← Symbol.decode_take (Nat.le_refl symbolSize),
    Nat.zero_add, take_slice hstride, toList_slice, take_drop_slice]
  exact Nat.le_trans (Nat.add_le_add_left hstride _) hend

/-- A lookup that has a table to use reads its symbols and its names. -/
theorem symbolTable?_eq_some (t : SymbolTable img) :
    img.symbolTable? = some (t.symbols, t.names) := by
  have htable : img.symbolSection? = some t.table :=
    symbolSection?_eq_some_iff.mpr ⟨t.type_table, t.isFirst⟩
  have hstrings : img.stringSection? = some t.strings := by
    rw [stringSection?, htable, Option.bind_some, t.linked, Option.filter_some, t.type_strings]
    rfl
  have hnames : img.contents? t.strings = some t.names :=
    contents?_eq_some_iff.mpr ⟨t.strings_le, rfl⟩
  have hstride : symbolStride? t.table.entsize = some (recordStride t.table) :=
    symbolStride?_eq_some_iff.mpr ⟨rfl, t.symbolSize_le⟩
  have hdata : img.contents? t.table =
      some (Bytes.slice img.bytes t.table.offset.toNat t.table.size.toNat) :=
    contents?_eq_some_iff.mpr ⟨t.table_le, rfl⟩
  rw [symbolTable?_eq]
  simp only [htable, hstrings, hnames, hstride, hdata, Option.bind_some]
  rw [size_slice t.table_le, map_decode_records]

/-- A lookup that reads symbols has a table to use. -/
theorem nonempty_symbolTable {found : List Symbol × ByteArray}
    (h : img.symbolTable? = some found) : Nonempty (SymbolTable img) := by
  rw [symbolTable?_eq] at h
  obtain ⟨table, htable, h⟩ := Option.bind_eq_some_iff.mp h
  obtain ⟨strings, hstrings, h⟩ := Option.bind_eq_some_iff.mp h
  obtain ⟨names, hnames, h⟩ := Option.bind_eq_some_iff.mp h
  obtain ⟨stride, hstride, h⟩ := Option.bind_eq_some_iff.mp h
  obtain ⟨data, hdata, -⟩ := Option.bind_eq_some_iff.mp h
  rw [stringSection?, htable, Option.bind_some, Option.filter_eq_some_iff] at hstrings
  obtain ⟨htype, hfirst⟩ := symbolSection?_eq_some_iff.mp htable
  exact ⟨{
    table := table
    strings := strings
    isFirst := hfirst
    type_table := htype
    linked := hstrings.1
    type_strings := of_decide_eq_true hstrings.2
    table_le := (contents?_eq_some_iff.mp hdata).1
    strings_le := (contents?_eq_some_iff.mp hnames).1
    symbolSize_le := (symbolStride?_eq_some_iff.mp hstride).2 }⟩

/-- A lookup reads the symbols and the names of the table that it can use. -/
theorem symbolTable?_eq_some_iff {symbols : List Symbol} {names : ByteArray} :
    img.symbolTable? = some (symbols, names) ↔
      ∃ t : SymbolTable img, t.symbols = symbols ∧ t.names = names := by
  constructor
  · intro h
    obtain ⟨t⟩ := nonempty_symbolTable h
    exact ⟨t, Prod.mk.inj (Option.some.inj ((symbolTable?_eq_some t).symm.trans h))⟩
  · rintro ⟨t, rfl, rfl⟩
    exact symbolTable?_eq_some t

/-! ### The first symbol of a name -/

/-- A name is read from the string table exactly if the symbol carries it. -/
theorem symbolName?_eq_some_iff (t : SymbolTable img) {name : List UInt8} {s : Symbol} :
    symbolName? t.names s = some name.toByteArray ↔ t.IsNamed name s := by
  rw [symbolName?]
  split_ifs with hzero
  · exact iff_of_false not_false fun named ↦ named.name_ne_zero hzero
  · rw [StringTable.stringAt?_eq_some_iff, SymbolTable.names]
    constructor
    · rintro ⟨holds, hnul⟩
      have hend := holds.add_length_le (by simp)
      rw [size_slice t.strings_le, List.length_append, List.length_singleton] at hend
      have hq : s.name.toNat ≤ t.strings.size.toNat := by omega
      exact ⟨hzero, by omega, ((holdsAt_slice_iff hq).mp holds).1, hnul⟩
    · rintro ⟨-, hin, holds, hnul⟩
      have hq : s.name.toNat ≤ t.strings.size.toNat := by omega
      refine ⟨(holdsAt_slice_iff hq).mpr ⟨holds, ?_⟩, hnul⟩
      rw [List.length_append, List.length_singleton]
      omega

/-- The first record that carries a name is the one that a search through the symbols finds. -/
theorem find?_symbols_eq_some_iff (t : SymbolTable img) {name : List UInt8} {symbol : Symbol} :
    t.symbols.find? (fun s ↦ symbolName? t.names s = some name.toByteArray) = some symbol ↔
      ∃ i, t.IsFirst name i ∧ t.symbol i = symbol := by
  rw [SymbolTable.symbols, List.find?_map, Option.map_eq_some_iff]
  simp only [List.find?_range_eq_some, Function.comp_apply, decide_eq_true_eq, Bool.not_eq_true',
    decide_eq_false_iff_not, symbolName?_eq_some_iff, List.mem_range, lt_count_iff]
  constructor
  · rintro ⟨i, ⟨named, inTable, unnamed⟩, rfl⟩
    exact ⟨i, ⟨inTable, named, unnamed⟩, rfl⟩
  · rintro ⟨i, ⟨inTable, named, unnamed⟩, rfl⟩
    exact ⟨i, ⟨named, inTable, unnamed⟩, rfl⟩

/-- A lookup answers with a value exactly if it is the value of the first record of the name. -/
theorem findSymbol_eq_some_iff {name : String} {value : UInt64} :
    img.findSymbol name = some value ↔ img.Finds name value := by
  have hname : name.toUTF8 = (toList name.toUTF8).toByteArray := (toByteArray_toList _).symm
  rw [findSymbol, Finds]
  generalize toList name.toUTF8 = bytes at hname
  simp only [Option.bind_eq_bind, Option.bind_eq_some_iff, Option.pure_def, Option.some.injEq,
    hname, Prod.exists, symbolTable?_eq_some_iff]
  constructor
  · rintro ⟨symbols, names, ⟨t, rfl, rfl⟩, symbol, hfind, hvalue⟩
    obtain ⟨i, first, rfl⟩ := (find?_symbols_eq_some_iff t).mp hfind
    exact ⟨t, i, first, hvalue⟩
  · rintro ⟨t, i, first, hvalue⟩
    exact ⟨t.symbols, t.names, ⟨t, rfl, rfl⟩, t.symbol i,
      (find?_symbols_eq_some_iff t).mpr ⟨i, first, rfl⟩, hvalue⟩

/-! ### The bytes that a lookup reads -/

/-- Loaded images have the same sections if they have the same section table in the same place. -/
theorem sections_eq_of_fitsIn (fits : img.header.FitsIn img.size)
    (fits' : img'.header.FitsIn img'.size) (hshoff : img'.header.shoff = img.header.shoff)
    (hshnum : img'.header.shnum = img.header.shnum)
    (htable : ∀ i < img.header.shnum.toNat * sectionSize,
      get? img'.bytes (img.header.shoff.toNat + i) = get? img.bytes (img.header.shoff.toNat + i)) :
    img'.sections = img.sections := by
  by_cases hnum : img.header.shnum = 0
  · simp [sections, Bytes.records, hshnum, hnum]
  have hentry := fits.shentsize_eq hnum
  have hentry' := fits'.shentsize_eq (hshnum ▸ hnum)
  rw [sections, sections, hentry, hentry', hshoff, hshnum, records_congr htable]

theorem contents?_congr (hsize : img'.size = img.size) {s : Section}
    (hbytes : ∀ i < s.size.toNat,
      get? img'.bytes (s.offset.toNat + i) = get? img.bytes (s.offset.toNat + i)) :
    img'.contents? s = img.contents? s := by
  rw [contents?, contents?, Image.slice, Image.slice, hsize, slice_congr hbytes]

/-- A lookup answers with a value exactly if the first record of the name has it, and otherwise with
nothing. So two files of one length answer alike if they have the same section table in the same
place and the same bytes in the sections that the lookup reads. -/
theorem findSymbol_exact {bytes : ByteArray} (hsize : bytes.size < capacity)
    (loaded : load bytes = .ok img) :
    (∀ name value, img.findSymbol name = some value ↔ img.Finds name value) ∧
      (∀ name, img.findSymbol name = none ↔ ¬ ∃ value, img.Finds name value) ∧
      ∀ (bytes' : ByteArray) (img' : Image), load bytes' = .ok img' → bytes'.size = bytes.size →
        img'.header.shoff = img.header.shoff → img'.header.shnum = img.header.shnum →
        (∀ i < img.header.shnum.toNat * sectionSize,
          get? bytes' (img.header.shoff.toNat + i) = get? bytes (img.header.shoff.toNat + i)) →
        (∀ s ∈ img.lookupSections, ∀ i < s.size.toNat,
          get? bytes' (s.offset.toNat + i) = get? bytes (s.offset.toNat + i)) →
        ∀ name, img'.findSymbol name = img.findSymbol name := by
  refine ⟨fun name value ↦ findSymbol_eq_some_iff, fun name ↦ ?_, ?_⟩
  · simp only [← findSymbol_eq_some_iff, Option.eq_none_iff_forall_ne_some, not_exists]
  · intro bytes' img' loaded' hlength hshoff hshnum htable hread name
    have hlast := lt_lastOffset hsize
    have hlast' : bytes'.size < lastOffset := hlength ▸ hlast
    obtain ⟨rfl, -⟩ := (load_eq_ok_iff hlast).mp loaded
    obtain ⟨rfl, -⟩ := (load_eq_ok_iff hlast').mp loaded'
    have hsections : img'.sections = img.sections.map id := by
      rw [List.map_id]
      exact sections_eq_of_fitsIn (fitsIn_of_load hlast loaded) (fitsIn_of_load hlast' loaded')
        hshoff hshnum htable
    exact findSymbol_congr hsections (fun _ ↦ rfl) (fun _ ↦ rfl) (fun _ ↦ rfl)
      (fun s hs ↦ contents?_congr hlength (hread s hs)) name

section SymbolParts

variable (gap : UInt8) (a b : Segment)

theorem size_symbolParts : (symbolParts gap a).bytes.size = 440 + gap.toNat := by
  rw [← Parts.bytes_image, ← Image.size, Parts.size_image, sectionStart_symbolParts]
  simp only [symbolParts, List.length_cons, List.length_nil, sectionSize]
  omega

theorem header_symbolParts : (symbolParts gap a).header = (symbolParts gap b).header := rfl

/-- Behind the segment table, the bytes of a file with symbols are the same for every segment. -/
theorem get?_symbolParts {i : Nat} (hi : 120 ≤ i) :
    get? (symbolParts gap a).bytes i = get? (symbolParts gap b).bytes i := by
  have hdrop (s : Segment) : (toList (symbolParts gap s).bytes).drop 120 =
      (symbolParts gap b).body ++ (symbolParts gap b).sections.flatMap Section.encode := by
    have hfront : ((symbolParts gap s).header.encode ++ s.encode).length = 120 := by
      rw [List.length_append, Parts.length_encode_header, Segment.size_encode]
      rfl
    have hbytes : toList (symbolParts gap s).bytes =
        (symbolParts gap s).header.encode ++ s.encode ++ ((symbolParts gap b).body ++
          (symbolParts gap b).sections.flatMap Section.encode) := by
      simp [Parts.bytes, symbolParts]
    rw [hbytes, List.drop_left' hfront]
  obtain ⟨k, rfl⟩ := Nat.exists_eq_add_of_le hi
  rw [get?, get?, ← List.getElem?_drop, ← List.getElem?_drop, hdrop a, hdrop b]

end SymbolParts

/-- Two files that differ in their segments only have the same symbols. -/
theorem findSymbol_wideParts : wideParts.image.Finds "_start" 0x1000 ∧
    ∀ name, filledParts.image.findSymbol name = wideParts.image.findSymbol name := by
  obtain ⟨hsome, -, hcongr⟩ := findSymbol_exact wideParts.size_bytes wideParts.load_image
  refine ⟨(hsome "_start" 0x1000).mp findSymbol_symbolParts, ?_⟩
  have hheader : filledParts.header = wideParts.header := header_symbolParts 56 _ _
  have hlength : filledParts.bytes.size = wideParts.bytes.size :=
    (size_symbolParts 56 _).trans (size_symbolParts 56 _).symm
  have hbytes (pos : Nat) (hpos : 120 ≤ pos) (i : Nat) :
      get? filledParts.bytes (pos + i) = get? wideParts.bytes (pos + i) :=
    get?_symbolParts 56 _ _ (Nat.le_trans hpos (Nat.le_add_right pos i))
  refine hcongr filledParts.bytes filledParts.image filledParts.load_image hlength
    (congrArg Header.shoff hheader) (congrArg Header.shnum hheader) (fun i _ ↦ hbytes _ ?_ i)
    (fun s hs i _ ↦ hbytes _ ?_ i)
  · rw [Parts.header_image, Parts.toNat_shoff, wideParts, sectionStart_symbolParts]
    decide
  · rw [wideParts, lookupSections_symbolParts] at hs
    obtain rfl | hs := List.mem_cons.mp hs
    · decide
    · obtain rfl := List.mem_singleton.mp hs
      decide

end BootNote.Image
