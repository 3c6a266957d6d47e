import BootNote.Proofs.Image.Lookup

/-!
Looking up symbols after an entry took the place of zero bytes. The bytes behind the segment table
count as padding if they are zero and no part of the section table. They may be a part of the symbol
table all the same, whose first record is zero. Then the entry is read as a symbol: its type is
where the name starts, and its offset is the value (`findSymbol_of_table_at_entry`). If the symbol
table and its names lie beside the entry, every lookup keeps its answer
(`findSymbol_eq_of_reusedPadding`).
-/

set_option autoImplicit false
set_option relaxedAutoImplicit false

namespace BootNote.Image

open Bytes Elf

variable {img out : Image}

/-! ### The first symbol of a table -/

theorem symbolSize_le_of_symbolStride? {entsize : UInt64} {stride : Nat}
    (h : symbolStride? entsize = some stride) : symbolSize ≤ stride := by
  unfold symbolStride? at h
  split_ifs at h with hzero hsmall
  · obtain rfl := Option.some.inj h
    exact Nat.le_refl _
  · obtain rfl := Option.some.inj h
    exact Nat.not_lt.mp hsmall

/-- If the first symbol has the name that is looked for, its value is the answer. -/
theorem findSymbol_eq_of_first {table strings : Section} {data names : ByteArray} {stride : Nat}
    {name : String} (htable : img.symbolSection? = some table)
    (hstrings : img.stringSection? = some strings) (hnames : img.contents? strings = some names)
    (hstride : symbolStride? table.entsize = some stride)
    (hdata : img.contents? table = some data) (hcount : stride ≤ data.size)
    (hname : symbolName? names (Symbol.decode (toList (Bytes.slice data 0 stride))) =
      some name.toUTF8) :
    img.findSymbol name = some (Symbol.decode (toList (Bytes.slice data 0 stride))).value := by
  have hwide := symbolSize_le_of_symbolStride? hstride
  rw [symbolSize] at hwide
  obtain ⟨count, hrecords⟩ : ∃ count, data.size / stride = count + 1 :=
    Nat.exists_eq_succ_of_ne_zero (Nat.ne_of_gt (Nat.div_pos hcount (by omega)))
  rw [findSymbol, symbolTable?_eq, htable, hstrings]
  simp only [Option.bind_some, hnames, hstride, hdata, hrecords, Option.bind_eq_bind, Bytes.records,
    List.range_succ_eq_map, List.map_cons, Nat.zero_mul, Nat.add_zero]
  rw [List.find?_cons_of_pos (by simpa using hname), Option.bind_some]
  rfl

/-! ### A symbol table in the place of the entry -/

section Reused

variable (note : Note) {available : Nat} (fits : img.header.FitsIn img.size)
  (hsize : img.size < lastOffset) (found : img.findRoom = .ok (.reusedPadding, available))

include fits hsize found

/-- The first record of a table that starts at the new entry is read from the entry: where the name
starts, the type of the segment stands, and where the value stands, its offset. -/
theorem decode_record_at_entry {len stride : Nat} (hlen : stride ≤ len)
    (hstride : symbolSize ≤ stride) :
    let record := toList (Bytes.slice (Bytes.slice
      ((img.roomFor .reusedPadding).withNote note).bytes img.entryOffset len) 0 stride)
    (Symbol.decode record).name = Segment.note ∧
      (Symbol.decode record).value = .ofNat (alignUp img.size Note.alignment) := by
  intro record
  rw [symbolSize] at hstride
  have hentry : toList (Bytes.slice ((img.roomFor .reusedPadding).withNote note).bytes
      img.entryOffset segmentSize) = img.noteEntry.encode :=
    slice_injected_entry note fits hsize found rfl
  have hfield (k n : Nat) (hk : k + n ≤ symbolSize) :
      (record.drop k).take n = (img.noteEntry.encode.drop k).take n := by
    rw [symbolSize] at hk
    rw [take_drop_slice (by omega), toList_slice, Nat.zero_add, take_drop_slice (by omega),
      ← hentry, take_drop_slice (by rw [segmentSize]; omega)]
  constructor
  · calc (Symbol.decode record).name = Word.word img.noteEntry.encode 0 := by
          rw [Word.word, ← hfield 0 4 (by decide)]
          rfl
      _ = Segment.note := by
          rw [← Segment.type_decode, Segment.decode_encode]
          rfl
  · calc (Symbol.decode record).value = Word.long img.noteEntry.encode 8 := by
          rw [Word.long, ← hfield 8 8 (by decide)]
          rfl
      _ = .ofNat (alignUp img.size Note.alignment) := by
          rw [← Segment.offset_decode, Segment.decode_encode]
          rfl

/-- A symbol table that starts where the new entry is written gains a first symbol by it. The name
of this symbol is the string at 4, the type of a segment of notes, and its value is the offset of
the note. -/
theorem findSymbol_of_table_at_entry (apart : img.header.Apart) {table strings : Section}
    {names : ByteArray} {stride : Nat} {name : String} (htable : img.symbolSection? = some table)
    (hstart : table.offset.toNat = img.entryOffset)
    (hend : table.offset.toNat + table.size.toNat ≤ img.size)
    (hstride : symbolStride? table.entsize = some stride) (hcount : stride ≤ table.size.toNat)
    (hstrings : img.stringSection? = some strings) (hnames : img.contents? strings = some names)
    (clear : img.IsClear strings.offset.toNat strings.size.toNat)
    (beside : img.IsBesideEntry strings.offset.toNat strings.size.toNat)
    (hname : StringTable.stringAt? names 4 = some name.toUTF8) :
    ((img.roomFor .reusedPadding).withNote note).findSymbol name =
      some (.ofNat (alignUp img.size Note.alignment)) := by
  have hsections : ((img.roomFor .reusedPadding).withNote note).sections = img.sections := by
    rw [sections_injected note fits hsize found rfl apart]
    simp [Strategy.growth]
  have htable' : ((img.roomFor .reusedPadding).withNote note).symbolSection? = some table := by
    rw [symbolSection?, hsections]
    exact htable
  have hstrings' : ((img.roomFor .reusedPadding).withNote note).stringSection? = some strings := by
    rw [stringSection?, symbolSection?, hsections]
    exact hstrings
  have hread : ((img.roomFor .reusedPadding).withNote note).contents? strings = some names := by
    have hmem : strings ∈ img.lookupSections := by simp [lookupSections, hstrings]
    rw [← hnames, ← contents?_injected note fits hsize found rfl hmem clear fun _ ↦ beside]
    simp [Strategy.growth]
  have hgrown := size_add_growth_le note fits hsize found rfl
  have hin : img.entryOffset + table.size.toNat ≤
      ((img.roomFor .reusedPadding).withNote note).size := by
    rw [← hstart]
    exact Nat.le_trans hend (Nat.le_trans (Nat.le_add_right _ _) hgrown)
  have hdata : ((img.roomFor .reusedPadding).withNote note).contents? table =
      some (Bytes.slice ((img.roomFor .reusedPadding).withNote note).bytes img.entryOffset
        table.size.toNat) := by
    rw [contents?, Image.slice, hstart, if_pos hin]
    rfl
  obtain ⟨hfirst, hvalue⟩ := decode_record_at_entry note fits hsize found hcount
    (symbolSize_le_of_symbolStride? hstride)
  rw [← hvalue]
  refine findSymbol_eq_of_first htable' hstrings' hread hstride hdata ?_ ?_
  · rw [size_slice hin]
    exact hcount
  · rw [symbolName?, hfirst, if_neg (by decide)]
    exact hname

end Reused

/-! ### Two files without room for an entry -/

/-- A file whose symbol table follows the segment table directly. -/
def closeParts : Parts := symbolParts 0 (noteSegment 0)

/-- A file whose gap is the start of a segment. -/
def filledParts : Parts :=
  symbolParts 56 { sampleSegment with offset := 120, filesz := 128, memsz := 128 }

theorem findRoom_closeParts : closeParts.image.findRoom = .ok (.reusedPadding, 0) := by
  refine closeParts.findRoom_of_zeros (by decide) ?_ (by decide) (by decide +kernel)
    (by decide +kernel)
  rw [Parts.firstContent_image]
  decide +kernel

theorem findRoom_filledParts : filledParts.image.findRoom = .ok (.reusedPadding, 0) := by
  refine filledParts.findRoom_of_zeros (by decide) ?_ (by decide) (by decide +kernel)
    (by decide +kernel)
  rw [Parts.firstContent_image]
  decide +kernel

def closeInjection : Injection := ⟨.reusedPadding, 0, 120, 440, 1⟩

def filledInjection : Injection := ⟨.reusedPadding, 0, 120, 496, 1⟩

/-- The files after a note is added. -/
def closeResult : Image := (closeParts.image.roomFor .reusedPadding).withNote ⟨0x1000⟩

def filledResult : Image := (filledParts.image.roomFor .reusedPadding).withNote ⟨0x1000⟩

theorem inject_closeParts :
    (inject ⟨0x1000⟩).effect closeParts.image = (.ok closeInjection, closeResult) :=
  closeParts.inject_image _ findRoom_closeParts rfl rfl (by decide +kernel) rfl

theorem inject_filledParts :
    (inject ⟨0x1000⟩).effect filledParts.image = (.ok filledInjection, filledResult) :=
  filledParts.inject_image _ findRoom_filledParts rfl rfl (by decide +kernel) rfl

/-! ### Lookups in the patched file -/

/-- An injection that reuses padding keeps the answer of every lookup, if the entry takes the place
of no byte of the symbol table and of the string table that it links to. -/
theorem findSymbol_eq_of_reusedPadding {bytes : ByteArray} {note : Note} {injection : Injection}
    (hsize : bytes.size < capacity) (loaded : load bytes = .ok img) (apart : img.header.Apart)
    (clear : ∀ s ∈ img.lookupSections, img.IsClear s.offset.toNat s.size.toNat)
    (beside : ∀ s ∈ img.lookupSections, img.IsBesideEntry s.offset.toNat s.size.toNat)
    (injected : (inject note).effect img = (.ok injection, out))
    (reuses : injection.strategy = .reusedPadding) (name : String) :
    out.findSymbol name = img.findSymbol name := by
  obtain ⟨-, fits, hlast, found, -, rfl, -⟩ := injects_of_load hsize loaded injected
  rw [reuses] at found ⊢
  exact findSymbol_injected note fits hlast found rfl apart clear (fun _ ↦ beside) name

theorem findSymbol_filledResult :
    filledResult.findSymbol "_start" = filledParts.image.findSymbol "_start" := by
  refine findSymbol_eq_of_reusedPadding filledParts.size_bytes filledParts.load_image
    filledParts.apart_header isClear_symbolParts ?_ inject_filledParts rfl "_start"
  rw [filledParts, lookupSections_symbolParts]
  simp only [List.forall_mem_cons, List.not_mem_nil, false_implies, implies_true, and_true]
  exact ⟨isBesideEntry_of_le (by rw [Parts.entryOffset_image]; decide),
    isBesideEntry_of_le (by rw [Parts.entryOffset_image]; decide)⟩

/-- The symbol table of the file stands where the entry is written. After that, the name of its
first symbol is `_start`, which starts at 4 in the string table. -/
theorem findSymbol_closeResult : load closeParts.bytes = .ok closeParts.image ∧
    closeParts.image.header.Apart ∧
    (∀ s ∈ closeParts.image.lookupSections, closeParts.image.IsClear s.offset.toNat s.size.toNat) ∧
    (inject ⟨0x1000⟩).effect closeParts.image = (.ok closeInjection, closeResult) ∧
    closeInjection.strategy = .reusedPadding ∧
    closeParts.image.findSymbol "_start" = some 0x1000 ∧
    closeResult.findSymbol "_start" = some 440 := by
  have clear : ∀ s ∈ closeParts.image.lookupSections,
      closeParts.image.IsClear s.offset.toNat s.size.toNat := isClear_symbolParts
  refine ⟨closeParts.load_image, closeParts.apart_header, clear, inject_closeParts, rfl,
    findSymbol_symbolParts, ?_⟩
  have hsize : alignUp closeParts.image.size Note.alignment = 440 := by
    rw [Parts.size_image]
    decide +kernel
  have hlookup : closeResult.findSymbol "_start" =
      some (.ofNat (alignUp closeParts.image.size Note.alignment)) := by
    refine findSymbol_of_table_at_entry ⟨0x1000⟩ closeParts.fitsIn_header
      closeParts.size_image_lt findRoom_closeParts closeParts.apart_header
      symbolSection?_symbolParts ?_ ?_ (rfl : symbolStride? 24 = some 24) (by decide)
      stringSection?_symbolParts contents?_stringTable (clear _ ?_) (isBesideEntry_of_le ?_)
      (by decide +kernel)
    · rw [Parts.entryOffset_image]
      rfl
    · rw [Parts.size_image]
      decide +kernel
    · rw [closeParts, lookupSections_symbolParts]
      exact List.mem_cons_of_mem _ (List.mem_singleton_self _)
    · rw [Parts.entryOffset_image]
      decide
  rw [hlookup, hsize]
  rfl

end BootNote.Image
