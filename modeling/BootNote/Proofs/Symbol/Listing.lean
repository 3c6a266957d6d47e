import BootNote.Proofs.Text.Blank
import BootNote.Proofs.Text.Number
import BootNote.Symbol.Listing

/-!
Listings that were printed. A row is printed as the hexadecimal digits of its value, any fields in
between, and its name, with spaces and tabs between them. Every other line is blank or starts with a
field that is no 64-bit number (`exists_line`). `find?_print` says what is found in such a listing:
the value of the first row with the name, wherever the other lines stand and whatever they say,
provided that the name is not one of the fields in between.
-/

set_option autoImplicit false
set_option relaxedAutoImplicit false

namespace BootNote.Listing

open Text Number

/-- A symbol of a listing, as it is printed. -/
structure Row where
  value : UInt64
  /-- The digits that the value is printed with. They may be of either case, and zeros may stand in
  front of them. -/
  digits : List Char
  numeral : IsNumeral 16 digits value.toNat
  /-- The fields between the value and the name, each with the spaces in front of it. -/
  middle : List (Spacing × Field)
  /-- The spaces in front of the name. -/
  spacing : Spacing
  name : Field

/-- A line whose first field is no 64-bit number. It may say anything behind that field. -/
structure Remark where
  indent : Blanks
  first : Field
  not_number : ∀ v : UInt64, ¬ IsSigned 16 first.chars v.toNat
  rest : List Char
  lineFeed_not_mem : '\n' ∉ rest
  /-- The first field is a whole field: what is behind it, if anything, starts with a blank. -/
  head_blank : ∀ c ∈ rest.head?, isBlank c = true

/-- A line of a listing. -/
inductive Line where
  | row (row : Row)
  | remark (remark : Remark)
  | blank (blanks : Blanks)

/-- What ends a line. -/
inductive LineEnd where
  | lineFeed
  | returnLineFeed

/-- The row that a line prints. -/
def Line.row? : Line → Option Row
  | row r => some r
  | _ => none

/-- The characters of a line. -/
def Line.chars : Line → List Char
  | row r => r.digits ++ spaced (r.middle ++ [(r.spacing, r.name)])
  | remark r => r.indent.chars ++ r.first.chars ++ r.rest
  | blank blanks => blanks.chars

/-- The characters that end a line. -/
def LineEnd.chars : LineEnd → List Char
  | lineFeed => ['\n']
  | returnLineFeed => ['\r', '\n']

/-- The text of a listing. -/
def print (listing : List (Line × LineEnd)) : List Char :=
  listing.flatMap fun (line, stop) ↦ line.chars ++ stop.chars

/-- The rows of a listing, in order. -/
def rows (listing : List (Line × LineEnd)) : List Row :=
  listing.filterMap (·.1.row?)

variable {line : List Char} {name : String} {blanks : List Char}

/-! ### One line -/

/-- A listing is searched line by line. -/
theorem find?_append_lineFeed (hline : '\n' ∉ line) (rest : List Char) :
    find? (line ++ '\n' :: rest) name = (valueOf? name.toList line).or (find? rest name) := by
  rw [find?, lines_append_lineFeed hline, List.findSome?_cons]
  cases valueOf? name.toList line <;> rfl

theorem isBlank_of_isDigit {c : Char} {d : Nat} (digit : IsDigit 16 c d) : isBlank c = false := by
  obtain ⟨hd, hc⟩ := digit
  rcases hc with rfl | rfl <;> revert d <;> decide

/-- The value of a row is a field of its line. -/
def Row.valueField (row : Row) : Field where
  chars := row.digits
  ne_nil := row.numeral.ne_nil
  not_blank c hc := by
    obtain ⟨d, digit⟩ := row.numeral.exists_isDigit hc
    exact isBlank_of_isDigit digit

theorem valueOf?_row (row : Row) (hmiddle : ∀ item ∈ row.middle, item.2.chars ≠ name.toList)
    (hblanks : ∀ c ∈ blanks, isBlank c = true) :
    valueOf? name.toList ((Line.row row).chars ++ blanks) =
      if row.name.chars = name.toList then some row.value else none := by
  have hfields := fields_spaced row.valueField (row.middle ++ [(row.spacing, row.name)]) hblanks
  have hread : readHex? row.digits = .ok row.value :=
    readHex?_eq_ok_iff.mpr ⟨row.digits, Or.inl rfl, row.numeral⟩
  -- The name is looked for in all the fields behind the value, but only the last can be it.
  have hname : name.toList ∈ (row.middle ++ [(row.spacing, row.name)]).map (·.2.chars) ↔
      row.name.chars = name.toList := by
    simp only [List.map_append, List.map_cons, List.map_nil, List.mem_append, List.mem_singleton]
    constructor
    · rintro (hmem | hlast)
      · obtain ⟨item, hitem, heq⟩ := List.mem_map.mp hmem
        exact absurd heq (hmiddle item hitem)
      · exact hlast.symm
    · exact fun h ↦ Or.inr h.symm
  rw [Row.valueField] at hfields
  simp only [valueOf?, Line.chars, hfields, hname, hread]
  rfl

theorem fields_remark (remark : Remark) (hblanks : ∀ c ∈ blanks, isBlank c = true) :
    fields ((Line.remark remark).chars ++ blanks) = remark.first.chars :: fields remark.rest := by
  rw [Line.chars, fields_append_of_blank hblanks, List.append_assoc,
    fields_blanks_append remark.indent.isBlank_eq, remark.first.fields_append remark.head_blank]

theorem valueOf?_remark (remark : Remark) (hblanks : ∀ c ∈ blanks, isBlank c = true) :
    valueOf? name.toList ((Line.remark remark).chars ++ blanks) = none := by
  simp only [valueOf?, fields_remark remark hblanks]
  cases hread : readHex? remark.first.chars with
  | ok v => exact absurd (readHex?_eq_ok_iff.mp hread) (remark.not_number v)
  | error fault => exact ite_self none

theorem valueOf?_blank (line : Blanks) (hblanks : ∀ c ∈ blanks, isBlank c = true) :
    valueOf? name.toList ((Line.blank line).chars ++ blanks) = none := by
  rw [valueOf?, Line.chars, fields_blanks_append line.isBlank_eq, fields_of_blank hblanks]

/-- Every line without a line feed whose first field is no number, if it has a field at all, is a
remark or a blank line. -/
theorem exists_line {chars : List Char} (hline : '\n' ∉ chars)
    (hfirst : ∀ field ∈ (fields chars).head?, ∀ v : UInt64, ¬ IsSigned 16 field v.toNat) :
    ∃ line : Line, line.row? = none ∧ line.chars = chars := by
  rcases exists_first_field hline with ⟨blanks, rfl⟩ | ⟨indent, first, rest, rfl, hhead⟩
  · exact ⟨.blank blanks, rfl, rfl⟩
  have hfields : fields (indent.chars ++ first.chars ++ rest) = first.chars :: fields rest := by
    rw [List.append_assoc, fields_blanks_append indent.isBlank_eq, first.fields_append hhead]
  rw [hfields] at hfirst
  exact ⟨.remark ⟨indent, first, hfirst first.chars rfl, rest,
    fun hmem ↦ hline (List.mem_append_right _ hmem), hhead⟩, rfl, rfl⟩

/-- What a line gives for a name. -/
theorem valueOf?_line (line : Line)
    (hmiddle : ∀ row ∈ line.row?, ∀ item ∈ row.middle, item.2.chars ≠ name.toList)
    (hblanks : ∀ c ∈ blanks, isBlank c = true) :
    valueOf? name.toList (line.chars ++ blanks) =
      (line.row?.filter fun row ↦ row.name.chars = name.toList).map (·.value) := by
  cases line with
  | row row =>
    rw [valueOf?_row row (hmiddle row rfl) hblanks, Line.row?, Option.filter_some]
    split_ifs <;> simp_all
  | remark remark => exact valueOf?_remark remark hblanks
  | blank line => exact valueOf?_blank line hblanks

/-! ### Whole listings -/

theorem lineFeed_not_mem_spaced (items : List (Spacing × Field)) : '\n' ∉ spaced items := by
  rw [spaced, List.mem_flatMap]
  rintro ⟨⟨spacing, field⟩, -, hmem⟩
  rcases List.mem_append.mp hmem with h | h
  · exact spacing.lineFeed_not_mem h
  · exact field.lineFeed_not_mem h

theorem Line.lineFeed_not_mem (line : Line) : '\n' ∉ line.chars := by
  cases line with
  | row row =>
    rw [chars, List.mem_append, not_or]
    exact ⟨row.valueField.lineFeed_not_mem, lineFeed_not_mem_spaced _⟩
  | remark remark =>
    simp only [chars, List.mem_append, not_or]
    exact ⟨⟨remark.indent.lineFeed_not_mem, remark.first.lineFeed_not_mem⟩,
      remark.lineFeed_not_mem⟩
  | blank blanks => exact blanks.lineFeed_not_mem

/-- A carriage return in front of the line feed is a blank at the end of the line. -/
theorem LineEnd.exists_blanks (stop : LineEnd) : ∃ blanks : Blanks,
    stop.chars = blanks.chars ++ ['\n'] := by
  cases stop with
  | lineFeed => exact ⟨⟨[], by simp, by simp⟩, rfl⟩
  | returnLineFeed => exact ⟨⟨['\r'], List.forall_mem_singleton.mpr rfl, by decide⟩, rfl⟩

/-- In a listing that was printed, the value that is found for a name is that of the first row with
the name, if the name is not one of the fields between the value and the name of a row. Remarks and
blank lines change nothing, whatever they say. -/
theorem find?_print (listing : List (Line × LineEnd)) (name : String)
    (hmiddle : ∀ row ∈ rows listing, ∀ item ∈ row.middle, item.2.chars ≠ name.toList) :
    find? (print listing) name =
      ((rows listing).find? fun row ↦ row.name.chars = name.toList).map (·.value) := by
  induction listing with
  | nil => rfl
  | cons head rest ih =>
    obtain ⟨line, stop⟩ := head
    obtain ⟨blanks, hstop⟩ := stop.exists_blanks
    have hprint : print ((line, stop) :: rest) =
        line.chars ++ blanks.chars ++ '\n' :: print rest := by
      simp [print, hstop]
    have hline : '\n' ∉ line.chars ++ blanks.chars := by
      rw [List.mem_append, not_or]
      exact ⟨line.lineFeed_not_mem, blanks.lineFeed_not_mem⟩
    rw [hprint, find?_append_lineFeed hline]
    -- Only a row adds to what can be found; any other line is passed over.
    cases hrow : line.row? with
    | none =>
      have hrows : rows ((line, stop) :: rest) = rows rest := List.filterMap_cons_none hrow
      rw [hrows] at hmiddle ⊢
      rw [valueOf?_line line (by simp [hrow]) blanks.isBlank_eq, hrow, ih hmiddle]
      rfl
    | some row =>
      have hrows : rows ((line, stop) :: rest) = row :: rows rest := List.filterMap_cons_some hrow
      rw [hrows] at hmiddle ⊢
      obtain ⟨hfirst, hrest⟩ := List.forall_mem_cons.mp hmiddle
      rw [valueOf?_line line (by simpa [hrow] using hfirst) blanks.isBlank_eq, hrow, ih hrest,
        List.find?_cons, Option.filter_some]
      by_cases hname : row.name.chars = name.toList <;> simp [hname]

/-- A text without blanks as a field. -/
def sampleField (text : String) (ne_nil : text.toList ≠ [])
    (not_blank : text.toList.all fun c ↦ !isBlank c) : Field where
  chars := text.toList
  ne_nil := ne_nil
  not_blank c hc := by simpa using List.all_eq_true.mp not_blank c hc

/-- A row with zeros in front of its value, two fields in between, and a tab before its name. -/
def sampleRow (value : UInt64) (zeros : Nat) (name : Field) : Row where
  value := value
  digits := List.replicate zeros '0' ++ Nat.toDigits 16 value.toNat
  numeral := (isNumeral_toDigits (by decide) value.toNat).zeros_append zeros
  middle :=
    [(⟨[' '], by decide, by simp⟩, sampleField "g" (by decide) (by decide)),
      (⟨[' '], by decide, by simp⟩, sampleField ".text" (by decide) (by decide))]
  spacing := ⟨['\t', ' '], by decide, by simp⟩
  name := name

/-- A line that says `vmlinux: pvh_start`. -/
def sampleRemark : Remark where
  indent := ⟨[], by simp, by simp⟩
  first := sampleField "vmlinux:" (by decide) (by decide)
  not_number v signed := by
    have hfault : readHex? "vmlinux:".toList = .error .invalidDigit := by decide
    have hread : readHex? "vmlinux:".toList = .ok v := readHex?_eq_ok_iff.mpr signed
    rw [hread] at hfault
    contradiction
  rest := " pvh_start".toList
  lineFeed_not_mem := by decide
  head_blank := by
    rintro _ ⟨⟩
    rfl

/-- A remark, a blank line and three rows, two of them of one name. -/
def sampleListing : List (Line × LineEnd) :=
  [(.remark sampleRemark, .returnLineFeed), (.blank ⟨[], by simp, by simp⟩, .lineFeed),
    (.row (sampleRow 0x1000 4 (sampleField "pvh_start32" (by decide) (by decide))), .lineFeed),
    (.row (sampleRow 0x1020 4 (sampleField "pvh_start" (by decide) (by decide))),
      .returnLineFeed),
    (.row (sampleRow 0x1fff 0 (sampleField "pvh_start" (by decide) (by decide))), .lineFeed)]

/-- Neither a remark about the name nor a row of a longer name hides the value of its first row, and
a name that is only the start of others is not found. -/
theorem find?_sampleListing :
    String.ofList (print sampleListing) = "vmlinux: pvh_start\r\n\n" ++
        "00001000 g .text\t pvh_start32\n" ++ "00001020 g .text\t pvh_start\r\n" ++
        "1fff g .text\t pvh_start\n" ∧
      find? (print sampleListing) "pvh_start" = some 0x1020 ∧
      find? (print sampleListing) "pvh" = none :=
  ⟨by decide, (find?_print sampleListing "pvh_start" (by decide)).trans (by decide),
    (find?_print sampleListing "pvh" (by decide)).trans (by decide)⟩

end BootNote.Listing
