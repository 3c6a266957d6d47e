import BootNote.Text.Blank
import Mathlib.Data.List.TakeWhile
import Mathlib.Tactic.Common

/-!
Lines and fields of a text that was put together. A line ends at its line feed
(`lines_append_lineFeed`). The fields in front of a blank and those behind it are the fields of the
whole (`fields_append_blank`), so a run of blanks adds nothing, and fields with blanks between them
read back one by one (`fields_spaced`). Conversely, every line that is not blank comes apart into
its first field and what surrounds it (`exists_first_field`).
-/

set_option autoImplicit false
set_option relaxedAutoImplicit false

namespace BootNote.Text

/-- A text that is a field wherever blanks surround it. -/
structure Field where
  chars : List Char
  ne_nil : chars ≠ []
  not_blank : ∀ c ∈ chars, isBlank c = false

/-- A run of spaces and tabs. -/
structure Spacing where
  chars : List Char
  ne_nil : chars ≠ []
  space_or_tab : ∀ c ∈ chars, c = ' ' ∨ c = '\t'

/-- Blanks inside a line, or none. -/
structure Blanks where
  chars : List Char
  isBlank_eq : ∀ c ∈ chars, isBlank c = true
  lineFeed_not_mem : '\n' ∉ chars

variable {line front back blanks : List Char} {c : Char}

/-! ### Lines -/

theorem lines_append_lineFeed (hline : '\n' ∉ line) (rest : List Char) :
    lines (line ++ '\n' :: rest) = line :: lines rest :=
  List.splitOn_append_cons_self_of_not_mem hline rest

/-! ### Fields -/

@[simp] theorem fields_nil : fields [] = [] := by
  simp [fields, List.splitOnP_nil]

theorem fields_append_blank (hc : isBlank c = true) (front back : List Char) :
    fields (front ++ c :: back) = fields front ++ fields back := by
  rw [fields, List.splitOnP_append_cons front back hc, List.filter_append]
  rfl

/-- Blanks in front of a text add no field. -/
theorem fields_blanks_append (hblanks : ∀ c ∈ blanks, isBlank c = true) (back : List Char) :
    fields (blanks ++ back) = fields back := by
  induction blanks with
  | nil => rfl
  | cons c rest ih =>
    obtain ⟨hc, hrest⟩ := List.forall_mem_cons.mp hblanks
    exact (fields_append_blank hc [] (rest ++ back)).trans (ih hrest)

theorem fields_of_blank (hblanks : ∀ c ∈ blanks, isBlank c = true) : fields blanks = [] := by
  rw [← List.append_nil blanks, fields_blanks_append hblanks, fields_nil]

/-- Blanks at the end of a text add no field. -/
theorem fields_append_of_blank (hblanks : ∀ c ∈ blanks, isBlank c = true) (front : List Char) :
    fields (front ++ blanks) = fields front := by
  cases blanks with
  | nil => rw [List.append_nil]
  | cons c rest =>
    obtain ⟨hc, hrest⟩ := List.forall_mem_cons.mp hblanks
    rw [fields_append_blank hc, fields_of_blank hrest, List.append_nil]

/-- Blanks between two texts keep their fields apart. -/
theorem fields_append_blanks (hblanks : ∀ c ∈ blanks, isBlank c = true) (hne : blanks ≠ [])
    (front back : List Char) : fields (front ++ blanks ++ back) = fields front ++ fields back := by
  obtain ⟨c, rest, rfl⟩ := List.exists_cons_of_ne_nil hne
  obtain ⟨hc, hrest⟩ := List.forall_mem_cons.mp hblanks
  rw [List.append_assoc, List.cons_append, fields_append_blank hc, fields_blanks_append hrest]

theorem Field.fields_eq (field : Field) : fields field.chars = [field.chars] := by
  rw [fields, List.splitOnP_eq_singleton field.not_blank]
  simp [field.ne_nil]

/-- A field with a blank behind it, or nothing at all, is cut off as it stands. -/
theorem Field.fields_append (field : Field) (hhead : ∀ c ∈ back.head?, isBlank c = true) :
    fields (field.chars ++ back) = field.chars :: fields back := by
  cases back with
  | nil => rw [List.append_nil, field.fields_eq, fields_nil]
  | cons c rest =>
    have hc : isBlank c = true := hhead c rfl
    rw [fields_append_blank hc, field.fields_eq]
    exact congrArg (field.chars :: ·) (fields_append_blank hc [] rest).symm

theorem Field.lineFeed_not_mem (field : Field) : '\n' ∉ field.chars := by
  intro hc
  have hblank := field.not_blank '\n' hc
  contradiction

theorem Spacing.isBlank (spacing : Spacing) : ∀ c ∈ spacing.chars, isBlank c = true := by
  intro c hc
  rcases spacing.space_or_tab c hc with rfl | rfl <;> rfl

theorem Spacing.lineFeed_not_mem (spacing : Spacing) : '\n' ∉ spacing.chars := by
  intro hc
  rcases spacing.space_or_tab _ hc with h | h <;> contradiction

/-- A line is blanks only, or it has a first field, with blanks or nothing in front of it and with a
blank or nothing behind it. -/
theorem exists_first_field (hline : '\n' ∉ line) :
    (∃ blanks : Blanks, line = blanks.chars) ∨ ∃ (indent : Blanks) (first : Field)
      (rest : List Char), line = indent.chars ++ first.chars ++ rest ∧
        ∀ c ∈ rest.head?, isBlank c = true := by
  by_cases hblank : ∀ c ∈ line, isBlank c = true
  · exact Or.inl ⟨⟨line, hblank, hline⟩, rfl⟩
  right
  have hback : line.dropWhile isBlank ≠ [] := fun h ↦ hblank (List.dropWhile_eq_nil_iff.mp h)
  obtain ⟨c, behind, hcons⟩ := List.exists_cons_of_ne_nil hback
  have hc : isBlank c = false := by simpa [hcons] using List.head_dropWhile_not isBlank hback
  let indent : Blanks :=
    { chars := line.takeWhile isBlank
      isBlank_eq := fun _ ↦ List.mem_takeWhile_imp
      lineFeed_not_mem := fun hmem ↦ hline ((List.takeWhile_prefix isBlank).subset hmem) }
  let first : Field :=
    { chars := (c :: behind).takeWhile (!isBlank ·)
      ne_nil := by simp [hc]
      not_blank := fun d hd ↦ by simpa using List.mem_takeWhile_imp hd }
  refine ⟨indent, first, (c :: behind).dropWhile (!isBlank ·), ?_, fun d hd ↦ ?_⟩
  · rw [List.append_assoc, List.takeWhile_append_dropWhile, ← hcons,
      List.takeWhile_append_dropWhile]
  · have hstop := List.head?_dropWhile_not (!isBlank ·) (c :: behind)
    rw [Option.mem_def.mp hd] at hstop
    simpa using hstop

/-- Fields with spaces and tabs in front of each. -/
def spaced (items : List (Spacing × Field)) : List Char :=
  items.flatMap fun (spacing, field) ↦ spacing.chars ++ field.chars

/-- Fields with spaces and tabs between them are read back, and blanks at the end add none. -/
theorem fields_spaced (first : Field) (items : List (Spacing × Field))
    (hblanks : ∀ c ∈ blanks, isBlank c = true) :
    fields (first.chars ++ spaced items ++ blanks) =
      first.chars :: items.map fun (_, field) ↦ field.chars := by
  induction items generalizing first with
  | nil =>
    rw [fields_append_of_blank hblanks, spaced, List.flatMap_nil, List.append_nil, first.fields_eq]
    rfl
  | cons item rest ih =>
    obtain ⟨spacing, field⟩ := item
    have hsplit : first.chars ++ spaced ((spacing, field) :: rest) ++ blanks =
        first.chars ++ spacing.chars ++ (field.chars ++ spaced rest ++ blanks) := by
      simp [spaced]
    rw [hsplit, fields_append_blanks spacing.isBlank spacing.ne_nil, first.fields_eq, ih field]
    rfl

end BootNote.Text
