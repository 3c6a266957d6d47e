import BootNote.Text.CharRange

/-!
Blanks, lines and fields. A blank is a character with the Unicode property `White_Space`. A text
splits into lines at each line feed, and a line splits at its blanks into fields that are never
empty. A carriage return is a blank, so one in front of a line feed adds nothing to a field.
-/

set_option autoImplicit false
set_option relaxedAutoImplicit false

namespace BootNote.Text

/-- The characters with the Unicode property `White_Space`, as ranges with both ends included. -/
def blankRanges : List (Nat × Nat) :=
  [(0x9, 0xd), (0x20, 0x20), (0x85, 0x85), (0xa0, 0xa0), (0x1680, 0x1680), (0x2000, 0x200a),
    (0x2028, 0x2029), (0x202f, 0x202f), (0x205f, 0x205f), (0x3000, 0x3000)]

/-- Whether a character separates fields. -/
def isBlank (c : Char) : Bool := inRanges blankRanges c

/-- The lines of a text, without the line feeds that end them. -/
def lines (text : List Char) : List (List Char) := text.splitOn '\n'

/-- The fields of a line: its longest runs of characters that are not blank. -/
def fields (line : List Char) : List (List Char) :=
  (line.splitOnP isBlank).filter fun field ↦ !field.isEmpty

end BootNote.Text
