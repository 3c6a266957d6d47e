import BootNote.Text.Blank
import BootNote.Text.Number

/-!
Symbol listings: text with a line for each symbol. A line starts with the symbol's value in
hexadecimal, and its name is one of the fields behind. Lines that say something else are skipped.
-/

set_option autoImplicit false
set_option relaxedAutoImplicit false

namespace BootNote.Listing

open Text

/-- The value that a line gives for a name, if it is about that name and starts with a value. -/
def valueOf? (name line : List Char) : Option UInt64 :=
  match fields line with
  | [] => none
  | value :: rest => if name ∈ rest then (Number.readHex? value).toOption else none

/-- The value in the first line that gives one for a name. -/
def find? (text : List Char) (name : String) : Option UInt64 :=
  (lines text).findSome? (valueOf? name.toList)

end BootNote.Listing
