import BootNote.Text.Graphic

/-!
Quoted text. A text is shown between double quotes with every character visible: the quote and the
backslash are escaped, the common controls have short names, and any other character that would not
show as itself is written by its number.
-/

set_option autoImplicit false
set_option relaxedAutoImplicit false

namespace BootNote.Text.Quoted

/-- The letter that names a character behind a backslash, if it has one. -/
def shortName? : Char → Option Char
  | '\x00' => some '0'
  | '\t' => some 't'
  | '\r' => some 'r'
  | '\n' => some 'n'
  | '"' => some '"'
  | '\\' => some '\\'
  | _ => none

/-- One character as it appears between the quotes. What would not be seen is written by its number,
and so is a character that attaches to the one in front of it, since it would change how that one
looks. -/
def escape (c : Char) : List Char :=
  match shortName? c with
  | some name => ['\\', name]
  | none =>
    if isVisible c then [c]
    else ['\\', 'u', '\x7b'] ++ Nat.toDigits 16 c.toNat ++ ['\x7d']

/-- A text between double quotes. -/
def encode (text : List Char) : List Char := '"' :: text.flatMap escape ++ ['"']

end BootNote.Text.Quoted

namespace BootNote.Text

/-- A text between double quotes, with every character visible. -/
def quote (text : String) : String := String.ofList (Quoted.encode text.toList)

end BootNote.Text
