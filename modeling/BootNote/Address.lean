import BootNote.Error
import BootNote.Text.Number

/-!
Addresses in text: hexadecimal digits of either case, with `0x` or `0X` in front of them or not.
-/

set_option autoImplicit false
set_option relaxedAutoImplicit false

namespace BootNote.Address

/-- The text behind one `0x` or `0X`, or the whole text. -/
def dropMarker : List Char → List Char
  | '0' :: 'x' :: cs => cs
  | '0' :: 'X' :: cs => cs
  | cs => cs

/-- Whether a text has `0x` or `0X` in front. -/
def isMarked : List Char → Bool
  | '0' :: 'x' :: _ => true
  | '0' :: 'X' :: _ => true
  | _ => false

/-- Reads an address. -/
def read (text : String) : Except Error UInt64 :=
  (Text.Number.readHex? (dropMarker text.toList)).mapError fun fault ↦
    .format (.badAddress text fault)

end BootNote.Address
