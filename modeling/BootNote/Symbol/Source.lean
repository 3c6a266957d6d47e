import BootNote.Bytes
import BootNote.Error
import BootNote.Symbol.Listing
import BootNote.Text.Utf8

/-!
Places outside an image that may know its symbols. A source is asked for a symbol of the image at a
path. One kind of source runs a program that lists the symbols of a file and reads what it prints.
-/

set_option autoImplicit false
set_option relaxedAutoImplicit false

namespace BootNote

/-- What a source answers. -/
inductive Reply where
  | address (value : UInt64)
  | unknown
  /-- The program that the source relies on cannot be started. -/
  | unavailable (program : String) (fault : SystemFault)
  deriving DecidableEq, Repr

/-- A place that is asked for a symbol, with the path of the image and the symbol's name. -/
def Source : Type := (path : SystemText) → (name : String) → Reply

namespace Source

/-- The source that knows nothing. -/
def empty : Source := fun _ _ ↦ .unknown

/-- The source that reads the listing that a program prints for a path. -/
def ofProgram (program : String) (output : SystemText → Except SystemFault ByteArray) : Source :=
  fun path name ↦
    match output path with
    | .error fault => .unavailable program fault
    | .ok bytes =>
      match Listing.find? (Text.Utf8.decodeLossy (Bytes.toList bytes)) name with
      | some value => .address value
      | none => .unknown

end Source

end BootNote
