/-!
What is known of a note once it is in an image: by which strategy its entry in the segment table
found room, and where the entry and the note lie.
-/

set_option autoImplicit false
set_option relaxedAutoImplicit false

namespace BootNote

/-- How room is found for one more entry behind the segment table. -/
inductive Strategy where
  /-- The content behind the table moves towards the end of the file. -/
  | shifted
  /-- The entry takes the place of zero bytes that belong to nothing. -/
  | reusedPadding
  deriving DecidableEq, Repr

/-- The name of a strategy. -/
def Strategy.name : Strategy → String
  | shifted => "Shifted"
  | reusedPadding => "ReusedPadding"

/-- A note that was added to an image. -/
structure Injection where
  strategy : Strategy
  /-- The number of bytes between the segment table and the content behind it. -/
  available : Nat
  /-- Where the new entry of the segment table lies. -/
  segmentOffset : Nat
  /-- Where the note lies. -/
  noteOffset : Nat
  /-- The index of the new entry. -/
  index : Nat
  deriving DecidableEq, Repr

end BootNote
