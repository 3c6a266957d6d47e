/-!
Sets of characters as lists of ranges of code points, both ends included. The properties of the
Unicode standard that this library needs are tables of this kind.
-/

set_option autoImplicit false
set_option relaxedAutoImplicit false

namespace BootNote.Text

/-- Whether a character lies in one of the ranges. -/
def inRanges (ranges : List (Nat × Nat)) (c : Char) : Bool :=
  ranges.any fun (low, high) ↦ low ≤ c.toNat && c.toNat ≤ high

end BootNote.Text
