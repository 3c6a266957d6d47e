import BootNote.Bytes

/-!
String tables: strings one behind the other, each ended by a NUL. A string is referred to by the
position of its first byte. A table that is written starts with a NUL, so position 0 is the empty
string; `positions` says where each string of a list comes to lie in `encode`.
-/

set_option autoImplicit false
set_option relaxedAutoImplicit false

namespace BootNote.Elf.StringTable

/-- The first position from `pos` on that holds a NUL. -/
def nulFrom? (table : ByteArray) (pos : Nat) : Option Nat :=
  if h : pos < table.size then
    if table[pos] = 0 then some pos else nulFrom? table (pos + 1)
  else none
termination_by table.size - pos

/-- The string at a position, if a NUL ends it in the table. -/
def stringAt? (table : ByteArray) (pos : Nat) : Option ByteArray :=
  (nulFrom? table pos).map fun stop ↦ table.extract pos stop

/-- The table of a list of strings. -/
def encode (strings : List (List UInt8)) : List UInt8 :=
  0 :: strings.flatMap fun string ↦ string ++ [0]

/-- The positions of strings that lie one behind the other from `pos` on. -/
def positionsFrom : Nat → List (List UInt8) → List Nat
  | _, [] => []
  | pos, string :: strings => pos :: positionsFrom (pos + string.length + 1) strings

/-- The positions of a list of strings in their table. -/
def positions (strings : List (List UInt8)) : List Nat := positionsFrom 1 strings

end BootNote.Elf.StringTable
