/-!
Stretches of a file. A field that places one holds its start and its length in 64 bits each, so the
end may lie beyond the last 64-bit offset; it is then held at that offset.
-/

set_option autoImplicit false
set_option relaxedAutoImplicit false

namespace BootNote.Elf

/-- The greatest offset that 64 bits can hold. -/
def lastOffset : Nat := 0xffffffffffffffff

/-- A stretch of a file, up to but not including `stop`. -/
structure Extent where
  start : Nat
  stop : Nat
  deriving DecidableEq, Repr

namespace Extent

/-- The stretch of `size` bytes from `start` on, cut off at the last offset. -/
def ofSize (start size : Nat) : Extent := ⟨start, min (start + size) lastOffset⟩

/-- Whether the bytes from `start` up to `stop` share one with the stretch. -/
def meets (e : Extent) (start stop : Nat) : Bool := start < e.stop && e.start < stop

end Extent

end BootNote.Elf
