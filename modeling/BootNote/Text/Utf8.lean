/-!
Reading UTF-8 leniently. Bytes that form no character are not refused: each longest run that starts
a character and is then broken off reads as one replacement character, and so does each byte that
can start none. `decodeLossy` is a left-to-right scan whose state is the character begun so far.
-/

set_option autoImplicit false
set_option relaxedAutoImplicit false

namespace BootNote.Text.Utf8

/-- A character of which some bytes have been read. -/
structure Begun where
  /-- The bits read so far. -/
  value : Nat
  /-- The number of bytes still due. -/
  due : Nat
  /-- The least byte that may come next. -/
  low : UInt8
  /-- The greatest byte that may come next. -/
  high : UInt8
  deriving DecidableEq, Repr

/-- The replacement character. -/
def replacement : Char := '\uFFFD'

/-- Reads the first byte of a character: what it says by itself, and what it begins. The narrowed
bounds keep out overlong forms, surrogates and values above the last code point. -/
def first (b : UInt8) : List Char × Option Begun :=
  if b < 0x80 then ([Char.ofNat b.toNat], none)
  else if b < 0xc2 then ([replacement], none)
  else if b < 0xe0 then ([], some ⟨b.toNat - 0xc0, 1, 0x80, 0xbf⟩)
  else if b = 0xe0 then ([], some ⟨0, 2, 0xa0, 0xbf⟩)
  else if b = 0xed then ([], some ⟨0xd, 2, 0x80, 0x9f⟩)
  else if b < 0xf0 then ([], some ⟨b.toNat - 0xe0, 2, 0x80, 0xbf⟩)
  else if b = 0xf0 then ([], some ⟨0, 3, 0x90, 0xbf⟩)
  else if b < 0xf4 then ([], some ⟨b.toNat - 0xf0, 3, 0x80, 0xbf⟩)
  else if b = 0xf4 then ([], some ⟨4, 3, 0x80, 0x8f⟩)
  else ([replacement], none)

/-- Reads one byte. A byte that cannot go on with the character begun breaks it off and is then read
as a first byte. -/
def step : Option Begun → UInt8 → List Char × Option Begun
  | none, b => first b
  | some p, b =>
    if p.low ≤ b ∧ b ≤ p.high then
      let value := p.value * 64 + (b.toNat - 0x80)
      if p.due = 1 then ([Char.ofNat value], none)
      else ([], some ⟨value, p.due - 1, 0x80, 0xbf⟩)
    else
      let (chars, next) := first b
      (replacement :: chars, next)

/-- Reads bytes from a state on. A character that the end breaks off is replaced as well. -/
def decodeFrom : Option Begun → List UInt8 → List Char
  | none, [] => []
  | some _, [] => [replacement]
  | state, b :: bs =>
    let (chars, next) := step state b
    chars ++ decodeFrom next bs

/-- The text that bytes spell, with replacement characters where they spell none. -/
def decodeLossy (bs : List UInt8) : List Char := decodeFrom none bs

end BootNote.Text.Utf8
