import BootNote.Bytes
import BootNote.Note

/-!
The records of a note segment. Each has three words, the lengths of its name and of its descriptor
and its type, then the name, zero to three bytes that make its length a multiple of four, and the
descriptor; the next record starts at the next multiple of four. Reading stops at a record that the
segment cuts off.
-/

set_option autoImplicit false
set_option relaxedAutoImplicit false

namespace BootNote.Note

/-- The size of the three words at the front of a record. -/
def recordHeaderSize : Nat := 12

/-- The 32-bit word at a position. -/
def wordAt (data : ByteArray) (pos : Nat) : Nat :=
  Word.decode (Bytes.toList (Bytes.slice data pos 4))

/-- Where the record at `pos` ends, without the bytes that fill up its descriptor; `none` if it does
not end in the segment. -/
def recordEnd? (data : ByteArray) (pos : Nat) : Option Nat :=
  if pos + recordHeaderSize ≤ data.size then
    let stop := pos + recordHeaderSize + Bytes.alignUp (wordAt data pos) 4 + wordAt data (pos + 4)
    if stop ≤ data.size then some stop else none
  else none

theorem add_recordHeaderSize_le_of_recordEnd? {data : ByteArray} {pos stop : Nat}
    (h : recordEnd? data pos = some stop) : pos + recordHeaderSize ≤ stop ∧ stop ≤ data.size := by
  unfold recordEnd? at h
  split at h
  · simp only [Option.ite_none_right_eq_some, Option.some.injEq] at h
    omega
  · contradiction

/-- The boot notes among the records from `pos` on. -/
def readFrom (data : ByteArray) (pos : Nat) : List Note :=
  match h : recordEnd? data pos with
  | none => []
  | some stop =>
    let next := pos + Bytes.alignUp (stop - pos) 4
    have shorter : data.size - next < data.size - pos := by
      have := add_recordHeaderSize_le_of_recordEnd? h
      simp only [recordHeaderSize, Bytes.alignUp, next] at *
      omega
    match decode? (Bytes.toList (Bytes.slice data pos (min (stop - pos) size))) with
    | some note => note :: readFrom data next
    | none => readFrom data next
termination_by data.size - pos

/-- The boot notes among the records of a note segment, in order. -/
def readAll (data : ByteArray) : List Note := readFrom data 0

end BootNote.Note
