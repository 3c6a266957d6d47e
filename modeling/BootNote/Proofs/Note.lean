import BootNote.Note.Records
import BootNote.Proofs.Bytes
import BootNote.Proofs.Word

/-!
Reading notes. A record contributes the note that it holds, if any, and reading goes on at the next
multiple of four (`readFrom_of_some`). A note is read from exactly the byte strings that begin with
its bytes (`decode?_eq_some_iff`), and as the only record of a segment it is the only note
(`readAll_encode`).
-/

set_option autoImplicit false
set_option relaxedAutoImplicit false

namespace BootNote.Note

open Bytes

variable {data : ByteArray} {pos stop : Nat}

theorem readFrom_of_none (h : recordEnd? data pos = none) : readFrom data pos = [] := by
  rw [readFrom]
  split
  · rfl
  · simp_all

theorem readFrom_of_some (h : recordEnd? data pos = some stop) : readFrom data pos =
    (decode? (toList (slice data pos (min (stop - pos) size)))).toList ++
      readFrom data (pos + alignUp (stop - pos) 4) := by
  rw [readFrom]
  split
  · simp_all
  · next stop' h' =>
    obtain rfl : stop' = stop := Option.some.inj (h'.symm.trans h)
    cases hnote : decode? (toList (slice data pos (min (stop' - pos) size))) with
    | none => rfl
    | some note => rfl

/-- Behind the last byte there are no records. -/
theorem readFrom_of_size_le (h : data.size ≤ pos) : readFrom data pos = [] := by
  refine readFrom_of_none ?_
  rw [recordEnd?, if_neg (by rw [recordHeaderSize]; omega)]

variable (note : Note)

/-- What follows the bytes of a note makes no difference. -/
theorem decode?_encode_append (rest : List UInt8) : decode? (note.encode ++ rest) = some note := by
  have hsize : size ≤ (note.encode ++ rest).length := by simp
  rw [decode?, if_pos]
  · simp [encode, Word.word, List.drop_append, List.drop_eq_nil_of_le, name]
  · refine ⟨hsize, ?_⟩
    simp [encode, Word.word, List.drop_append, List.drop_eq_nil_of_le, name]

@[simp] theorem decode?_encode : decode? note.encode = some note := by
  simpa using decode?_encode_append note []

theorem decode?_eq_some_iff {bs : List UInt8} {note : Note} :
    decode? bs = some note ↔ size ≤ bs.length ∧ bs.take size = note.encode := by
  constructor
  · intro hread
    simp only [decode?, Option.ite_none_right_eq_some, Option.some.injEq] at hread
    obtain ⟨⟨hsize, hname, hdescriptor, htype, htext⟩, rfl⟩ := hread
    refine ⟨hsize, ?_⟩
    rw [size] at hsize
    calc bs.take 20
        = bs.take 4 ++ (bs.drop 4).take 4 ++ (bs.drop 8).take 4 ++ (bs.drop 12).take 4 ++
            (bs.drop 16).take 4 := by
          simp only [← List.take_add, Nat.reduceAdd]
      _ = Word.ofWord (Word.word bs 0) ++ Word.ofWord (Word.word bs 4) ++
            Word.ofWord (Word.word bs 8) ++ name ++ Word.ofWord (Word.word bs 16) := by
          simp (disch := omega) only [Word.ofWord_word, List.drop_zero, htext]
      _ = encode ⟨Word.word bs 16⟩ := by rw [hname, hdescriptor, htype, encode]
  · rintro ⟨-, hfront⟩
    rw [← List.take_append_drop size bs, hfront, decode?_encode_append]

/-- The record of a note ends with its entry address. -/
theorem recordEnd?_encode : recordEnd? note.encode.toByteArray 0 = some size := by
  have hfour : Word.decode (Word.ofWord 4) = 4 := by decide
  have hname : wordAt note.encode.toByteArray 0 = 4 := by simp [wordAt, encode, hfour]
  have hdescriptor : wordAt note.encode.toByteArray 4 = 4 := by simp [wordAt, encode, hfour]
  rw [recordEnd?, Nat.zero_add, Nat.zero_add, hname, hdescriptor, size_toByteArray, length_encode]
  rfl

theorem readAll_encode : readAll note.encode.toByteArray = [note] := by
  have hsize : note.encode.toByteArray.size = size := by rw [size_toByteArray, length_encode]
  rw [readAll, readFrom_of_some (recordEnd?_encode note), readFrom_of_size_le]
  · rw [toList_slice, toList_toByteArray, List.drop_zero, List.take_of_length_le, decode?_encode]
    · rfl
    · rw [length_encode]
      decide
  · rw [hsize]
    decide

end BootNote.Note
