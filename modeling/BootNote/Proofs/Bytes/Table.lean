import BootNote.Proofs.Bytes

/-!
Tables of records. The records of a table lie one behind the other, and two byte strings that agree
on a table have the same records there (`records_congr`). A codec (`IsCodec`) writes values as
records of one size and reads every record of that size, and the two are inverse to each other. A
table that is held somewhere then reads as the values that it was written from
(`IsCodec.map_decode_records`), and a table that was read is written back as it was
(`IsCodec.map_encode_records`).
-/

set_option autoImplicit false
set_option relaxedAutoImplicit false

namespace BootNote.Bytes

/-! ### Records -/

section Records

variable {a b : ByteArray} {start p q size count index : Nat}

/-- A record ends in its table. -/
theorem record_le_table (hindex : index < count) : index * size + size ≤ count * size := by
  rw [← Nat.succ_mul]
  exact Nat.mul_le_mul_right size hindex

theorem records_congr (h : ∀ i < count * size, get? a (p + i) = get? b (q + i)) :
    records a p size count = records b q size count := by
  refine List.map_congr_left fun index hindex ↦ ?_
  have hlast : index * size + size ≤ count * size := record_le_table (List.mem_range.mp hindex)
  congr 1
  refine slice_congr fun i hi ↦ ?_
  rw [Nat.add_assoc, Nat.add_assoc]
  exact h _ (by omega)

theorem records_succ : records b start size (count + 1) =
    records b start size count ++ [toList (slice b (start + count * size) size)] := by
  simp [records, List.range_succ]

theorem length_of_mem_records (hroom : start + count * size ≤ b.size) {record : List UInt8}
    (hrecord : record ∈ records b start size count) : record.length = size := by
  obtain ⟨index, hindex, rfl⟩ := List.mem_map.mp hrecord
  have hlast : index * size + size ≤ count * size := record_le_table (List.mem_range.mp hindex)
  rw [length_toList, size_slice (by omega)]

/-- The records of a table are its bytes. -/
theorem flatten_records : (records b start size count).flatten =
    toList (slice b start (count * size)) := by
  induction count with
  | zero => simp [records]
  | succ count ih =>
    rw [records_succ, List.flatten_append, ih, List.flatten_singleton]
    simp only [toList_slice, Nat.succ_mul, List.take_add, List.drop_drop]

end Records

/-! ### Codecs -/

/-- Values are written as the byte strings of a size, each byte string standing for one value: what
was written reads as the value, and what was read is written back as it stood. -/
structure IsCodec {α : Type} (size : Nat) (encode : α → List UInt8) (decode : List UInt8 → α) :
    Prop where
  length_encode : ∀ a, (encode a).length = size
  decode_encode : ∀ a, decode (encode a) = a
  encode_decode : ∀ bs : List UInt8, bs.length = size → encode (decode bs) = bs

section Codec

variable {α : Type} {encode : α → List UInt8} {decode : List UInt8 → α} {b : ByteArray}
  {start size count : Nat}

theorem length_flatMap (h : ∀ e, (encode e).length = size) (entries : List α) :
    (entries.flatMap encode).length = entries.length * size := by
  rw [List.length_flatMap, List.map_congr_left fun e _ ↦ h e, List.map_const',
    List.sum_replicate_nat]

theorem size_flatMap (h : ∀ e, (encode e).length = size) (entries : List α) :
    (entries.flatMap encode).toByteArray.size = entries.length * size := by
  rw [size_toByteArray, length_flatMap h]

theorem take_drop_flatMap (h : ∀ e, (encode e).length = size) {entries : List α} {i : Nat}
    (hi : i < entries.length) :
    ((entries.flatMap encode).drop (i * size)).take size = encode entries[i] := by
  induction entries generalizing i with
  | nil => simp at hi
  | cons e rest ih =>
    cases i with
    | zero => simp [← h e]
    | succ i =>
      have hsplit : (i + 1) * size = (encode e).length + i * size := by
        rw [Nat.succ_mul, h, Nat.add_comm]
      rw [List.flatMap_cons, hsplit, List.drop_length_add_append, List.getElem_cons_succ]
      exact ih (by simpa using hi)

variable (codec : IsCodec size encode decode)

include codec

/-- A table that was read is written back as it was read. -/
theorem IsCodec.map_encode_records (hroom : start + count * size ≤ b.size) :
    ((records b start size count).map decode).map encode = records b start size count := by
  rw [List.map_map]
  refine (List.map_congr_left fun record hrecord ↦ ?_).trans (List.map_id' _)
  exact codec.encode_decode record (length_of_mem_records hroom hrecord)

/-- A table that is held at a position reads as the values that it was written from. -/
theorem IsCodec.map_decode_records {entries : List α}
    (holds : HoldsAt b start (entries.flatMap encode)) :
    (records b start size entries.length).map decode = entries := by
  have hlength := codec.length_encode
  refine List.ext_getElem (by simp) fun i hi hi' ↦ ?_
  have hlast : i * size + size ≤ entries.length * size := record_le_table hi'
  simp only [records, List.getElem_map, List.getElem_range]
  rw [holds.toList_slice (by rwa [length_flatMap hlength]), take_drop_flatMap hlength hi',
    codec.decode_encode]

/-- A byte string that is nothing but a table reads as the values that it was written from. -/
theorem IsCodec.map_decode_toByteArray (hsize : 0 < size) (entries : List α) :
    (records (entries.flatMap encode).toByteArray 0 size
      ((entries.flatMap encode).toByteArray.size / size)).map decode = entries := by
  rw [size_flatMap codec.length_encode, Nat.mul_div_cancel _ hsize]
  exact codec.map_decode_records holdsAt_toByteArray

/-- A table that was written reads as the values that it was written from. -/
theorem IsCodec.map_decode_overwrite {entries : List α}
    (hroom : start + entries.length * size ≤ b.size) :
    (records (overwrite b start (entries.flatMap encode).toByteArray) start size
      entries.length).map decode = entries := by
  have hfront : ((toList b).take start).length = start :=
    List.length_take_of_le (by rw [length_toList]; omega)
  refine codec.map_decode_records ?_
  rw [← hfront]
  exact holdsAt_of_toList_eq (by rw [hfront, toList_overwrite, toList_toByteArray])

end Codec

end BootNote.Bytes
