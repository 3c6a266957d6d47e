import BootNote.Proofs.Note

/-!
The records of a note segment as a format. A `Record` has a type, a name and a descriptor, with any
bytes behind each of them up to the next multiple of four. Reading takes records from the front one
by one (`readAll_encode_append`) and passes over all that are no boot note. It comes to an end on
every byte string: behind finitely many records there is one whose last bytes of padding are
missing, or nothing that a record fits in (`Ends`, `exists_walk`). `readAll_records` says all of
this.
-/

set_option autoImplicit false
set_option relaxedAutoImplicit false

namespace BootNote.Note

open Bytes

/-! ### Records -/

/-- A record of a note segment, with the bytes that fill up its name and its descriptor. -/
structure Record where
  type : UInt32
  name : List UInt8
  namePadding : List UInt8
  descriptor : List UInt8
  descriptorPadding : List UInt8
  name_lt : name.length < 2 ^ 32
  descriptor_lt : descriptor.length < 2 ^ 32
  namePadding_eq : name.length + namePadding.length = alignUp name.length 4
  descriptorPadding_eq :
    descriptor.length + descriptorPadding.length = alignUp descriptor.length 4

namespace Record

variable (r : Record)

/-- The three words at the front of a record. -/
def header : List UInt8 :=
  Word.ofWord (.ofNat r.name.length) ++ Word.ofWord (.ofNat r.descriptor.length) ++
    Word.ofWord r.type

/-- The bytes of a record up to the end of its descriptor. -/
def front : List UInt8 := r.header ++ (r.name ++ r.namePadding ++ r.descriptor)

/-- The bytes of a record. -/
def encode : List UInt8 := r.front ++ r.descriptorPadding

/-- The boot note that a record is, if it is one. -/
def note? : Option Note :=
  if r.name = Note.name ∧ r.descriptor.length = 4 ∧ r.type = Note.type then
    some ⟨.ofNat (Word.decode r.descriptor)⟩
  else none

theorem length_front :
    r.front.length = recordHeaderSize + alignUp r.name.length 4 + r.descriptor.length := by
  simp only [front, header, List.length_append, Word.length_ofWord, ← r.namePadding_eq,
    recordHeaderSize]
  omega

/-- The next record starts at the next multiple of four. -/
theorem length_encode : r.encode.length = alignUp r.front.length 4 := by
  have hpadding := r.descriptorPadding_eq
  rw [encode, List.length_append, length_front]
  simp only [alignUp, recordHeaderSize] at *
  omega

end Record

/-- The bytes are too few for a record: for its three words, or for the name and the descriptor
whose lengths are the first two of them. -/
def CutsOff (bs : List UInt8) : Prop :=
  bs.length < recordHeaderSize ∨ bs.length < recordHeaderSize +
    alignUp (Word.decode (bs.take 4)) 4 + Word.decode ((bs.drop 4).take 4)

instance (bs : List UInt8) : Decidable (CutsOff bs) := inferInstanceAs (Decidable (_ ∨ _))

/-! ### Behind other bytes -/

section Append

variable {front data : ByteArray} {pos : Nat}

theorem wordAt_append : wordAt (front ++ data) (front.size + pos) = wordAt data pos := by
  rw [wordAt, slice_append_right, wordAt]

theorem recordEnd?_append : recordEnd? (front ++ data) (front.size + pos) =
    (recordEnd? data pos).map (front.size + ·) := by
  unfold recordEnd?
  simp only [Nat.add_assoc front.size, wordAt_append, ByteArray.size_append,
    Nat.add_le_add_iff_left]
  split_ifs <;> rfl

/-- Bytes in front of a record that is read first make no difference. -/
theorem readFrom_append : readFrom (front ++ data) (front.size + pos) = readFrom data pos := by
  induction hrest : data.size - pos using Nat.strongRecOn generalizing pos with
  | ind rest ih =>
    have hend : recordEnd? (front ++ data) (front.size + pos) = _ := recordEnd?_append
    cases hrecord : recordEnd? data pos with
    | none => rw [readFrom_of_none hrecord, readFrom_of_none (by rw [hend, hrecord]; rfl)]
    | some stop =>
      obtain ⟨hstart, hstop⟩ := add_recordHeaderSize_le_of_recordEnd? hrecord
      have hnext := le_alignUp (stop - pos) (show 0 < 4 by decide)
      rw [recordHeaderSize] at hstart
      rw [readFrom_of_some hrecord, readFrom_of_some (by rw [hend, hrecord]; rfl),
        Nat.add_sub_add_left, slice_append_right, Nat.add_assoc, ih _ (by omega) rfl]

end Append

/-! ### One record -/

section Front

variable (r : Record) {data : ByteArray}

theorem length_header : r.header.length = 12 := by simp [Record.header]

/-- What is read from three words and the bytes behind them. -/
theorem decode?_words (nameLength descriptorLength type : UInt32) (body : List UInt8) :
    decode? (Word.ofWord nameLength ++ Word.ofWord descriptorLength ++ Word.ofWord type ++ body) =
      if 8 ≤ body.length ∧ nameLength = 4 ∧ descriptorLength = 4 ∧ type = Note.type ∧
          body.take 4 = name then
        some ⟨.ofNat (Word.decode ((body.drop 4).take 4))⟩
      else none := by
  have hsize : size ≤ 4 + (4 + (4 + body.length)) ↔ 8 ≤ body.length := by
    rw [size]
    omega
  simp [decode?, Word.word, List.drop_append, List.drop_eq_nil_of_le, hsize]

theorem decode_ofWord_ofNat {n : Nat} (hn : n < 2 ^ 32) :
    Word.decode (Word.ofWord (.ofNat n)) = n := by
  rw [Word.ofWord, Word.decode_encode, UInt32.toNat_ofNat_of_lt' hn]
  exact Nat.mod_eq_of_lt hn

theorem ofNat_eq_four_iff {n : Nat} (hn : n < 2 ^ 32) : UInt32.ofNat n = 4 ↔ n = 4 := by
  rw [← UInt32.toNat_inj, UInt32.toNat_ofNat_of_lt' hn]
  rfl

/-- The bytes at the front of a record are read as the note that the record is, if it is one. -/
theorem decode?_front : decode? (r.front.take size) = r.note? := by
  have hbody : r.front.take size =
      r.header ++ (r.name ++ r.namePadding ++ r.descriptor).take 8 := by
    rw [Record.front, List.take_append, length_header,
      List.take_of_length_le (by rw [length_header]; decide)]
    rfl
  rw [hbody, Record.header, decode?_words, Record.note?]
  simp only [ofNat_eq_four_iff r.name_lt, ofNat_eq_four_iff r.descriptor_lt]
  by_cases hlengths : r.name.length = 4 ∧ r.descriptor.length = 4
  · obtain ⟨hname, hdescriptor⟩ := hlengths
    have hpadding : r.namePadding = [] := by
      have hfull := r.namePadding_eq
      rw [hname] at hfull
      exact List.length_eq_zero_iff.mp (Nat.add_left_cancel hfull)
    have hlength : (r.name ++ r.descriptor).length = 8 := by
      rw [List.length_append, hname, hdescriptor]
    rw [hpadding, List.append_nil, List.take_of_length_le (Nat.le_of_eq hlength),
      List.take_left' hname, List.drop_left' hname,
      List.take_of_length_le (Nat.le_of_eq hdescriptor)]
    refine if_congr ?_ rfl rfl
    constructor
    · rintro ⟨-, -, -, htype, hname⟩
      exact ⟨hname, hdescriptor, htype⟩
    · rintro ⟨hname', -, htype⟩
      exact ⟨Nat.le_of_eq hlength.symm, hname, hdescriptor, htype, hname'⟩
  · rw [if_neg, if_neg]
    · rintro ⟨hname, hdescriptor, -⟩
      exact hlengths ⟨congrArg List.length hname, hdescriptor⟩
    · rintro ⟨-, hname, hdescriptor, -⟩
      exact hlengths ⟨hname, hdescriptor⟩

variable {r}

theorem recordEnd?_of_front (holds : HoldsAt data 0 r.front) :
    recordEnd? data 0 = some r.front.length := by
  have hlength := r.length_front
  have hend := holds.length_le
  rw [List.drop_zero, length_toList] at hend
  have hname : wordAt data 0 = r.name.length := by
    have hslice : toList (slice data 0 4) = (r.front.drop 0).take 4 :=
      holds.toList_slice (q := 0) (n := 4) (by rw [hlength, recordHeaderSize]; omega)
    rw [wordAt, hslice, ← decode_ofWord_ofNat r.name_lt]
    simp [Record.front, Record.header]
  have hdescriptor : wordAt data 4 = r.descriptor.length := by
    have hslice : toList (slice data 4 4) = (r.front.drop 4).take 4 :=
      holds.toList_slice (q := 4) (n := 4) (by rw [hlength, recordHeaderSize]; omega)
    rw [wordAt, hslice, ← decode_ofWord_ofNat r.descriptor_lt]
    simp [Record.front, Record.header]
  rw [hlength] at hend
  rw [recordEnd?, Nat.zero_add, Nat.zero_add, hname, hdescriptor, if_pos (by omega), if_pos hend,
    hlength]

/-- A record at the front of a byte string is read, and reading goes on behind its padding. -/
theorem readAll_of_front (holds : HoldsAt data 0 r.front) :
    readAll data = r.note?.toList ++ readFrom data r.encode.length := by
  have hslice : toList (slice data 0 (min r.front.length size)) = r.front.take size := by
    rw [Nat.min_comm, List.take_eq_take_min (i := size)]
    exact holds.toList_slice (q := 0) (by omega)
  rw [readAll, readFrom_of_some (recordEnd?_of_front holds), Nat.sub_zero, Nat.zero_add, hslice,
    decode?_front, r.length_encode]

end Front

/-! ### Any number of records -/

section Walk

variable {bs tail : List UInt8}

/-- A record is read on its own, and so are the bytes behind it. -/
theorem readAll_encode_append (r : Record) : readAll (r.encode ++ tail).toByteArray =
    r.note?.toList ++ readAll tail.toByteArray := by
  have hbytes : (r.encode ++ tail).toByteArray = r.encode.toByteArray ++ tail.toByteArray :=
    toList_inj.mp (by simp)
  have hfront : toList (r.encode ++ tail).toByteArray =
      [] ++ r.front ++ (r.descriptorPadding ++ tail) := by
    rw [toList_toByteArray, Record.encode, List.nil_append, List.append_assoc]
  have holds : HoldsAt (r.encode ++ tail).toByteArray 0 r.front := holdsAt_of_toList_eq hfront
  rw [readAll_of_front holds, hbytes, ← size_toByteArray, ← Nat.add_zero (ByteArray.size _),
    readFrom_append]
  rfl

theorem readAll_flatMap_append (records : List Record) :
    readAll (records.flatMap Record.encode ++ tail).toByteArray =
      records.filterMap Record.note? ++ readAll tail.toByteArray := by
  induction records with
  | nil => rfl
  | cons r rest ih =>
    rw [List.flatMap_cons, List.append_assoc, readAll_encode_append, ih, List.filterMap_cons]
    cases r.note? <;> rfl

/-- The last record is read without its padding. -/
theorem readAll_take_encode (r : Record) {n : Nat} (hn : r.front.length ≤ n) :
    readAll (r.encode.take n).toByteArray = r.note?.toList := by
  have hprefix : r.front <+: r.encode.take n := by
    rw [Record.encode, List.take_append, List.take_of_length_le hn]
    exact List.prefix_append _ _
  have holds : HoldsAt (r.encode.take n).toByteArray 0 r.front := by
    rwa [HoldsAt, toList_toByteArray, List.drop_zero]
  rw [readAll_of_front holds, readFrom_of_size_le, List.append_nil]
  rw [size_toByteArray]
  exact List.length_take_le' _ _

theorem readAll_of_cutsOff (cut : CutsOff tail) : readAll tail.toByteArray = [] := by
  refine readFrom_of_none ?_
  have hname : wordAt tail.toByteArray 0 = Word.decode (tail.take 4) := by simp [wordAt]
  have hdescriptor : wordAt tail.toByteArray 4 = Word.decode ((tail.drop 4).take 4) := by
    simp [wordAt]
  rw [recordEnd?, Nat.zero_add, Nat.zero_add, hname, hdescriptor, size_toByteArray]
  unfold CutsOff at cut
  split_ifs with hwords
  · dsimp only
    rw [if_neg (by omega)]
  · rfl

/-- The three words at the front of a byte string are its first bytes. -/
theorem ofWord_words (hbs : recordHeaderSize ≤ bs.length) :
    Word.ofWord (Word.word bs 0) ++ Word.ofWord (Word.word bs 4) ++ Word.ofWord (Word.word bs 8) =
      bs.take recordHeaderSize := by
  rw [recordHeaderSize] at hbs
  rw [Word.ofWord_word (by omega), Word.ofWord_word (by omega), Word.ofWord_word hbs,
    List.drop_zero, ← List.take_add, ← List.take_add]
  rfl

/-- Three words, a padded name and a descriptor, of the lengths that the first two words give, are
the front of a record. -/
theorem exists_front_eq {nameLength descriptorLength : UInt32} (type : UInt32)
    {padded descriptor : List UInt8} (hpadded : padded.length = alignUp nameLength.toNat 4)
    (hdescriptor : descriptor.length = descriptorLength.toNat) : ∃ r : Record, r.front =
      Word.ofWord nameLength ++ Word.ofWord descriptorLength ++ Word.ofWord type ++
        (padded ++ descriptor) := by
  have hname : (padded.take nameLength.toNat).length = nameLength.toNat :=
    List.length_take_of_le (by rw [hpadded]; exact le_alignUp _ (by decide))
  refine ⟨{
    type := type
    name := padded.take nameLength.toNat
    namePadding := padded.drop nameLength.toNat
    descriptor := descriptor
    descriptorPadding :=
      List.replicate (alignUp descriptorLength.toNat 4 - descriptorLength.toNat) 0
    name_lt := by
      rw [hname]
      exact nameLength.toNat_lt
    descriptor_lt := by
      rw [hdescriptor]
      exact descriptorLength.toNat_lt
    namePadding_eq := by
      rw [← List.length_append, List.take_append_drop, hpadded, hname]
    descriptorPadding_eq := by
      rw [hdescriptor, List.length_replicate]
      exact Nat.add_sub_cancel' (le_alignUp _ (by decide)) }, ?_⟩
  rw [Record.front, Record.header]
  dsimp only
  rw [hname, hdescriptor, UInt32.ofNat_toNat, UInt32.ofNat_toNat, List.take_append_drop]

/-- Bytes that do not cut off a record start with one, up to its last padding. -/
theorem exists_front (whole : ¬ CutsOff bs) : ∃ (r : Record) (rest : List UInt8),
    bs = r.front ++ rest := by
  have hname : Word.decode (bs.take 4) = (Word.word bs 0).toNat := by
    rw [Word.toNat_word, List.drop_zero]
  have hdescriptor : Word.decode ((bs.drop 4).take 4) = (Word.word bs 4).toNat :=
    Word.toNat_word.symm
  obtain ⟨hwords, hend⟩ := not_or.mp whole
  rw [hname, hdescriptor] at hend
  -- What follows the three words is the padded name, the descriptor and the rest.
  let body := bs.drop recordHeaderSize
  let behind := body.drop (alignUp (Word.word bs 0).toNat 4)
  have hbody : body.length = bs.length - recordHeaderSize := List.length_drop
  have hbehind : behind.length = body.length - alignUp (Word.word bs 0).toNat 4 :=
    List.length_drop
  obtain ⟨r, hfront⟩ := exists_front_eq (Word.word bs 8)
    (List.length_take_of_le (by omega : alignUp (Word.word bs 0).toNat 4 ≤ body.length))
    (List.length_take_of_le (by omega : (Word.word bs 4).toNat ≤ behind.length))
  refine ⟨r, behind.drop (Word.word bs 4).toNat, ?_⟩
  rw [hfront, ofWord_words (Nat.not_lt.mp hwords), List.append_assoc, List.append_assoc,
    List.take_append_drop, List.take_append_drop, List.take_append_drop]

/-- Bytes that do not cut off a record start with one, or are one that lacks bytes of its last
padding. -/
theorem exists_record (whole : ¬ CutsOff bs) : ∃ r : Record, (∃ rest, bs = r.encode ++ rest) ∨
    ∃ n, r.front.length ≤ n ∧ n < r.encode.length ∧ bs = r.encode.take n := by
  obtain ⟨r, rest, rfl⟩ := exists_front whole
  let filled : Record := { r with
    descriptorPadding := rest.take r.descriptorPadding.length ++
      List.replicate (r.descriptorPadding.length - rest.length) 0
    descriptorPadding_eq := by
      rw [← r.descriptorPadding_eq, List.length_append, List.length_take, List.length_replicate]
      omega }
  have hencode : filled.encode = r.front ++ (rest.take r.descriptorPadding.length ++
      List.replicate (r.descriptorPadding.length - rest.length) 0) := rfl
  refine ⟨filled, ?_⟩
  by_cases hfull : r.descriptorPadding.length ≤ rest.length
  · refine Or.inl ⟨rest.drop r.descriptorPadding.length, ?_⟩
    rw [hencode, Nat.sub_eq_zero_of_le hfull, List.replicate_zero, List.append_nil,
      List.append_assoc, List.take_append_drop]
  · have hrest : rest.take r.descriptorPadding.length = rest := List.take_of_length_le (by omega)
    rw [hrest, ← List.append_assoc] at hencode
    refine Or.inr ⟨(r.front ++ rest).length, ?_, ?_, ?_⟩
    · rw [List.length_append]
      exact Nat.le_add_right _ _
    · have hzeros := congrArg List.length hencode
      rw [List.length_append, List.length_replicate] at hzeros
      omega
    · rw [hencode, List.take_left]

/-- The bytes with which reading ends, and the boot notes that are read from them: no record fits
in them, or they are one record that lacks bytes of its last padding. -/
inductive Ends : List UInt8 → List Note → Prop where
  | cutOff {bs : List UInt8} (cut : CutsOff bs) : Ends bs []
  | unpadded (r : Record) {n : Nat} (hfront : r.front.length ≤ n) (hn : n < r.encode.length) :
    Ends (r.encode.take n) r.note?.toList

theorem readAll_of_ends {notes : List Note} (ends : Ends tail notes) :
    readAll tail.toByteArray = notes := by
  cases ends with
  | cutOff cut => exact readAll_of_cutsOff cut
  | unpadded r hfront _ => exact readAll_take_encode r hfront

/-- Every byte string is a list of records and bytes with which reading ends. -/
theorem exists_walk (bs : List UInt8) : ∃ (records : List Record) (rest : List UInt8)
    (notes : List Note), bs = records.flatMap Record.encode ++ rest ∧ Ends rest notes := by
  induction hlength : bs.length using Nat.strongRecOn generalizing bs with
  | ind length ih =>
    by_cases cut : CutsOff bs
    · exact ⟨[], bs, [], rfl, .cutOff cut⟩
    · obtain ⟨r, ⟨tail, rfl⟩ | ⟨n, hfront, hn, rfl⟩⟩ := exists_record cut
      · have hshorter : tail.length < length := by
          rw [← hlength, List.length_append, r.length_encode, r.length_front, recordHeaderSize,
            alignUp]
          omega
        obtain ⟨records, rest, notes, rfl, ends⟩ := ih tail.length hshorter tail rfl
        exact ⟨r :: records, rest, notes, by rw [List.flatMap_cons, List.append_assoc], ends⟩
      · exact ⟨[], _, _, rfl, .unpadded r hfront hn⟩

end Walk

/-! ### Reading a note segment -/

/-- Reading takes the boot notes out of a list of records, in their order, and goes on with the
bytes behind it. Where no record fits, it ends; a record that lacks bytes of its last padding is
read like any other; and on every byte string it comes to one of these two ends. -/
theorem readAll_records (records : List Record) (tail : List UInt8) :
    readAll (records.flatMap Record.encode ++ tail).toByteArray =
        records.filterMap Record.note? ++ readAll tail.toByteArray ∧
      (CutsOff tail → readAll tail.toByteArray = []) ∧
      (∀ (r : Record) (n : Nat), r.front.length ≤ n → tail = r.encode.take n →
        readAll tail.toByteArray = r.note?.toList) ∧
      ∃ (walked : List Record) (rest : List UInt8) (last : List Note),
        tail = walked.flatMap Record.encode ++ rest ∧ Ends rest last ∧
          readAll tail.toByteArray = walked.filterMap Record.note? ++ last := by
  refine ⟨readAll_flatMap_append records, readAll_of_cutsOff, ?_, ?_⟩
  · rintro r n hn rfl
    exact readAll_take_encode r hn
  · obtain ⟨walked, rest, last, rfl, ends⟩ := exists_walk tail
    exact ⟨walked, rest, last, rfl, ends,
      by rw [readAll_flatMap_append, readAll_of_ends ends]⟩

/-- A record of another kind, whose descriptor takes three bytes of padding. -/
def sampleRecord : Record where
  type := 3
  name := [0x47, 0x4e, 0x55, 0x00, 0x21]
  namePadding := [0xff, 0xff, 0xff]
  descriptor := [1, 2, 3, 4, 5]
  descriptorPadding := [0xaa, 0xbb, 0xcc]
  name_lt := by decide
  descriptor_lt := by decide
  namePadding_eq := by decide
  descriptorPadding_eq := by decide

/-- A boot note as a record. -/
def noteRecord (entry : UInt32) : Record where
  type := Note.type
  name := Note.name
  namePadding := []
  descriptor := Word.ofWord entry
  descriptorPadding := []
  name_lt := by decide
  descriptor_lt := by rw [Word.length_ofWord]; decide
  namePadding_eq := by decide
  descriptorPadding_eq := by rw [Word.length_ofWord]; decide

/-- A note is found behind a record of another kind. The record at the end of the first byte string
lacks two bytes of its last padding, and the one at the end of the second its last byte. -/
theorem readAll_sampleRecords :
    readAll ([sampleRecord, noteRecord 0x1000].flatMap Record.encode ++
        sampleRecord.encode.take 26).toByteArray = [⟨0x1000⟩] ∧
      CutsOff ((noteRecord 0x2000).encode.take 19) ∧
      readAll ([sampleRecord, noteRecord 0x1000].flatMap Record.encode ++
        (noteRecord 0x2000).encode.take 19).toByteArray = [⟨0x1000⟩] := by
  have cut : CutsOff ((noteRecord 0x2000).encode.take 19) := by decide +kernel
  obtain ⟨hunpadded, -, hlast, -⟩ :=
    readAll_records [sampleRecord, noteRecord 0x1000] (sampleRecord.encode.take 26)
  obtain ⟨hcut, hnone, -, -⟩ :=
    readAll_records [sampleRecord, noteRecord 0x1000] ((noteRecord 0x2000).encode.take 19)
  have hnotes : [sampleRecord, noteRecord 0x1000].filterMap Record.note? = [⟨0x1000⟩] := by
    decide +kernel
  have hother : sampleRecord.note? = none := by decide +kernel
  refine ⟨?_, cut, ?_⟩
  · rw [hunpadded, hlast sampleRecord 26 (by decide +kernel) rfl, hnotes, hother]
    rfl
  · rw [hcut, hnone cut, hnotes]
    rfl

end BootNote.Note
