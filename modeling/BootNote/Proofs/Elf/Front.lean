import BootNote.Proofs.Bytes
import BootNote.Proofs.Elf.Codec

/-!
The header at the front of a file. `Header.read` succeeds with what `Header.atFront` decodes there
(`read_eq_ok_iff`). Writing the two fields that may differ changes these two fields of it
(`atFront_overwrite`), and a change behind the front changes nothing (`atFront_congr`). The other
fields of two files are equal exactly if their bytes are (`atFront_with_eq_iff`).
-/

set_option autoImplicit false
set_option relaxedAutoImplicit false

namespace BootNote.Elf.Header

open Bytes

/-- The header that the first bytes of a file decode to. -/
def atFront (b : ByteArray) : Header := decode (toList (slice b 0 headerSize))

variable {a b : ByteArray} {h : Header}

theorem read_eq_ok_iff : read b = .ok h ↔
    checkIdent (toList (slice b 0 16)) = .ok () ∧ headerSize ≤ b.size ∧ h = atFront b := by
  simp only [read, bind, Except.bind, throw, throwThe, MonadExceptOf.throw, pure, Except.pure]
  cases hident : checkIdent (toList (slice b 0 16)) with
  | error fault => simp
  | ok _ =>
    split_ifs with hsize
    · simp only [true_and, false_iff, not_and]
      omega
    · simp only [Except.ok.injEq, true_and, Nat.not_lt.mp hsize, atFront]
      exact eq_comm

/-- The first bytes of a file are those of the header that they decode to. -/
theorem encode_atFront (hsize : headerSize ≤ b.size) :
    (atFront b).encode = toList (slice b 0 headerSize) :=
  encode_decode (by rw [length_toList, size_slice (by omega)])

theorem atFront_congr (hfront : slice a 0 headerSize = slice b 0 headerSize) :
    atFront a = atFront b := by
  rw [atFront, atFront, hfront]

theorem ident_atFront : (atFront b).ident = toList (slice b 0 16) := take_slice (by decide)

theorem atFront_eq_iff (ha : headerSize ≤ a.size) (hb : headerSize ≤ b.size) :
    atFront a = atFront b ↔ ∀ p < headerSize, get? a p = get? b p := by
  constructor
  · intro heq p hp
    have hbytes : slice a 0 headerSize = slice b 0 headerSize := by
      rw [← toList_inj, ← encode_atFront ha, ← encode_atFront hb, heq]
    rw [← get?_slice_sub (Nat.zero_le p) (by omega : p < 0 + headerSize), hbytes,
      get?_slice_sub (Nat.zero_le p) (by omega)]
  · intro h
    refine atFront_congr (slice_congr fun p hp ↦ ?_)
    rw [Nat.zero_add, h p hp]

theorem size_overwrite_shoff (hsize : headerSize ≤ b.size) (shoff : UInt64) :
    (overwrite b 40 (Word.ofLong shoff).toByteArray).size = b.size := by
  rw [headerSize] at hsize
  exact size_overwrite (by rw [size_toByteArray, Word.length_ofLong]; omega)

/-- The offset of the section table and the number of segments are the two fields that are written
into a file. Every other field stays as it is. -/
theorem atFront_overwrite (hsize : headerSize ≤ b.size) (shoff : UInt64) (phnum : UInt16) :
    atFront (overwrite (overwrite b 40 (Word.ofLong shoff).toByteArray) 56
      (Word.ofHalf phnum).toByteArray) = { atFront b with shoff := shoff, phnum := phnum } := by
  have hlong : (Word.ofLong shoff).toByteArray.size = 8 := by simp
  have hhalf : (Word.ofHalf phnum).toByteArray.size = 2 := by simp
  have hplaced := size_overwrite_shoff hsize shoff
  rw [headerSize] at hsize
  simp (disch := omega) only [atFront, decode, Word.half, Word.word, Word.long, headerSize,
    take_drop_slice, take_slice, slice_overwrite_of_disjoint, slice_overwrite_self, Nat.zero_add,
    toList_toByteArray, Word.ofNat_decode_ofLong, Word.ofNat_decode_ofHalf]

/-- A position of the header outside the two fields that are written into a file. -/
structure Kept (p : Nat) : Prop where
  lt_headerSize : p < headerSize
  shoff : ¬ (40 ≤ p ∧ p < 48)
  phnum : ¬ (56 ≤ p ∧ p < 58)

instance (p : Nat) : Decidable (Kept p) :=
  decidable_of_iff (p < headerSize ∧ ¬ (40 ≤ p ∧ p < 48) ∧ ¬ (56 ≤ p ∧ p < 58))
    ⟨fun h ↦ ⟨h.1, h.2.1, h.2.2⟩, fun h ↦ ⟨h.lt_headerSize, h.shoff, h.phnum⟩⟩

/-- The bytes of the two fields are those that are written, and all others stay. -/
theorem get?_overwrite_fields (hsize : headerSize ≤ b.size) (shoff : UInt64) (phnum : UInt16)
    (p : Nat) : get? (overwrite (overwrite b 40 (Word.ofLong shoff).toByteArray) 56
      (Word.ofHalf phnum).toByteArray) p =
        if 56 ≤ p ∧ p < 58 then (Word.ofHalf phnum)[p - 56]?
        else if 40 ≤ p ∧ p < 48 then (Word.ofLong shoff)[p - 40]? else get? b p := by
  have hlong : (Word.ofLong shoff).toByteArray.size = 8 := by simp
  have hhalf : (Word.ofHalf phnum).toByteArray.size = 2 := by simp
  have hplaced := size_overwrite_shoff hsize shoff
  rw [headerSize] at hsize
  rw [get?_overwrite (by omega), get?_overwrite (by omega), hlong, hhalf, get?, get?,
    toList_toByteArray, toList_toByteArray]

/-- The headers of two files agree in the fields that are not written exactly if the files agree in
the bytes of these fields. -/
theorem atFront_with_eq_iff (ha : headerSize ≤ a.size) (hb : headerSize ≤ b.size) (shoff : UInt64)
    (phnum : UInt16) :
    { atFront a with shoff := shoff, phnum := phnum } =
        { atFront b with shoff := shoff, phnum := phnum } ↔
      ∀ p, Kept p → get? a p = get? b p := by
  have hsize {c : ByteArray} (hc : headerSize ≤ c.size) : headerSize ≤
      (overwrite (overwrite c 40 (Word.ofLong shoff).toByteArray) 56
        (Word.ofHalf phnum).toByteArray).size := by
    have hplaced := size_overwrite_shoff hc shoff
    change 64 ≤ c.size at hc
    rw [size_overwrite (by simp; omega), hplaced]
    exact hc
  rw [← atFront_overwrite ha, ← atFront_overwrite hb, atFront_eq_iff (hsize ha) (hsize hb)]
  simp only [get?_overwrite_fields ha, get?_overwrite_fields hb]
  constructor
  · intro h p kept
    have hp := h p kept.lt_headerSize
    rwa [if_neg kept.phnum, if_neg kept.shoff, if_neg kept.phnum, if_neg kept.shoff] at hp
  · intro h p hp
    split_ifs with hphnum hshoff
    · rfl
    · rfl
    · exact h p ⟨hp, hshoff, hphnum⟩

end BootNote.Elf.Header
