import BootNote.Elf.Header
import BootNote.Proofs.Bytes

/-!
Where a header places its two tables. `FitsIn` says in unbounded numbers what `Header.check` accepts
(`check_eq_ok_iff`): the entries have their sizes and both tables end in the file. `Apart` says that
the section table shares no byte with the header and none with the segment table.
-/

set_option autoImplicit false
set_option relaxedAutoImplicit false

namespace BootNote.Elf

open Bytes

/-- Whatever memory can hold ends in front of the last offset. -/
theorem lt_lastOffset {n : Nat} (h : n < capacity) : n < lastOffset := Nat.lt_trans h (by decide)

namespace Header

/-- The tables of a header lie in a file of `size` bytes, with entries of the sizes they have to
have. A header that counts no sections places no table of them. -/
structure FitsIn (h : Header) (size : Nat) : Prop where
  phnum_ne_zero : h.phnum ≠ 0
  phentsize_eq : h.phentsize.toNat = segmentSize
  headerSize_le : headerSize ≤ h.phoff.toNat
  segments_le : h.phoff.toNat + h.phnum.toNat * segmentSize ≤ size
  shoff_eq_zero : h.shnum = 0 → h.shoff = 0
  shentsize_eq : h.shnum ≠ 0 → h.shentsize.toNat = sectionSize
  sections_le : h.shnum ≠ 0 → h.shoff.toNat + h.shnum.toNat * sectionSize ≤ size

/-- The section table, if there is one, shares no byte with the header and none with the segment
table. -/
def Apart (h : Header) : Prop :=
  h.shnum ≠ 0 → h.sectionTable.meets 0 headerSize = false ∧
    h.sectionTable.meets h.segmentTable.start h.segmentTable.stop = false

instance (h : Header) : Decidable h.Apart :=
  inferInstanceAs (Decidable (h.shnum ≠ 0 → _))

variable {h : Header} {size : Nat}

theorem segmentTable_stop_lt_iff (hsize : size < lastOffset)
    (hent : h.phentsize.toNat = segmentSize) :
    size < h.segmentTable.stop ↔ size < h.phoff.toNat + h.phnum.toNat * segmentSize := by
  simp only [segmentTable, Extent.ofSize, hent, Nat.mul_comm segmentSize, lastOffset] at *
  omega

theorem sectionTable_stop_lt_iff (hsize : size < lastOffset)
    (hent : h.shentsize.toNat = sectionSize) :
    size < h.sectionTable.stop ↔ size < h.shoff.toNat + h.shnum.toNat * sectionSize := by
  simp only [sectionTable, Extent.ofSize, hent, Nat.mul_comm sectionSize, lastOffset] at *
  omega

/-- The check accepts exactly the headers whose tables lie in the file. The end of a table is cut
off at the last offset, which no file in memory reaches. -/
theorem check_eq_ok_iff (hsize : size < lastOffset) : h.check size = .ok () ↔ h.FitsIn size := by
  constructor
  · intro hcheck
    simp only [check, bind, Except.bind, throw, throwThe, MonadExceptOf.throw, pure, Except.pure]
      at hcheck
    split_ifs at hcheck with hfirst hent hstop hnum hoff hsent hsstop <;> try contradiction
    · exact ⟨(not_or.mp hfirst).1, not_not.mp hent, Nat.not_lt.mp (not_or.mp hfirst).2,
        Nat.not_lt.mp ((segmentTable_stop_lt_iff hsize (not_not.mp hent)).not.mp hstop),
        fun _ ↦ not_not.mp hoff, (absurd hnum ·), (absurd hnum ·)⟩
    · exact ⟨(not_or.mp hfirst).1, not_not.mp hent, Nat.not_lt.mp (not_or.mp hfirst).2,
        Nat.not_lt.mp ((segmentTable_stop_lt_iff hsize (not_not.mp hent)).not.mp hstop),
        (absurd · hnum), fun _ ↦ not_not.mp hsent,
        fun _ ↦ Nat.not_lt.mp ((sectionTable_stop_lt_iff hsize (not_not.mp hsent)).not.mp hsstop)⟩
  · intro fits
    have hfirst : ¬ (h.phnum = 0 ∨ h.phoff.toNat < headerSize) :=
      not_or.mpr ⟨fits.phnum_ne_zero, Nat.not_lt.mpr fits.headerSize_le⟩
    have hstop : ¬ size < h.segmentTable.stop :=
      (segmentTable_stop_lt_iff hsize fits.phentsize_eq).not.mpr (Nat.not_lt.mpr fits.segments_le)
    simp only [check, bind, Except.bind, pure, Except.pure, if_neg hfirst, if_neg hstop,
      fits.phentsize_eq, ne_eq, not_true_eq_false, if_false]
    split_ifs with hnum hoff hsent hsstop
    · rfl
    · exact absurd (fits.shoff_eq_zero hnum) hoff
    · exact absurd (fits.sections_le hnum)
        (Nat.not_le.mpr ((sectionTable_stop_lt_iff hsize (fits.shentsize_eq hnum)).mp hsstop))
    · rfl
    · exact absurd (fits.shentsize_eq hnum) hsent

theorem FitsIn.mono {size' : Nat} (fits : h.FitsIn size) (hle : size ≤ size') : h.FitsIn size' :=
  { fits with
    segments_le := Nat.le_trans fits.segments_le hle
    sections_le := fun hnum ↦ Nat.le_trans (fits.sections_le hnum) hle }

theorem FitsIn.segmentTable_eq (fits : h.FitsIn size) (hsize : size < lastOffset) :
    h.segmentTable = ⟨h.phoff.toNat, h.phoff.toNat + h.phnum.toNat * segmentSize⟩ := by
  have hle := fits.segments_le
  simp only [segmentTable, Extent.ofSize, fits.phentsize_eq, Nat.mul_comm segmentSize, lastOffset,
    Extent.mk.injEq, true_and] at *
  omega

theorem FitsIn.sectionTable_eq (fits : h.FitsIn size) (hsize : size < lastOffset)
    (hnum : h.shnum ≠ 0) :
    h.sectionTable = ⟨h.shoff.toNat, h.shoff.toNat + h.shnum.toNat * sectionSize⟩ := by
  have hle := fits.sections_le hnum
  simp only [sectionTable, Extent.ofSize, fits.shentsize_eq hnum, Nat.mul_comm sectionSize,
    lastOffset, Extent.mk.injEq, true_and] at *
  omega

theorem FitsIn.headerSize_le_size (fits : h.FitsIn size) : headerSize ≤ size := by
  have hoff := fits.headerSize_le
  have hle := fits.segments_le
  omega

theorem toNat_pos {n : UInt16} (hn : n ≠ 0) : 0 < n.toNat :=
  Nat.pos_of_ne_zero fun hzero ↦ hn (UInt16.toNat_inj.mp hzero)

/-- For tables that lie in the file, to be apart is to lie behind the header and on one side of the
segment table. -/
theorem FitsIn.apart_iff (fits : h.FitsIn size) (hsize : size < lastOffset) :
    h.Apart ↔ (h.shnum ≠ 0 → headerSize ≤ h.shoff.toNat ∧
      (h.shoff.toNat + h.shnum.toNat * sectionSize ≤ h.phoff.toNat ∨
        h.phoff.toNat + h.phnum.toNat * segmentSize ≤ h.shoff.toNat)) := by
  refine forall_congr' fun hnum ↦ ?_
  have hphnum := toNat_pos fits.phnum_ne_zero
  have hshnum := toNat_pos hnum
  simp only [fits.segmentTable_eq hsize, fits.sectionTable_eq hsize hnum, Extent.meets,
    Bool.and_eq_false_iff, decide_eq_false_iff_not, headerSize, segmentSize, sectionSize]
  omega

end Header

end BootNote.Elf
