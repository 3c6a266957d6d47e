import BootNote.Proofs.Image.Runs

/-!
The two copies of the header. An image holds its header beside the bytes, and only two fields of it
are ever written back. `Coherent` says that the copies agree: loading the bytes of the image gives
the image. Together with tables that lie apart it is kept by every edit that keeps track of the
tables (`Coherent.apply`), so it holds along every run of them (`coherent_of_reaches`).
-/

set_option autoImplicit false
set_option relaxedAutoImplicit false

namespace BootNote.Image

open Bytes Elf

/-- The changes that keep track of the tables. Room is made behind the segment table. -/
def Edit.KeepsTables (img : Image) : Edit → Prop
  | .appendAligned _ _ => True
  | .inject _ => True
  | .makeRoom pos _ => img.header.segmentTable.stop ≤ pos
  | _ => False

/-- Memory can hold the image, loading its bytes gives the image, and its tables lie apart. -/
structure Coherent (img : Image) : Prop where
  size_lt : img.size < capacity
  loaded : load img.bytes = .ok img
  apart : img.header.Apart

variable {start img : Image} {edit : Edit} {note : Note} {pos len : Nat}

theorem Coherent.size_lt_lastOffset (coherent : img.Coherent) : img.size < lastOffset :=
  lt_lastOffset coherent.size_lt

theorem Coherent.fits (coherent : img.Coherent) : img.header.FitsIn img.size :=
  fitsIn_of_load coherent.size_lt_lastOffset coherent.loaded

/-- The segment table lies behind the header. -/
theorem Coherent.segmentTable_meets (coherent : img.Coherent) :
    img.header.segmentTable.meets 0 headerSize = false := by
  have fits := coherent.fits
  have hphoff := fits.headerSize_le
  rw [fits.segmentTable_eq coherent.size_lt_lastOffset]
  simp only [Extent.meets, Bool.and_eq_false_iff, decide_eq_false_iff_not]
  omega

theorem Coherent.appendAligned (coherent : img.Coherent) {new : ByteArray} {step : Nat}
    (hsize : (img.appendAligned new step).size < capacity) :
    (img.appendAligned new step).Coherent := by
  have fits := coherent.fits
  have hfront := fits.headerSize_le_size
  change 64 ≤ img.bytes.size at hfront
  obtain ⟨-, -, hheader, -⟩ := (load_eq_ok_iff coherent.size_lt_lastOffset).mp coherent.loaded
  refine ⟨hsize, load_of_front coherent.size_lt_lastOffset coherent.loaded (lt_lastOffset hsize)
    (fits.mono (size_le_appendAligned new step)) ?_ ?_, coherent.apart⟩
  · exact slice_appendAligned_of_le (by omega)
  · exact (Header.atFront_congr (slice_appendAligned_of_le hfront)).trans hheader.symm

theorem Coherent.withRoom (coherent : img.Coherent) (checked : img.checkRoom pos len = .ok ())
    (hpos : img.header.segmentTable.stop ≤ pos) (hsize : (img.withRoom pos len).size < capacity) :
    (img.withRoom pos len).Coherent := by
  have fits := coherent.fits
  obtain ⟨movable, hle⟩ := checkRoom_eq_ok_iff.mp checked
  have hlast := coherent.size_lt_lastOffset
  rw [segmentTable_stop fits hlast] at hpos
  exact ⟨hsize, load_withRoom fits movable hpos hlast coherent.apart hle coherent.loaded
    (lt_lastOffset hsize), apart_withRoom fits movable hpos hlast coherent.apart
      (lt_lastOffset hsize)⟩

theorem Coherent.roomFor (coherent : img.Coherent) {strategy : Strategy}
    (checked : img.checkFor strategy = .ok ()) (hsize : (img.roomFor strategy).size < capacity) :
    (img.roomFor strategy).Coherent := by
  cases strategy with
  | shifted =>
    exact coherent.withRoom checked
      (Nat.le_of_eq (segmentTable_stop coherent.fits coherent.size_lt_lastOffset)) hsize
  | reusedPadding => exact coherent

/-- Both strategies make room for an entry that shares no byte with the section table. -/
theorem Coherent.withNote (coherent : img.Coherent) {strategy : Strategy} {available : Nat}
    (found : img.findRoom = .ok (strategy, available)) (checked : img.checkFor strategy = .ok ())
    (hsize : ((img.roomFor strategy).withNote note).size < capacity) :
    ((img.roomFor strategy).withNote note).Coherent := by
  have fits := coherent.fits
  have hlast := coherent.size_lt_lastOffset
  obtain ⟨fits', room⟩ := hasRoom_roomFor fits hlast found checked
  have hsize' : (img.roomFor strategy).size < capacity := by
    rw [size_withNote room fits'] at hsize
    have hle := (img.roomFor strategy).size_le_alignUp
    omega
  have coherent' := coherent.roomFor checked hsize'
  exact ⟨hsize, load_withNote room fits' (lt_lastOffset hsize') coherent'.loaded
    (lt_lastOffset hsize), apart_injected note fits hlast found checked coherent.apart
      (lt_lastOffset hsize)⟩

/-- Every edit that keeps track of the tables keeps the two copies of the header equal, whether or
not it fails. -/
theorem Coherent.apply (coherent : img.Coherent) (keeps : edit.KeepsTables img)
    (hsize : (edit.apply img).size < capacity) : (edit.apply img).Coherent := by
  cases edit with
  | insertAt pos new => exact keeps.elim
  | overwriteAt pos new => exact keeps.elim
  | appendAligned new step => exact coherent.appendAligned hsize
  | makeRoom pos len =>
    rw [apply_makeRoom coherent.fits] at hsize ⊢
    split_ifs at hsize ⊢ with checked
    · exact coherent.withRoom checked keeps hsize
    · exact coherent
  | inject note =>
    rcases apply_inject coherent.fits coherent.size_lt_lastOffset note with
      happly | ⟨strategy, available, found, checked, happly⟩
    · rw [happly]
      exact coherent
    · rw [happly] at hsize ⊢
      exact coherent.withNote found checked hsize
  | reload => exact keeps.elim

/-- Along a run of edits that keep track of the tables, failing or not, from a loaded image whose
tables lie apart: the image is what loading its bytes gives, with the same header and the same
entries in both tables, and the header and the two tables share no byte. -/
theorem coherent_of_reaches {bytes : ByteArray} (hsize : bytes.size < capacity)
    (loaded : load bytes = .ok start) (apart : start.header.Apart)
    (reached : Reaches (fun img edit ↦ edit.KeepsTables img) start img) :
    load img.bytes = .ok img ∧ img.header.Apart ∧
      img.header.segmentTable.meets 0 headerSize = false := by
  have hstart : start.Coherent := by
    obtain ⟨rfl, -⟩ := (load_eq_ok_iff (lt_lastOffset hsize)).mp loaded
    exact ⟨hsize, loaded, apart⟩
  have coherent : img.Coherent :=
    reached.invariant hstart fun _ _ coherent keeps hsize' ↦ coherent.apply keeps hsize'
  exact ⟨coherent.loaded, coherent.apart, coherent.segmentTable_meets⟩

theorem coherent_sampleResult : load sampleResult.bytes = .ok sampleResult ∧
    sampleResult.header.Apart ∧ sampleResult.header.segmentTable.meets 0 headerSize = false := by
  have hsize : ((Edit.inject ⟨0x1000⟩).apply sampleImage).size < capacity := by
    rw [apply_inject_of_ok inject_sampleImage, size_sampleResult]
    decide
  have reached : Reaches (fun img edit ↦ edit.KeepsTables img) sampleImage
      ((Edit.inject ⟨0x1000⟩).apply sampleImage) := .next (.inject ⟨0x1000⟩) .start trivial hsize
  rw [apply_inject_of_ok inject_sampleImage] at reached
  exact coherent_of_reaches size_sampleBytes load_sampleBytes apart_sampleImage reached

end BootNote.Image
