import BootNote.Proofs.Image.Frame

/-!
Runs of edits. An `Edit` is one change of an image; it may fail, and a run goes on from the state
that a failed edit leaves behind. `Reaches` are the images of the runs from a start, which are all
shorter than what memory holds.

Under any edits, the header goes on placing its tables in the image (`fitsIn_of_reaches`). Therefore
an edit that fails has changed nothing, and making room and injecting fail only in the checks that
they begin with (`unchanged_of_error`).
-/

set_option autoImplicit false
set_option relaxedAutoImplicit false

namespace BootNote.Image

open Bytes Elf

/-- A change of an image. -/
inductive Edit where
  | insertAt (pos : Nat) (new : ByteArray)
  | overwriteAt (pos : Nat) (new : ByteArray)
  | appendAligned (new : ByteArray) (step : Nat)
  | makeRoom (pos len : Nat)
  | inject (note : Note)
  /-- Loads the image again from its bytes. -/
  | reload

namespace Edit

/-- Makes a change, of which an injection alone has a result, and drops the result. -/
def act : Edit → Action Image Unit
  | insertAt pos new => Action.update (·.insertAt pos new)
  | overwriteAt pos new => Action.update (·.overwriteAt pos new)
  | appendAligned new step => Action.update fun img ↦ .ok (img.appendAligned new step)
  | makeRoom pos len => Image.makeRoom pos len
  | inject note => do let _ ← Image.inject note
  | reload => Action.update fun img ↦ load img.bytes

/-- The image that a change leaves behind, whether or not it fails. -/
def apply (edit : Edit) (img : Image) : Image := (edit.act.effect img).2

end Edit

/-- The images that runs of allowed edits lead to, each of which memory can hold. -/
inductive Reaches (allows : Image → Edit → Prop) (start : Image) : Image → Prop where
  | start : Reaches allows start start
  | next {img : Image} (edit : Edit) (reached : Reaches allows start img)
      (allowed : allows img edit) (hsize : (edit.apply img).size < capacity) :
      Reaches allows start (edit.apply img)

/-- What holds of the start and is kept by every allowed edit holds of every image of a run. -/
theorem Reaches.invariant {allows : Image → Edit → Prop} {start img : Image} {P : Image → Prop}
    (reached : Reaches allows start img) (hstart : P start)
    (hstep : ∀ img edit, P img → allows img edit → (edit.apply img).size < capacity →
      P (edit.apply img)) : P img := by
  induction reached with
  | start => exact hstart
  | next edit _ allowed hsize ih => exact hstep _ edit ih allowed hsize

variable {start img : Image} {edit : Edit} {note : Note}

/-- The checks that an injection makes before it changes the image: there is room for an entry, and
it can be made. -/
def checkInject (img : Image) : Except Error Unit := do
  let (strategy, _) ← img.findRoom
  img.checkFor strategy

theorem apply_update {change : Image → Except Error Image}
    (hact : edit.act = Action.update change) :
    edit.apply img = match change img with | .ok img' => img' | .error _ => img := by
  rw [Edit.apply, hact]
  cases hchange : change img with
  | error e => rw [Action.effect_update_error hchange]
  | ok img' => rw [Action.effect_update_ok hchange]

theorem apply_update_of_error {change : Image → Except Error Image}
    (hact : edit.act = Action.update change) {e : Error}
    (failed : (edit.act.effect img).1 = .error e) : edit.apply img = img := by
  rw [apply_update hact]
  cases hchange : change img with
  | error e' => rfl
  | ok img' =>
    rw [hact, Action.effect_update_ok hchange] at failed
    contradiction

theorem size_le_appendAligned (new : ByteArray) (step : Nat) :
    img.size ≤ (img.appendAligned new step).size := by
  show img.bytes.size ≤ (Bytes.appendAligned img.bytes new step).size
  rw [size_appendAligned]
  omega

theorem apply_inject_of_ok {injection : Injection} {out : Image}
    (injected : (Image.inject note).effect img = (.ok injection, out)) :
    (Edit.inject note).apply img = out := by
  rw [Edit.apply, Edit.act, Action.effect_bind_ok injected]
  rfl

section Step

variable (fits : img.header.FitsIn img.size)

include fits

theorem apply_makeRoom {pos len : Nat} : (Edit.makeRoom pos len).apply img =
    if img.checkRoom pos len = .ok () then img.withRoom pos len else img := by
  rw [Edit.apply, Edit.act, effect_makeRoom fits]
  cases img.checkRoom pos len with
  | error e => simp
  | ok _ => rfl

variable (hsize : img.size < lastOffset)

include hsize

/-- An injection leaves the image as it was or adds the note where a strategy finds room. -/
theorem apply_inject (note : Note) : (Edit.inject note).apply img = img ∨
    ∃ strategy available, img.findRoom = .ok (strategy, available) ∧
      img.checkFor strategy = .ok () ∧
      (Edit.inject note).apply img = (img.roomFor strategy).withNote note := by
  rw [Edit.apply, Edit.act, Action.effect_bind, effect_inject fits hsize]
  cases found : img.findRoom with
  | error e => exact Or.inl rfl
  | ok room =>
    obtain ⟨strategy, available⟩ := room
    dsimp only
    cases checked : img.checkFor strategy with
    | error e => exact Or.inl rfl
    | ok _ => exact Or.inr ⟨strategy, available, rfl, checked, rfl⟩

/-- Every edit keeps the tables in the image. -/
theorem fitsIn_apply (edit : Edit) : (edit.apply img).header.FitsIn (edit.apply img).size := by
  cases edit with
  | insertAt pos new =>
    rw [apply_update rfl]
    cases hinsert : img.insertAt pos new with
    | error e => exact fits
    | ok inserted =>
      obtain ⟨-, rfl⟩ := insertAt_eq_ok_iff.mp hinsert
      refine fits.mono ?_
      show img.bytes.size ≤ (Bytes.insert img.bytes pos new).size
      rw [size_insert]
      exact Nat.le_add_right _ _
  | overwriteAt pos new =>
    rw [apply_update rfl]
    cases hoverwrite : img.overwriteAt pos new with
    | error e => exact fits
    | ok overwritten =>
      obtain ⟨hroom, rfl⟩ := overwriteAt_eq_ok_iff.mp hoverwrite
      refine fits.mono ?_
      exact Nat.le_of_eq (size_overwrite hroom).symm
  | appendAligned new step => exact fits.mono (size_le_appendAligned new step)
  | makeRoom pos len =>
    rw [apply_makeRoom fits]
    split_ifs with checked
    · exact fitsIn_withRoom fits (checkRoom_eq_ok_iff.mp checked).1
    · exact fits
  | inject note =>
    rcases apply_inject fits hsize note with happly | ⟨strategy, available, found, checked, happly⟩
    · rw [happly]
      exact fits
    · obtain ⟨fits', room⟩ := hasRoom_roomFor fits hsize found checked
      rw [happly]
      exact fitsIn_withNote room fits' note
  | reload =>
    rw [apply_update rfl]
    cases hload : load img.bytes with
    | error e => exact fits
    | ok loaded => exact fitsIn_of_load hsize hload

/-- An edit that fails has changed nothing. -/
theorem apply_of_error {e : Error} (failed : (edit.act.effect img).1 = .error e) :
    edit.apply img = img := by
  cases edit with
  | insertAt pos new => exact apply_update_of_error rfl failed
  | overwriteAt pos new => exact apply_update_of_error rfl failed
  | appendAligned new step => cases failed
  | makeRoom pos len =>
    rw [Edit.act, effect_makeRoom fits] at failed
    rw [apply_makeRoom fits, if_neg]
    intro checked
    simp [checked] at failed
  | inject note =>
    rw [Edit.act, Action.effect_bind, effect_inject fits hsize] at failed
    rcases apply_inject fits hsize note with happly | ⟨strategy, available, found, checked, -⟩
    · exact happly
    · simp [found, checked] at failed
  | reload => exact apply_update_of_error rfl failed

/-- What an injection answers is decided before it changes anything. -/
theorem effect_inject_fst :
    ((inject note).effect img).1.map (fun _ ↦ ()) = img.checkInject := by
  rw [effect_inject fits hsize, checkInject]
  cases found : img.findRoom with
  | error e => rfl
  | ok room =>
    obtain ⟨strategy, available⟩ := room
    show _ = img.checkFor strategy
    dsimp only
    cases checked : img.checkFor strategy <;> rfl

end Step

/-! ### Runs of any edits -/

/-- Along a run of any edits, the header places its tables in the image. -/
theorem fitsIn_of_reaches {allows : Image → Edit → Prop} (hsize : start.size < capacity)
    (fits : start.header.FitsIn start.size) (reached : Reaches allows start img) :
    img.header.FitsIn img.size ∧ img.size < capacity := by
  refine reached.invariant (P := fun img ↦ img.header.FitsIn img.size ∧ img.size < capacity)
    ⟨fits, hsize⟩ fun img edit ⟨fits, hsize⟩ _ hsize' ↦ ?_
  exact ⟨fitsIn_apply fits (lt_lastOffset hsize) edit, hsize'⟩

/-- After any edits of a loaded image, an edit that fails has changed nothing. What making room and
an injection answer is the answer of the checks that they begin with, so no entry that they write
after their first change of the image fails to be written. -/
theorem unchanged_of_error {bytes : ByteArray} (hsize : bytes.size < capacity)
    (loaded : load bytes = .ok start) (reached : Reaches (fun _ _ ↦ True) start img) :
    (∀ (edit : Edit) (e : Error), (edit.act.effect img).1 = .error e → edit.apply img = img) ∧
      (∀ pos len : Nat, ((makeRoom pos len).effect img).1 = img.checkRoom pos len) ∧
      ∀ note : Note, ((inject note).effect img).1.map (fun _ ↦ ()) = img.checkInject := by
  have hstart : start.size < capacity := by
    obtain ⟨rfl, -⟩ := (load_eq_ok_iff (lt_lastOffset hsize)).mp loaded
    exact hsize
  obtain ⟨fits, hsize'⟩ :=
    fitsIn_of_reaches hstart (fitsIn_of_load (lt_lastOffset hsize) loaded) reached
  refine ⟨fun _ _ ↦ apply_of_error fits (lt_lastOffset hsize'), fun pos len ↦ ?_, fun _ ↦ ?_⟩
  · rw [effect_makeRoom fits]
    cases img.checkRoom pos len <;> rfl
  · exact effect_inject_fst fits (lt_lastOffset hsize')

/-- The sample image after its first 80 bytes are overwritten. It holds the header that it was
loaded with, of which its bytes show nothing any more, and its segment has the last offset there
is. -/
def staleImage : Image where
  bytes := ⟨⟨List.replicate 80 0xff ++ sampleSegment.encode.drop 16 ++ List.replicate 56 0 ++
    List.replicate 24 0x90 ++ List.replicate 64 0 ++ sampleSection.encode⟩⟩
  header := sampleHeader

theorem apply_sampleImage :
    (Edit.overwriteAt 0 ⟨⟨List.replicate 80 0xff⟩⟩).apply sampleImage = staleImage := by
  have hroom : 0 + (⟨⟨List.replicate 80 0xff⟩⟩ : ByteArray).size ≤ sampleImage.size := by
    rw [size_eq_sampleImage]
    decide
  have hbytes : overwrite sampleImage.bytes 0 ⟨⟨List.replicate 80 0xff⟩⟩ = staleImage.bytes := by
    rw [← toList_inj, toList_overwrite]
    decide +kernel
  rw [apply_update rfl, overwriteAt_eq_ok_iff.mpr ⟨hroom, rfl⟩, hbytes]
  rfl

/-- The stale image cannot be loaded again. There is a gap for one more entry, but the segment
cannot move, so neither making room nor an injection changes anything. -/
theorem unchanged_staleImage :
    Header.atFront staleImage.bytes ≠ staleImage.header ∧
      Edit.reload.apply staleImage = staleImage ∧
      staleImage.findRoom = .ok (.shifted, 56) ∧
      ((Edit.makeRoom 120 56).act.effect staleImage).1 =
        .error (.format (.offsetOverflow lastOffset 56)) ∧
      (Edit.makeRoom 120 56).apply staleImage = staleImage ∧
      ((Edit.inject ⟨0x1000⟩).act.effect staleImage).1 =
        .error (.format (.offsetOverflow lastOffset 56)) ∧
      (Edit.inject ⟨0x1000⟩).apply staleImage = staleImage := by
  have reached : Reaches (fun _ _ ↦ True) sampleImage staleImage := by
    rw [← apply_sampleImage]
    refine .next _ .start trivial ?_
    rw [apply_sampleImage]
    decide +kernel
  have hreload : (Edit.reload.act.effect staleImage).1 = .error (.format .badMagic) := by
    decide +kernel
  have hroom : ((Edit.makeRoom 120 56).act.effect staleImage).1 =
      .error (.format (.offsetOverflow lastOffset 56)) := by decide +kernel
  have hinject : ((Edit.inject ⟨0x1000⟩).act.effect staleImage).1 =
      .error (.format (.offsetOverflow lastOffset 56)) := by decide +kernel
  obtain ⟨unchanged, -, -⟩ := unchanged_of_error size_sampleBytes load_sampleBytes reached
  exact ⟨by decide +kernel, unchanged _ _ hreload, by decide +kernel, hroom,
    unchanged _ _ hroom, hinject, unchanged _ _ hinject⟩

end BootNote.Image
