import BootNote.Proofs.Image.Gap
import BootNote.Proofs.Image.Lookup
import BootNote.Proofs.Image.Notes

/-!
Notes that are added one after another. An image is ready for a number of notes if the gap behind
its segment table can hold an entry, its segments of notes are clear, and there is room in the
header and in the 64-bit range for that many more entries. Adding a note by moving content leaves it
ready for one note less (`Ready.next`), with a gap that is not smaller. Therefore all of them are
added, in their order and behind the ones that were there (`addsNotes_of_injectAll`).
-/

set_option autoImplicit false
set_option relaxedAutoImplicit false

namespace BootNote.Image

open Bytes Elf

/-- Adds notes one after another. -/
def injectAll : List Note → Action Image (List Injection)
  | [] => pure []
  | note :: notes => do
    let injection ← inject note
    let injections ← injectAll notes
    return injection :: injections

/-- `count` more notes can be added by moving content. -/
structure Ready (img : Image) (count : Nat) : Prop where
  fits : img.header.FitsIn img.size
  apart : img.header.Apart
  /-- A note takes 79 bytes at most, with its entry and the zeros in front of it. -/
  size_lt : img.size + count * 79 < lastOffset
  phnum_lt : img.header.phnum.toNat + count < 65535
  segmentSize_le : segmentSize ≤ img.gapSize
  movable : img.Movable img.entryOffset (count * segmentSize)
  clear : ∀ s ∈ img.segments, s.type = Segment.note → img.IsClear s.offset.toNat s.filesz.toNat

/-- Notes were added one after another by moving content, as the injections tell. -/
structure AddsNotes (img : Image) (notes : List Note) (injections : List Injection) (out : Image) :
    Prop where
  length_eq : injections.length = notes.length
  shifted : ∀ injection ∈ injections, injection.strategy = .shifted
  /-- The gap never becomes smaller. -/
  gaps : (img.gapSize :: injections.map (·.available)).Pairwise (· ≤ ·)
  phnum_eq : out.header.phnum.toNat = img.header.phnum.toNat + notes.length
  notes_eq : out.notes = img.notes ++ notes

variable {img : Image} {count : Nat}

/-! ### One note -/

section Step

variable (ready : img.Ready (count + 1))

include ready

theorem Ready.size_lt_lastOffset : img.size < lastOffset :=
  Nat.lt_of_le_of_lt (Nat.le_add_right _ _) ready.size_lt

theorem Ready.findRoom : img.findRoom = .ok (.shifted, img.gapSize) := by
  have hcount := ready.phnum_lt
  refine findRoom_eq_ok_iff.mpr ⟨by omega, ?_, Or.inl ⟨rfl, ?_⟩⟩
  · rw [segmentTable_stop ready.fits ready.size_lt_lastOffset, gapSize]
  · rw [ready.fits.phentsize_eq]
    exact ready.segmentSize_le

theorem Ready.checkFor : img.checkFor .shifted = .ok () :=
  checkRoom_eq_ok_iff.mpr ⟨ready.movable.mono (by rw [Nat.succ_mul]; omega), ready.fits.segments_le⟩

variable (note : Note)

theorem Ready.size_injected_lt :
    ((img.roomFor .shifted).withNote note).size + count * 79 < lastOffset := by
  have hle := size_injected_le note ready.fits ready.size_lt_lastOffset ready.findRoom
    ready.checkFor
  have hlt := ready.size_lt
  omega

theorem Ready.size_injected_lt_lastOffset :
    ((img.roomFor .shifted).withNote note).size < lastOffset :=
  Nat.lt_of_le_of_lt (Nat.le_add_right _ _) (ready.size_injected_lt note)

theorem Ready.movable_injected :
    ((img.roomFor .shifted).withNote note).Movable
      ((img.roomFor .shifted).withNote note).entryOffset (count * segmentSize) := by
  have hlast := ready.size_lt_lastOffset
  have hfar : img.Movable img.entryOffset (segmentSize + count * segmentSize) := by
    have movable := ready.movable
    rwa [Nat.succ_mul, Nat.add_comm] at movable
  rw [entryOffset_injected note ready.fits hlast ready.findRoom ready.checkFor]
  refine ⟨fun hnum ↦ ?_, fun s hs hnull ↦ ?_, fun s hs ↦ ?_⟩
  · rw [header_injected, Header.moved_shnum] at hnum
    rw [header_injected, Header.moved_shoff_of_ne _ hnum]
    exact (hfar.shoff hnum).moved
  · rw [sections_injected note ready.fits hlast ready.findRoom ready.checkFor ready.apart] at hs
    obtain ⟨t, ht, rfl⟩ := List.mem_map.mp hs
    rw [Section.isNull_moved] at hnull
    rw [t.moved_offset hnull]
    exact (hfar.sections t ht hnull).moved
  · rw [segments_injected note ready.fits hlast ready.findRoom ready.checkFor, List.mem_append,
      List.mem_singleton] at hs
    rcases hs with hs | rfl
    · obtain ⟨t, ht, rfl⟩ := List.mem_map.mp hs
      exact (hfar.segments t ht).moved
    · have hsize := ready.size_injected_lt note
      have hoffset := toNat_offset_noteEntry note ready.fits hlast ready.findRoom ready.checkFor
        (ready.size_injected_lt_lastOffset note)
      rw [size_injected note ready.fits hlast ready.findRoom ready.checkFor, ← hoffset] at hsize
      refine Or.inr ?_
      rw [segmentSize]
      omega

/-- The segments of notes are clear again, and so is the new one. -/
theorem Ready.clear_injected : ∀ s ∈ ((img.roomFor .shifted).withNote note).segments,
    s.type = Segment.note →
      ((img.roomFor .shifted).withNote note).IsClear s.offset.toNat s.filesz.toNat := by
  have hlast := ready.size_lt_lastOffset
  have movable := movable_of_checkFor ready.checkFor
  intro s hs htype
  rw [segments_injected note ready.fits hlast ready.findRoom ready.checkFor, List.mem_append,
    List.mem_singleton] at hs
  rcases hs with hs | rfl
  · obtain ⟨t, ht, rfl⟩ := List.mem_map.mp hs
    have clear := (ready.clear t ht htype).injected note ready.fits hlast ready.findRoom
      ready.checkFor nofun
    rw [← toNat_moved (movable.segments t ht)] at clear
    exact clear
  · exact isClear_noteEntry note ready.fits hlast ready.findRoom ready.checkFor
      (ready.size_injected_lt_lastOffset note)

theorem Ready.notes_injected : ((img.roomFor .shifted).withNote note).notes = img.notes ++ [note] :=
  Image.notes_injected note ready.fits ready.size_lt_lastOffset ready.findRoom ready.checkFor
    (ready.size_injected_lt_lastOffset note) ready.clear nofun

/-- After a note is added, the image is ready for the others. -/
theorem Ready.next : ((img.roomFor .shifted).withNote note).Ready count := by
  have hlast := ready.size_lt_lastOffset
  have hsize' := ready.size_injected_lt_lastOffset note
  have hphnum := ready.phnum_lt
  refine ⟨fitsIn_injected note ready.fits hlast ready.findRoom ready.checkFor,
    apart_injected note ready.fits hlast ready.findRoom ready.checkFor ready.apart hsize',
    ready.size_injected_lt note, ?_, ?_, ready.movable_injected note, ready.clear_injected note⟩
  · rw [toNat_phnum_injected note ready.fits hlast ready.findRoom ready.checkFor]
    omega
  · exact Nat.le_trans ready.segmentSize_le (gapSize_le_injected note ready.fits hlast
      ready.findRoom ready.checkFor ready.apart hsize')

theorem Ready.effect_inject : ∃ injection : Injection,
    (inject note).effect img = (.ok injection, (img.roomFor .shifted).withNote note) ∧
      injection.strategy = .shifted ∧ injection.available = img.gapSize :=
  ⟨⟨.shifted, img.gapSize, img.entryOffset, alignUp (img.roomFor .shifted).size Note.alignment,
    img.header.phnum.toNat⟩, (effect_inject_eq_ok_iff ready.fits ready.size_lt_lastOffset).mpr
      ⟨ready.findRoom, ready.checkFor, rfl, rfl, rfl, rfl⟩, rfl, rfl⟩

end Step

/-! ### All notes -/

theorem AddsNotes.cons {note : Note} {notes : List Note} {injection : Injection}
    {injections : List Injection} {out : Image}
    (adds : ((img.roomFor .shifted).withNote note).AddsNotes notes injections out)
    (ready : img.Ready (count + 1)) (hstrategy : injection.strategy = .shifted)
    (havailable : injection.available = img.gapSize) :
    img.AddsNotes (note :: notes) (injection :: injections) out := by
  have hlast := ready.size_lt_lastOffset
  have hgap := gapSize_le_injected note ready.fits hlast ready.findRoom ready.checkFor ready.apart
    (ready.size_injected_lt_lastOffset note)
  obtain ⟨hfirst, hrest⟩ := List.pairwise_cons.mp adds.gaps
  have hle : ∀ g ∈ injections.map (·.available), img.gapSize ≤ g :=
    fun g hg ↦ Nat.le_trans hgap (hfirst g hg)
  refine ⟨congrArg Nat.succ adds.length_eq, ?_, ?_, ?_, ?_⟩
  · exact List.forall_mem_cons.mpr ⟨hstrategy, adds.shifted⟩
  · rw [List.map_cons, havailable]
    exact List.pairwise_cons.mpr ⟨List.forall_mem_cons.mpr ⟨Nat.le_refl _, hle⟩,
      List.pairwise_cons.mpr ⟨hle, hrest⟩⟩
  · rw [adds.phnum_eq, toNat_phnum_injected note ready.fits hlast ready.findRoom ready.checkFor,
      List.length_cons]
    omega
  · rw [adds.notes_eq, ready.notes_injected note, List.append_assoc, List.singleton_append]

theorem Ready.effect_injectAll {notes : List Note} (ready : img.Ready notes.length) :
    ∃ injections out, (injectAll notes).effect img = (.ok injections, out) ∧
      img.AddsNotes notes injections out := by
  induction notes generalizing img with
  | nil => exact ⟨[], img, rfl, rfl, nofun, by simp, rfl, (List.append_nil _).symm⟩
  | cons note notes ih =>
    obtain ⟨injection, injected, hstrategy, havailable⟩ := ready.effect_inject note
    obtain ⟨injections, out, injectedAll, adds⟩ := ih (ready.next note)
    refine ⟨injection :: injections, out, ?_, ?_⟩
    · rw [injectAll, Action.effect_bind_ok injected, Action.effect_bind_ok injectedAll]
      rfl
    · exact adds.cons ready hstrategy havailable

/-- Any number of notes that the header can count is added to a loaded file whose tables lie apart,
if the gap behind the segment table can hold an entry, the segments of notes are clear, and no
offset leaves the 64-bit range on the way. -/
theorem addsNotes_of_injectAll {bytes : ByteArray} {notes : List Note}
    (hsize : bytes.size < capacity) (loaded : load bytes = .ok img) (apart : img.header.Apart)
    (gap : segmentSize ≤ img.gapSize)
    (clear : ∀ s ∈ img.segments, s.type = Segment.note →
      img.IsClear s.offset.toNat s.filesz.toNat)
    (count : img.header.phnum.toNat + notes.length < 65535)
    (sections : ∀ s ∈ img.sections, s.isNull = false →
      CanMove img.entryOffset (notes.length * segmentSize) s.offset)
    (segments : ∀ s ∈ img.segments,
      CanMove img.entryOffset (notes.length * segmentSize) s.offset) :
    ∃ injections out, (injectAll notes).effect img = (.ok injections, out) ∧
      img.AddsNotes notes injections out := by
  have hlast := lt_lastOffset hsize
  obtain ⟨rfl, -⟩ := (load_eq_ok_iff hlast).mp loaded
  have fits := fitsIn_of_load hlast loaded
  have hgrowth : img.size + notes.length * 79 < lastOffset := by
    simp only [Image.size, capacity, lastOffset] at *
    omega
  refine Ready.effect_injectAll ⟨fits, apart, hgrowth, count, gap, ⟨fun hnum ↦ Or.inr ?_, sections,
    segments⟩, clear⟩
  have hstop := fits.sections_le hnum
  rw [segmentSize]
  omega

theorem gapSize_wideParts : wideParts.image.gapSize = 56 := by
  rw [gapSize, Parts.entryOffset_image, Parts.firstContent_image]
  decide +kernel

theorem clear_wideParts : ∀ s ∈ wideParts.image.segments, s.type = Segment.note →
    wideParts.image.IsClear s.offset.toNat s.filesz.toNat := by
  intro s hs _
  rw [Parts.segments_image] at hs
  obtain rfl := List.mem_singleton.mp hs
  exact wideParts.isClear_image (by decide) (by decide +kernel)

theorem notes_wideParts : wideParts.image.notes = [⟨0x2000⟩] := by
  have hslice : wideParts.image.slice (noteSegment 56).offset.toNat (noteSegment 56).filesz.toNat =
      .ok (Note.encode ⟨0x2000⟩).toByteArray :=
    wideParts.slice_image 164 20 (by decide +kernel)
  have hnotes : wideParts.image.notesIn (noteSegment 56) = [⟨0x2000⟩] := by
    rw [notesIn, hslice]
    exact Note.readAll_encode _
  rw [notes, Parts.segments_image, show wideParts.segments = [noteSegment 56] from rfl, ← hnotes]
  exact List.append_nil _

theorem addsNotes_wideParts : ∃ injections out,
    (injectAll [⟨0x1000⟩, ⟨0x3000⟩]).effect wideParts.image = (.ok injections, out) ∧
      wideParts.image.AddsNotes [⟨0x1000⟩, ⟨0x3000⟩] injections out ∧
      out.notes = [⟨0x2000⟩, ⟨0x1000⟩, ⟨0x3000⟩] := by
  obtain ⟨injections, out, injected, adds⟩ : ∃ injections out,
      (injectAll [⟨0x1000⟩, ⟨0x3000⟩]).effect wideParts.image = (.ok injections, out) ∧
        wideParts.image.AddsNotes [⟨0x1000⟩, ⟨0x3000⟩] injections out :=
    addsNotes_of_injectAll wideParts.size_bytes wideParts.load_image wideParts.apart_header
      (Nat.le_of_eq gapSize_wideParts.symm) clear_wideParts (by decide)
      (by rw [Parts.sections_image, Parts.entryOffset_image]; decide +kernel)
      (by rw [Parts.segments_image, Parts.entryOffset_image]; decide +kernel)
  exact ⟨injections, out, injected, adds, by rw [adds.notes_eq, notes_wideParts]; rfl⟩

end BootNote.Image
