import BootNote.Proofs.Image.Frame

/-!
What a segment holds after content has moved. An offset moves if it stands at or behind the end of
the segment table, and so does a byte, but a segment that starts in front of that end may have bytes
behind it. Its offset stays while these bytes move, and in their places stand the new entry and
bytes from further in front. `displaced` says which byte stands in the place of another, and
`segment_byte_eq_iff` when a segment holds the byte that it held before.
-/

set_option autoImplicit false
set_option relaxedAutoImplicit false

namespace BootNote.Image

open Bytes Elf

/-- The byte that stands at a position behind the segment table after the content there has moved by
the size of an entry: first the bytes of the new entry, and then those that stood before it by that
size, where the section table has its offsets moved. -/
def displaced (img : Image) (entry : Segment) (p : Nat) : Option UInt8 :=
  if p < img.entryOffset + segmentSize then entry.encode[p - img.entryOffset]?
  else if img.header.shnum ≠ 0 ∧ img.header.shoff.toNat ≤ p - segmentSize ∧
      p - segmentSize < img.header.shoff.toNat + img.header.shnum.toNat * sectionSize then
    ((img.sections.map (Section.moved img.entryOffset segmentSize)).flatMap
      Section.encode)[p - segmentSize - img.header.shoff.toNat]?
  else get? img.bytes (p - segmentSize)

variable {img : Image} {available p : Nat}

section Displaced

variable (note : Note) (fits : img.header.FitsIn img.size) (hsize : img.size < lastOffset)
  (found : img.findRoom = .ok (.shifted, available)) (checked : img.checkFor .shifted = .ok ())
  (apart : img.header.Apart) (hp : img.entryOffset ≤ p)

include fits hsize found checked hp

theorem get?_injected_entry (hp' : p < img.entryOffset + segmentSize) :
    get? ((img.roomFor .shifted).withNote note).bytes p =
      (img.roomFor .shifted).noteEntry.encode[p - img.entryOffset]? := by
  rw [← get?_slice_sub hp hp', get?, slice_injected_entry note fits hsize found checked]

include apart

/-- Behind the segment table, every byte of the file with the note is the one that `displaced`
tells. -/
theorem get?_injected_displaced (hp' : p < img.size + segmentSize) :
    get? ((img.roomFor .shifted).withNote note).bytes p =
      img.displaced (img.roomFor .shifted).noteEntry p := by
  have hphoff := fits.headerSize_le
  have hgrowth : Strategy.growth .shifted = segmentSize := rfl
  have htable : img.entryOffset =
      img.header.phoff.toNat + img.header.phnum.toNat * segmentSize := rfl
  unfold displaced
  split_ifs with hentry hsection
  · exact get?_injected_entry note fits hsize found checked hp hentry
  · obtain ⟨hnum, hstart, hstop⟩ := hsection
    have hside := ((fits.apart_iff hsize).mp apart hnum).2
    have hplace := records_injected_sections note fits hsize found checked apart hnum
    rw [hgrowth, shifted_of_le (by omega)] at hplace
    have hbehind : img.header.shoff.toNat + segmentSize ≤ p := by omega
    have hbefore : p < img.header.shoff.toNat + segmentSize +
        img.header.shnum.toNat * sectionSize := by omega
    rw [← get?_slice_sub hbehind hbefore, get?, ← flatten_records, hplace, List.flatMap_def,
      Nat.sub_sub, Nat.add_comm segmentSize]
  · have content : img.IsContent (p - segmentSize) :=
      ⟨by omega, by omega, Or.inr (by omega), fun hnum ↦ by
        simp only [hnum, ne_eq, not_false_eq_true, true_and, not_and_or] at hsection
        omega⟩
    have hmove : shifted img.entryOffset (Strategy.growth .shifted) (p - segmentSize) = p := by
      rw [hgrowth, shifted_of_le (by omega)]
      omega
    have hget := get?_injected_shifted note fits hsize found checked content
      (Or.inr (by omega))
    rwa [hmove] at hget

end Displaced

theorem content_sampleImage : sampleImage.IsContent (sampleSegment.offset.toNat + 176) :=
  ⟨by rw [size_eq_sampleImage]; decide, by decide, Or.inr (by decide), fun _ ↦ Or.inl (by decide)⟩

/-- After an injection that moves content, a segment holds at a place of its content the byte that
it held before exactly if the segment starts behind the segment table, or the place is in front of
the table's end, or the byte that comes to stand there happens to be equal. -/
theorem segment_byte_eq_iff {bytes : ByteArray} {out : Image} {note : Note} {injection : Injection}
    (hsize : bytes.size < capacity) (loaded : load bytes = .ok img) (apart : img.header.Apart)
    (injected : (inject note).effect img = (.ok injection, out))
    (moves : injection.strategy = .shifted) {index k : Nat} {s : Segment}
    (hs : img.segments[index]? = some s) (content : img.IsContent (s.offset.toNat + k)) :
    ∃ s' : Segment, out.segments[index]? = some s' ∧
      (get? out.bytes (s'.offset.toNat + k) = get? img.bytes (s.offset.toNat + k) ↔
        img.entryOffset ≤ s.offset.toNat ∨ s.offset.toNat + k < img.entryOffset ∨
          img.displaced (.ofNotes injection.noteOffset Note.size Note.alignment)
            (s.offset.toNat + k) = get? img.bytes (s.offset.toNat + k)) := by
  replace hsize := lt_lastOffset hsize
  obtain ⟨rfl, -⟩ := (load_eq_ok_iff hsize).mp loaded
  have fits := fitsIn_of_load hsize loaded
  change img.size < lastOffset at hsize
  obtain ⟨found, checked, -, hnote, -, rfl⟩ := (effect_inject_eq_ok_iff fits hsize).mp injected
  rw [moves] at found checked hnote ⊢
  have hentry : (img.roomFor .shifted).noteEntry =
      .ofNotes injection.noteOffset Note.size Note.alignment := by rw [noteEntry, hnote]
  have hgrowth : Strategy.growth .shifted = segmentSize := rfl
  have hmove : (s.moved img.entryOffset segmentSize).offset.toNat =
      shifted img.entryOffset segmentSize s.offset.toNat :=
    toNat_moved ((movable_of_checkFor checked).segments s (List.mem_of_getElem? hs))
  -- A byte that moves with its segment is found at the same place of the segment.
  have hmoved (hplace : shifted img.entryOffset segmentSize s.offset.toNat + k =
      shifted img.entryOffset segmentSize (s.offset.toNat + k)) :
      get? ((img.roomFor .shifted).withNote note).bytes
        (shifted img.entryOffset segmentSize s.offset.toNat + k) =
          get? img.bytes (s.offset.toNat + k) := by
    rw [hplace]
    refine get?_injected_shifted note fits hsize found checked content ?_
    rw [hgrowth, shifted]
    split_ifs <;> omega
  refine ⟨s.moved img.entryOffset segmentSize, ?_, ?_⟩
  · rw [segments_injected note fits hsize found checked, List.getElem?_append_left,
      List.getElem?_map, hs]
    · rfl
    · rw [List.length_map]
      exact (List.getElem?_eq_some_iff.mp hs).1
  rw [hmove]
  by_cases hstart : img.entryOffset ≤ s.offset.toNat
  · refine iff_of_true (hmoved ?_) (Or.inl hstart)
    rw [shifted_of_le hstart, shifted_of_le (by omega)]
    omega
  · by_cases hfront : s.offset.toNat + k < img.entryOffset
    · refine iff_of_true (hmoved ?_) (Or.inr (Or.inl hfront))
      rw [shifted_of_lt (by omega), shifted_of_lt hfront]
    · have hdisplaced := get?_injected_displaced note fits hsize found checked apart
        (Nat.not_lt.mp hfront) (Nat.lt_add_right segmentSize content.lt_size)
      rw [shifted_of_lt (Nat.not_le.mp hstart), hdisplaced, hentry]
      exact ⟨fun heq ↦ Or.inr (Or.inr heq), fun hor ↦ (hor.resolve_left hstart).resolve_left hfront⟩

theorem segment_byte_sampleImage : ∃ s' : Segment, sampleResult.segments[0]? = some s' ∧
    (get? sampleResult.bytes (s'.offset.toNat + 176) =
        get? sampleImage.bytes (sampleSegment.offset.toNat + 176) ↔
      120 ≤ sampleSegment.offset.toNat ∨ sampleSegment.offset.toNat + 176 < 120 ∨
        sampleImage.displaced (.ofNotes 384 Note.size Note.alignment)
          (sampleSegment.offset.toNat + 176) =
            get? sampleImage.bytes (sampleSegment.offset.toNat + 176)) :=
  segment_byte_eq_iff size_sampleBytes load_sampleBytes apart_sampleImage inject_sampleImage rfl
    (by rw [segments_sampleImage]; rfl) content_sampleImage

/-- The segment of the sample file starts in front of the end of the segment table. Its last bytes
move and its offset stays, so that it holds zeros in their place. -/
theorem segment_byte_ne_sampleImage :
    load sampleBytes = .ok sampleImage ∧ sampleImage.header.Apart ∧
      (inject ⟨0x1000⟩).effect sampleImage = (.ok sampleInjection, sampleResult) ∧
      sampleInjection.strategy = .shifted ∧ sampleImage.segments[0]? = some sampleSegment ∧
      sampleSegment.offset.toNat + sampleSegment.filesz.toNat ≤ sampleImage.size ∧
      176 < sampleSegment.filesz.toNat ∧
      sampleImage.IsContent (sampleSegment.offset.toNat + 176) ∧
      sampleResult.segments[0]? = some sampleSegment ∧
      get? sampleResult.bytes (sampleSegment.offset.toNat + 176) = some 0 ∧
      get? sampleImage.bytes (sampleSegment.offset.toNat + 176) = some 0x90 := by
  have hsegments : sampleImage.segments[0]? = some sampleSegment := by
    rw [segments_sampleImage]
    rfl
  refine ⟨load_sampleBytes, apart_sampleImage, inject_sampleImage, rfl, hsegments, ?_, by decide,
    content_sampleImage, ?_, ?_, by decide +kernel⟩
  · rw [size_eq_sampleImage]
    decide
  · rw [sampleResult, segments_injected _ fits_sampleImage size_sampleImage findRoom_sampleImage
      checkFor_sampleImage, segments_sampleImage]
    rfl
  · rw [sampleResult, get?_injected_displaced _ fits_sampleImage size_sampleImage
      findRoom_sampleImage checkFor_sampleImage apart_sampleImage (by decide)
      (by rw [size_eq_sampleImage]; decide)]
    decide +kernel

end BootNote.Image
