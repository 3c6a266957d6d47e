import BootNote.Patch
import BootNote.Proofs.Image.Front
import BootNote.Proofs.Image.Repeat

/-!
Patching the bytes of a kernel. `entryAddress?` is the address that is resolved, and `patched` what
a patch gives, without the events; the action does nothing else (`effect_patchBytes`). A patch that
succeeds leaves a file that loads and advertises the entry: its last segment is the note at the end
of the file, from which a boot loader reads the address (`advertises_of_patchBytes`).
-/

set_option autoImplicit false
set_option relaxedAutoImplicit false

namespace BootNote

open Bytes Elf

/-- The address that a source gives, if it gives one. -/
def Reply.address? : Reply → Option UInt64
  | address value => some value
  | _ => none

/-- The entry address of a kernel: the one of the call, of the options, of the image's symbol table
or of the source, whichever is the first to be known. -/
def entryAddress? (options : Options) (source : Source) (path : SystemText) (img : Image)
    (address : Option UInt64) : Option UInt64 :=
  (address.or options.address).or ((img.findSymbol options.symbol).or
    (if options.fallback then (source path options.symbol).address? else none))

/-- What a patch gives: the bytes of the kernel with the note, and what was done. -/
def patched (options : Options) (source : Source) (path : SystemText) (bytes : ByteArray)
    (address : Option UInt64) : Except Error (ByteArray × Report) :=
  match Image.load bytes with
  | .error e => .error e
  | .ok img =>
    match entryAddress? options source path img address with
    | none => .error (.symbolNotFound options.symbol)
    | some entry =>
      let (result, out) := (Image.inject (.ofAddress entry)).effect img
      result.map fun injection ↦
        (out.bytes, ⟨(Note.ofAddress entry).entry, injection, img.notes.length, out.size⟩)

variable {σ : Type} {options : Options} {source : Source} {path : SystemText}
  {bytes out : ByteArray} {address : Option UInt64} {img : Image} {report : Report}

/-! ### The steps of a patch -/

theorem effect_ask (name : String) (s : σ) :
    (source.ask path name).effect s = (.ok (source path name).address?, s) := by
  rw [Source.ask, Action.effect_bind_ok (Action.effect_emit _ _)]
  cases source path name <;> rfl

theorem effect_resolve (name : String) (outside : Option Source) (explicit : Option UInt64)
    (s : σ) : (img.resolve name path outside explicit).effect s =
      ((explicit.or ((img.findSymbol name).or
        (outside.bind fun source ↦ (source path name).address?))).elim
          (.error (.symbolNotFound name)) .ok, s) := by
  cases explicit with
  | some value =>
    unfold Image.resolve
    rfl
  | none =>
    cases hfound : img.findSymbol name with
    | some value =>
      simp only [Image.resolve, hfound]
      rfl
    | none =>
      simp only [Image.resolve, hfound, Option.none_or]
      cases outside with
      | none => rfl
      | some source =>
        rw [Option.bind_some]
        cases hanswer : (source path name).address? with
        | none =>
          rw [Action.effect_bind_ok (effect_ask name s), hanswer]
          rfl
        | some value =>
          rw [Action.effect_bind_ok (effect_ask name s), hanswer]
          rfl

theorem effect_forAddress (value : UInt64) (s : σ) :
    (Note.forAddress value).effect s = (.ok (.ofAddress value), s) :=
  Action.effect_ite_emit _ _ _ s

theorem effect_read (s : σ) : (Image.read bytes).effect s = (Image.load bytes, s) := by
  rw [Image.read, Action.effect_bind, Action.effect_ofExcept]
  cases Image.load bytes <;> rfl

/-- The address that a patch resolves for a loaded image. -/
theorem effect_entry (s : σ) : (img.resolve options.symbol path
    (if options.fallback then some source else none) (address.or options.address)).effect s =
      ((entryAddress? options source path img address).elim
        (.error (.symbolNotFound options.symbol)) .ok, s) := by
  have houtside : (if options.fallback then some source else none).bind
      (fun source ↦ (source path options.symbol).address?) =
        if options.fallback then (source path options.symbol).address? else none := by
    split_ifs <;> rfl
  rw [effect_resolve, houtside, entryAddress?]

/-- A patch leaves the state alone, and what it gives does not depend on it. -/
theorem effect_patchBytes (s : σ) : (patchBytes options source path bytes address).effect s =
    (patched options source path bytes address, s) := by
  have hread : (Image.read bytes).effect s = (Image.load bytes, s) := effect_read s
  unfold patched
  cases hload : Image.load bytes with
  | error e =>
    rw [hload] at hread
    exact Action.effect_bind_error hread _
  | ok img =>
    rw [hload] at hread
    have hentry : (img.resolve options.symbol path (if options.fallback then some source else none)
        (address.or options.address)).effect s =
          ((entryAddress? options source path img address).elim
            (.error (.symbolNotFound options.symbol)) .ok, s) := effect_entry s
    refine (Action.effect_bind_ok hread _).trans ?_
    cases hknown : entryAddress? options source path img address with
    | none =>
      rw [hknown] at hentry
      exact (Action.effect_bind_error hentry _).trans (by simp only [hknown])
    | some entry =>
      rw [hknown] at hentry
      refine (Action.effect_bind_ok hentry _).trans ?_
      rw [Action.effect_bind_ok (effect_forAddress entry s),
        Action.effect_bind_ok (Action.effect_emit _ _)]
      refine (Action.effect_ite_emit _ _ _ s).trans ?_
      rw [Action.effect_bind, Action.effect_within]
      simp only [hknown]
      cases ((Image.inject (.ofAddress entry)).effect img).1 <;> rfl

/-- The patches that succeed: the file loads, an address is known, and its note is injected. -/
theorem patched_eq_ok_iff : patched options source path bytes address = .ok (out, report) ↔
    ∃ img entry img', Image.load bytes = .ok img ∧
      entryAddress? options source path img address = some entry ∧
      (Image.inject (.ofAddress entry)).effect img = (.ok report.injection, img') ∧
      out = img'.bytes ∧ report.entry = (Note.ofAddress entry).entry ∧
      report.existingNotes = img.notes.length ∧ report.size = img'.size := by
  obtain ⟨noted, injection, count, size⟩ := report
  unfold patched
  cases hload : Image.load bytes with
  | error e => simp
  | ok img =>
    simp only [Except.ok.injEq, exists_and_left, exists_eq_left']
    cases hknown : entryAddress? options source path img address with
    | none => simp
    | some entry =>
      simp only [Option.some.injEq, exists_eq_left']
      cases hinject : (Image.inject (.ofAddress entry)).effect img with
      | mk result img' =>
        cases result with
        | error e => simp [Except.map]
        | ok done =>
          simp only [Except.map, Except.ok.injEq, Prod.mk.injEq, Report.mk.injEq]
          constructor
          · rintro ⟨rfl, rfl, rfl, rfl, rfl⟩
            exact ⟨img', ⟨rfl, rfl⟩, rfl, rfl, rfl, rfl⟩
          · rintro ⟨img', ⟨rfl, rfl⟩, rfl, rfl, rfl, rfl⟩
            exact ⟨rfl, rfl, rfl, rfl, rfl⟩

/-! ### What a boot loader reads -/

/-- The bytes `out` are a file that advertises an entry address, where `img` is the image that was
patched and `img'` the one that `out` loads as. -/
structure Advertises (img : Image) (entry : UInt64) (out : ByteArray) (report : Report)
    (img' : Image) : Prop where
  loaded : Image.load out = .ok img'
  segments_eq : img'.segments.length = img.segments.length + 1
  /-- The last segment is one of notes, and its bytes are those of the note. -/
  segment : ∃ s, img'.segments.getLast? = some s ∧ s.type = Segment.note ∧
    s.offset.toNat = report.injection.noteOffset ∧ s.filesz.toNat = Note.size
  aligned : Note.alignment ∣ report.injection.noteOffset
  /-- The note ends the file. -/
  size_eq : report.injection.noteOffset + Note.size = out.size
  /-- The bytes of the note are read as the note with the entry that the report names. -/
  note : ∃ data, img'.slice report.injection.noteOffset Note.size = .ok data ∧
    Note.decode? (toList data) = some ⟨report.entry⟩
  /-- The entry has 32 bits. -/
  entry_eq : report.entry.toNat = entry.toNat % 2 ^ 32
  notes : img'.notes.getLast? = some ⟨report.entry⟩
  reported_size : report.size = out.size
  existing : report.existingNotes = img.notes.length

/-- What an injection leaves behind advertises the address of its note. -/
theorem advertises_of_inject {entry : UInt64} {img' : Image} (hsize : bytes.size < capacity)
    (loaded : Image.load bytes = .ok img) (apart : img.header.Apart)
    (injected : (Image.inject (.ofAddress entry)).effect img = (.ok report.injection, img'))
    (hentry : report.entry = (Note.ofAddress entry).entry)
    (hcount : report.existingNotes = img.notes.length) (hreport : report.size = img'.size) :
    Advertises img entry img'.bytes report img' := by
  obtain ⟨loaded, fits, hlast, found, checked, rfl, hsize'⟩ :=
    Image.injects_of_load hsize loaded injected
  obtain ⟨-, -, -, hoffset, -, -⟩ := (Image.effect_inject_eq_ok_iff fits hlast).mp injected
  have hnote : Note.ofAddress entry = ⟨report.entry⟩ := by rw [hentry]
  rw [Image.size_roomFor fits checked] at hoffset
  rw [hnote] at hreport hsize' ⊢
  have hsegments := Image.segments_injected ⟨report.entry⟩ fits hlast found checked
  have hnotes := Image.notes_injected_eq ⟨report.entry⟩ fits hlast found checked hsize'
  exact {
    loaded := (Image.load_injected_iff fits hlast found checked loaded hsize').mpr
      (Image.not_spoilsHeader_of_apart fits hlast apart)
    segments_eq := by rw [hsegments, List.length_append, List.length_map, List.length_singleton]
    segment := ⟨(img.roomFor report.injection.strategy).noteEntry,
      by rw [hsegments, List.getLast?_concat], rfl,
      (Image.toNat_offset_noteEntry ⟨report.entry⟩ fits hlast found checked hsize').trans
        hoffset.symm, rfl⟩
    aligned := by
      rw [hoffset]
      exact Nat.dvd_mul_left _ _
    size_eq := by
      rw [hoffset]
      exact (Image.size_injected ⟨report.entry⟩ fits hlast found checked).symm
    note := by
      refine ⟨_, ?_, (congrArg Note.decode? (toList_toByteArray _)).trans (Note.decode?_encode _)⟩
      rw [hoffset]
      exact Image.slice_injected_note ⟨report.entry⟩ fits hlast found checked
    entry_eq := by
      rw [hentry]
      exact UInt64.toNat_toUInt32 entry
    notes := by rw [hnotes, List.getLast?_concat]
    reported_size := hreport
    existing := hcount }

/-- A patch that succeeds on a file whose tables lie apart leaves a file that loads again and from
which a boot loader reads the resolved address, whatever the options, the path and the source. -/
theorem advertises_of_patchBytes {s s' : σ} (hsize : bytes.size < capacity)
    (loaded : Image.load bytes = .ok img) (apart : img.header.Apart)
    (done : (patchBytes options source path bytes address).effect s = (.ok (out, report), s')) :
    ∃ entry img', (img.resolve options.symbol path (if options.fallback then some source else none)
        (address.or options.address)).effect s = (.ok entry, s) ∧
      Advertises img entry out report img' := by
  rw [effect_patchBytes] at done
  obtain ⟨img₁, entry, img', loaded₁, hknown, injected, rfl, hentry, hcount, hreport⟩ :=
    patched_eq_ok_iff.mp (congrArg Prod.fst done)
  obtain rfl : img = img₁ := Except.ok.inj (loaded.symm.trans loaded₁)
  refine ⟨entry, img', ?_,
    advertises_of_inject hsize loaded apart injected hentry hcount hreport⟩
  rw [effect_entry, hknown]
  rfl

/-- The report on a file whose symbol table has the entry and whose segment holds a note already. -/
def wideReport : Report := ⟨0x1000, Image.wideInjection, 1, 572⟩

theorem size_wideResult : Image.wideResult.size = 572 := by
  rw [Image.wideResult, Image.size_injected _ Image.wideParts.fitsIn_header
    Image.wideParts.size_image_lt Image.findRoom_wideParts Image.checkFor_wideParts,
    Image.Parts.size_image]
  decide +kernel

theorem patched_wideParts : patched { symbol := "_start" } Source.empty "kernel"
    Image.wideParts.bytes none = .ok (Image.wideResult.bytes, wideReport) := by
  have hfound : Image.wideParts.image.findSymbol "_start" = some 0x1000 :=
    Image.findSymbol_symbolParts
  refine patched_eq_ok_iff.mpr ⟨_, 0x1000, _, Image.wideParts.load_image, ?_,
    Image.inject_wideParts, rfl, rfl, ?_, size_wideResult.symm⟩
  · simp only [entryAddress?, hfound, Option.or_none, Option.none_or, Option.some_or]
  · rw [Image.notes_wideParts]
    rfl

theorem advertises_wideParts :
    (patchBytes { symbol := "_start" } Source.empty "kernel" Image.wideParts.bytes none).effect () =
        (.ok (Image.wideResult.bytes, wideReport), ()) ∧
      ∃ entry img', (Image.wideParts.image.resolve "_start" "kernel" (some Source.empty)
          none).effect () = (.ok entry, ()) ∧
        Advertises Image.wideParts.image entry Image.wideResult.bytes wideReport img' := by
  have done : (patchBytes { symbol := "_start" } Source.empty "kernel" Image.wideParts.bytes
      none).effect () = (.ok (Image.wideResult.bytes, wideReport), ()) := by
    rw [effect_patchBytes, patched_wideParts]
  have advertises := advertises_of_patchBytes Image.wideParts.size_bytes Image.wideParts.load_image
    Image.wideParts.apart_header done
  exact ⟨done, advertises⟩

end BootNote
