import BootNote.Proofs.Journal
import BootNote.Proofs.Patch

/-!
Where the entry address of a patch comes from. `Resolves` lists the four places in the order in
which they count, and `Asks` says when the source outside the image is reached. Only then is it
asked, once, and nothing else of the source matters: two runs whose sources give the same answer to
this one question, if it comes up, have the same outcome (`patchBytes_precedence`).
-/

set_option autoImplicit false
set_option relaxedAutoImplicit false

namespace BootNote

open Bytes Elf

/-- No address is given, the image does not have the symbol, and the source may be asked. -/
def Asks (options : Options) (img : Image) (address : Option UInt64) : Prop :=
  address = none ∧ options.address = none ∧ img.findSymbol options.symbol = none ∧
    options.fallback = true

instance (options : Options) (img : Image) (address : Option UInt64) :
    Decidable (Asks options img address) :=
  inferInstanceAs (Decidable (_ ∧ _))

/-- The entry address of a patch, by the place that it comes from. Each place counts only if none of
the earlier ones has an address. -/
inductive Resolves (options : Options) (source : Source) (path : SystemText) (img : Image) :
    Option UInt64 → UInt64 → Prop
  | call (entry : UInt64) : Resolves options source path img (some entry) entry
  | configured {entry : UInt64} (known : options.address = some entry) :
    Resolves options source path img none entry
  | inImage {entry : UInt64} (unknown : options.address = none)
    (known : img.findSymbol options.symbol = some entry) :
    Resolves options source path img none entry
  | outside {entry : UInt64} (asks : Asks options img none)
    (known : source path options.symbol = .address entry) :
    Resolves options source path img none entry

variable {σ : Type} {options : Options} {source source' : Source} {path : SystemText}
  {bytes : ByteArray} {address : Option UInt64} {img : Image} {entry : UInt64}

/-! ### The address -/

theorem address?_eq_some_iff {reply : Reply} : reply.address? = some entry ↔
    reply = .address entry := by
  cases reply <;> simp [Reply.address?]

theorem entryAddress?_eq_some_iff : entryAddress? options source path img address = some entry ↔
    Resolves options source path img address entry := by
  constructor
  · intro known
    unfold entryAddress? at known
    cases address with
    | some given =>
      obtain rfl : given = entry := Option.some.inj known
      exact .call given
    | none =>
      cases hoptions : options.address with
      | some given =>
        rw [hoptions] at known
        exact .configured (hoptions.trans known)
      | none =>
        cases himage : img.findSymbol options.symbol with
        | some given =>
          rw [hoptions, himage] at known
          exact .inImage hoptions (himage.trans known)
        | none =>
          rw [hoptions, himage, Option.or_none, Option.none_or, Option.none_or] at known
          split_ifs at known with hfallback
          exact .outside ⟨rfl, hoptions, himage, hfallback⟩ (address?_eq_some_iff.mp known)
  · intro resolves
    unfold entryAddress?
    cases resolves with
    | call => rfl
    | configured known => rw [known]; rfl
    | inImage unknown known => rw [unknown, known]; rfl
    | outside asks known =>
      obtain ⟨-, hoptions, himage, hfallback⟩ := asks
      rw [hoptions, himage, hfallback, known]
      rfl

theorem patched_of_resolves (loaded : Image.load bytes = .ok img)
    (resolves : Resolves options source path img address entry) :
    patched options source path bytes address =
      ((Image.inject (.ofAddress entry)).effect img).1.map fun injection ↦
        (((Image.inject (.ofAddress entry)).effect img).2.bytes,
          ⟨(Note.ofAddress entry).entry, injection, img.notes.length,
            ((Image.inject (.ofAddress entry)).effect img).2.size⟩) := by
  simp only [patched, loaded, entryAddress?_eq_some_iff.mpr resolves]

theorem patched_of_not_resolves (loaded : Image.load bytes = .ok img)
    (unresolved : ∀ entry, ¬ Resolves options source path img address entry) :
    patched options source path bytes address = .error (.symbolNotFound options.symbol) := by
  have hnone : entryAddress? options source path img address = none :=
    Option.eq_none_iff_forall_ne_some.mpr fun entry known ↦
      unresolved entry (entryAddress?_eq_some_iff.mp known)
  simp only [patched, loaded, hnone]

/-- A source that must not be asked is as good as one that knows nothing. -/
theorem patched_empty : patched options Source.empty path bytes address =
    patched { options with fallback := false } source path bytes address := by
  have hentry (img : Image) : entryAddress? options Source.empty path img address =
      entryAddress? { options with fallback := false } source path img address := by
    simp [entryAddress?, Source.empty, Reply.address?]
  simp only [patched, hentry]

/-! ### Questions -/

theorem quiet_makeRoom (pos len : Nat) : (Image.makeRoom pos len).Quiet := by
  refine Action.quiet_get.bind fun img ↦ (Action.quiet_ofExcept _).bind fun header ↦ ?_
  refine Action.Quiet.ite_emit rfl ?_
  refine (Action.quiet_ofExcept _).bind fun sections ↦ ?_
  refine (Action.quiet_ofExcept _).bind fun segments ↦ ?_
  exact (Action.quiet_update _).bind fun _ ↦ (Action.quiet_update _).bind fun _ ↦
    (Action.quiet_updateEach _ _).bind fun _ ↦ Action.quiet_updateEach _ _

theorem quiet_appendNote (note : Note) : (Image.appendNote note).Quiet :=
  Action.quiet_get.bind fun _ ↦ (Action.quiet_update _).bind fun _ ↦
    (Action.quiet_update _).bind fun _ ↦ (Action.quiet_update _).bind fun _ ↦ Action.quiet_pure _

theorem quiet_inject (note : Note) : (Image.inject note).Quiet := by
  have hnote (make : Nat → Injection) : (do
      let noteOffset ← Image.appendNote note
      Action.emit (.injected (make noteOffset))
      return make noteOffset : Action Image Injection).Quiet :=
    (quiet_appendNote note).bind fun _ ↦ (Action.quiet_emit rfl).bind fun _ ↦ Action.quiet_pure _
  refine Action.quiet_get.bind fun img ↦ (Action.quiet_ofExcept _).bind fun ⟨strategy, _⟩ ↦ ?_
  refine (Action.quiet_emit rfl).bind fun _ ↦ ?_
  dsimp only
  split_ifs
  · exact (quiet_makeRoom _ _).bind fun _ ↦ hnote _
  · exact hnote _

theorem quiet_forAddress (value : UInt64) : (Note.forAddress value : Action σ Note).Quiet :=
  Action.Quiet.ite_emit rfl (Action.quiet_pure _)

theorem quiet_read : (Image.read bytes : Action σ Image).Quiet :=
  (Action.quiet_ofExcept _).bind fun _ ↦ (Action.quiet_emit rfl).bind fun _ ↦ Action.quiet_pure _

theorem questions_ask (name : String) (s : σ) :
    Event.questions ((source.ask path name).run s).events = [(path, name)] := by
  rw [Source.ask, Action.run_bind]
  cases source path name <;> rfl

/-- The source is asked only if no address is given and the image does not have the symbol. -/
theorem questions_resolve (name : String) (outside : Option Source) (explicit : Option UInt64)
    (s : σ) : Event.questions ((img.resolve name path outside explicit).run s).events =
      if explicit = none ∧ img.findSymbol name = none ∧ outside.isSome then [(path, name)]
      else [] := by
  cases explicit with
  | some value =>
    unfold Image.resolve
    rfl
  | none =>
    cases hfound : img.findSymbol name with
    | some value =>
      simp only [Image.resolve, hfound]
      rfl
    | none =>
      simp only [Image.resolve, hfound]
      have hknown (address : UInt64) :
          (Action.emit (.foundOutside name address) >>= fun _ ↦ pure address :
            Action σ UInt64).Quiet := (Action.quiet_emit rfl).bind fun _ ↦ Action.quiet_pure _
      have hunknown : (Action.fail (.symbolNotFound name) : Action σ UInt64).Quiet :=
        Action.quiet_fail _
      cases outside with
      | none => exact Action.questions_bind_right (Option.forall.mpr ⟨hunknown, hknown⟩)
      | some source =>
        rw [Action.questions_bind_right (Option.forall.mpr ⟨hunknown, hknown⟩)]
        exact questions_ask name s

/-- A patch asks what the search for the address asks, and nothing else. -/
theorem questions_patchBytes (loaded : Image.load bytes = .ok img) (s : σ) :
    Event.questions ((patchBytes options source path bytes address).run s).events =
      if Asks options img address then [(path, options.symbol)] else [] := by
  have hread : (Image.read bytes).effect s = (.ok img, s) := by rw [effect_read, loaded]
  rw [patchBytes, Action.questions_bind_left quiet_read hread, Action.questions_bind_right,
    questions_resolve]
  · refine if_congr ?_ rfl rfl
    rw [Asks, Option.or_eq_none_iff, and_assoc]
    cases options.fallback <;> simp
  · intro entry
    refine (quiet_forAddress entry).bind fun note ↦ (Action.quiet_emit rfl).bind fun _ ↦ ?_
    exact Action.Quiet.ite_emit rfl
      (((quiet_inject note).within img).bind fun _ ↦ Action.quiet_pure _)

/-! ### Two runs -/

/-- Two sources that answer one question alike resolve it alike, and a source that is not reached
does not matter. -/
theorem resolve_congr {name : String} {outside outside' : Option Source}
    {explicit : Option UInt64} (h : explicit = none → img.findSymbol name = none →
      outside'.map (· path name) = outside.map (· path name)) :
    (img.resolve name path outside' explicit : Action σ UInt64) =
      img.resolve name path outside explicit := by
  cases explicit with
  | some value =>
    unfold Image.resolve
    rfl
  | none =>
    cases hfound : img.findSymbol name with
    | some value => simp only [Image.resolve, hfound]
    | none =>
      simp only [Image.resolve, hfound]
      have hsame := h rfl hfound
      cases outside with
      | none =>
        obtain rfl := Option.map_eq_none_iff.mp hsame
        rfl
      | some source =>
        obtain ⟨source', rfl, hreply⟩ := Option.map_eq_some_iff.mp hsame
        have hask : (source'.ask path name : Action σ (Option UInt64)) = source.ask path name := by
          rw [Source.ask, Source.ask, hreply]
        simp only [hask]

theorem run_patchBytes_congr (loaded : Image.load bytes = .ok img)
    (agree : Asks options img address → source' path options.symbol = source path options.symbol)
    (s : σ) : (patchBytes options source' path bytes address).run s =
      (patchBytes options source path bytes address).run s := by
  rw [patchBytes, patchBytes]
  refine Action.run_bind_congr fun img' s' hread ↦ ?_
  obtain rfl : img = img' := by
    rw [effect_read, loaded] at hread
    exact Except.ok.inj (congrArg Prod.fst hread)
  have hresolve : (img.resolve options.symbol path (if options.fallback then some source' else none)
      (address.or options.address) : Action σ UInt64) =
        img.resolve options.symbol path (if options.fallback then some source else none)
          (address.or options.address) := by
    refine resolve_congr fun hgiven himage ↦ ?_
    split_ifs with hfallback
    · obtain ⟨haddress, hoptions⟩ := Option.or_eq_none_iff.mp hgiven
      exact congrArg some (agree ⟨haddress, hoptions, himage, hfallback⟩)
    · rfl
  dsimp only
  rw [hresolve]

/-- The address that a patch resolves is the one of the call, of the options, of the image's symbol
table or of the source, in this order; if there is none, the patch fails with the symbol, before
anything is injected. The source is asked at most once, exactly when the places before it have no
address and the options allow it, and only for this symbol of the image at this path. Its answer
there is all that a run depends on, and nothing of it where it is not asked. So a source that knows
nothing, with any options, and any source that the options forbid give the same results. -/
theorem patchBytes_precedence (options : Options) (source : Source) (path : SystemText)
    (address : Option UInt64) (loaded : Image.load bytes = .ok img) (s : σ) :
    (∀ entry, (img.resolve options.symbol path (if options.fallback then some source else none)
        (address.or options.address)).effect s = (.ok entry, s) ↔
          Resolves options source path img address entry) ∧
      (∀ entry result out, Resolves options source path img address entry →
        (Image.inject (.ofAddress entry)).effect img = (result, out) →
          (patchBytes options source path bytes address).effect s =
            (result.map fun injection ↦ (out.bytes,
              ⟨(Note.ofAddress entry).entry, injection, img.notes.length, out.size⟩), s)) ∧
      ((∀ entry, ¬ Resolves options source path img address entry) →
        (patchBytes options source path bytes address).effect s =
          (.error (.symbolNotFound options.symbol), s)) ∧
      Event.questions ((patchBytes options source path bytes address).run s).events =
        (if Asks options img address then [(path, options.symbol)] else []) ∧
      (∀ source' : Source,
        (Asks options img address → source' path options.symbol = source path options.symbol) →
          (patchBytes options source' path bytes address).run s =
            (patchBytes options source path bytes address).run s) ∧
      ∀ data, (patchBytes options Source.empty path data address).effect s =
        (patchBytes { options with fallback := false } source path data address).effect s := by
  refine ⟨fun entry ↦ ?_, fun entry result out resolves injected ↦ ?_, fun unresolved ↦ ?_,
    questions_patchBytes loaded s, fun source' agree ↦ run_patchBytes_congr loaded agree s,
    fun data ↦ ?_⟩
  · rw [effect_entry, ← entryAddress?_eq_some_iff]
    cases entryAddress? options source path img address <;> simp
  · rw [effect_patchBytes, patched_of_resolves loaded resolves, injected]
  · rw [effect_patchBytes, patched_of_not_resolves loaded unresolved]
  · rw [effect_patchBytes, effect_patchBytes, patched_empty]

/-- A source that has an address for every symbol. -/
def fullSource : Source := fun _ _ ↦ .address 0x1000

/-- A source that has an address for one symbol of one file. -/
def narrowSource : Source := fun path name ↦
  if path = "kernel" ∧ name = defaultSymbol then .address 0x1000 else .unknown

/-- The symbol table of the file lacks the usual symbol. -/
theorem asks_wideParts : Asks {} Image.wideParts.image none := by
  refine ⟨rfl, rfl, ?_, rfl⟩
  show Image.wideParts.image.findSymbol defaultSymbol = none
  rw [Image.wideParts, Image.findSymbol, Image.symbolTable?_symbolParts]
  decide +kernel

/-- Two sources that have the address give one outcome, after one question, and a source that knows
nothing another. -/
theorem patchBytes_wideParts :
    (patchBytes {} fullSource "kernel" Image.wideParts.bytes none).effect () =
        (.ok (Image.wideResult.bytes, ⟨0x1000, Image.wideInjection,
          Image.wideParts.image.notes.length, Image.wideResult.size⟩), ()) ∧
      Event.questions ((patchBytes {} fullSource "kernel" Image.wideParts.bytes none).run
        ()).events = [(SystemText.ofString "kernel", defaultSymbol)] ∧
      (patchBytes {} narrowSource "kernel" Image.wideParts.bytes none).run () =
        (patchBytes {} fullSource "kernel" Image.wideParts.bytes none).run () ∧
      (patchBytes {} Source.empty "kernel" Image.wideParts.bytes none).effect () =
        (.error (.symbolNotFound defaultSymbol), ()) := by
  obtain ⟨-, known, -, asked, agrees, -⟩ :=
    patchBytes_precedence {} fullSource "kernel" none Image.wideParts.load_image ()
  obtain ⟨-, -, unknown, -⟩ :=
    patchBytes_precedence {} Source.empty "kernel" none Image.wideParts.load_image ()
  refine ⟨known 0x1000 _ _ (.outside asks_wideParts rfl) Image.inject_wideParts, ?_,
    agrees narrowSource fun _ ↦ if_pos ⟨rfl, rfl⟩, ?_⟩
  · rw [asked, if_pos asks_wideParts]
  · refine unknown fun entry resolves ↦ ?_
    cases resolves with
    | configured known => exact absurd known nofun
    | inImage _ known => exact absurd (asks_wideParts.2.2.1.symm.trans known) nofun
    | outside _ known => exact absurd known nofun

end BootNote
