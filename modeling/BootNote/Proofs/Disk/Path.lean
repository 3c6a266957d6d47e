import BootNote.Disk.Path
import BootNote.Proofs.Text.Utf8

/-!
The last name of a path and the directory before it. A path that ends in a piece has that piece as
its last name and as its file name (`EndsIn.getLast?_names`, `EndsIn.fileName?`), and its parent
leads along the names before that piece, up to dots, which lead nowhere (`EndsIn.parent`). A path
made by `join` leads along one name more than the directory (`names_join`). Hence the names of a
temporary file (`names_temporary`). The last of them is never that of the file whose place the
temporary file takes: it is a string and is shown as it is, while it shows the other name with more
around it (`ne_temporaryName`).
-/

set_option autoImplicit false
set_option relaxedAutoImplicit false

namespace BootNote.Path

/-! ### Names -/

/-- Names without the dots among them, which lead nowhere. -/
def withoutDots (names : List SystemText) : List SystemText := names.filter fun name ↦ name != "."

theorem withoutDots_append (front back : List SystemText) :
    withoutDots (front ++ back) = withoutDots front ++ withoutDots back := List.filter_append ..

theorem names_of_slash_notMem {text : List UInt8} (hslash : slash ∉ text) (hne : text ≠ []) :
    names ⟨text⟩ = [⟨text⟩] := by
  rw [names, List.splitOn_eq_singleton hslash, List.filter_cons_of_pos (by simpa using hne)]
  rfl

theorem names_append_slash (front back : List UInt8) :
    names ⟨front ++ slash :: back⟩ = names ⟨front⟩ ++ names ⟨back⟩ := by
  rw [names, List.splitOn_append_cons_self, List.filter_append, List.map_append]
  rfl

theorem names_intercalate (start : Nat) (pieces : List (List UInt8)) :
    names ⟨[slash].intercalate pieces⟩ = (stops start pieces).flatMap fun e ↦ names e.1 := by
  induction pieces generalizing start with
  | nil => rfl
  | cons piece rest ih =>
    by_cases hrest : rest = []
    · subst hrest
      rw [List.intercalate_singleton, stops, stops, List.flatMap_singleton]
    · rw [List.intercalate_cons_of_ne_nil hrest, List.append_assoc, List.singleton_append,
        names_append_slash, ih (start + piece.length + 1), stops, List.flatMap_cons]

/-- A path that is cut off where one of its pieces ends leads along the names up to that piece. -/
theorem names_take_stop {start stop : Nat} {piece : SystemText} {pieces : List (List UInt8)}
    {front behind : List (SystemText × Nat)}
    (h : stops start pieces = front ++ (piece, stop) :: behind) :
    start + piece.bytes.length ≤ stop ∧
      names ⟨([slash].intercalate pieces).take (stop - start)⟩ =
        (front.flatMap fun e ↦ names e.1) ++ names piece := by
  induction pieces generalizing start front with
  | nil => simp [stops] at h
  | cons first rest ih =>
    cases front with
    | nil =>
      obtain ⟨⟨rfl, rfl⟩, -⟩ : (⟨first⟩ = piece ∧ start + first.length = stop) ∧ _ := by
        simpa [stops] using h
      have htake : ([slash].intercalate (first :: rest)).take first.length = first := by
        cases rest <;> simp
      refine ⟨Nat.le_refl _, ?_⟩
      rw [Nat.add_sub_cancel_left, htake, List.flatMap_nil, List.nil_append]
    | cons head front =>
      obtain ⟨rfl, hrest⟩ : (⟨first⟩, start + first.length) = head ∧
          stops (start + first.length + 1) rest = front ++ (piece, stop) :: behind := by
        simpa [stops] using h
      obtain ⟨hle, hnames⟩ := ih hrest
      have hne : rest ≠ [] := by
        rintro rfl
        simp [stops] at hrest
      have hstop : stop - start = first.length + (stop - (start + first.length + 1) + 1) := by
        omega
      refine ⟨by omega, ?_⟩
      rw [List.intercalate_cons_of_ne_nil hne, List.append_assoc, List.singleton_append, hstop,
        List.take_length_add_append, List.take_succ_cons, names_append_slash, hnames,
        List.flatMap_cons, List.append_assoc]

/-! ### Joined paths -/

theorem isAbsolute_append {directory : SystemText} (hne : directory.bytes ≠ [])
    (name : SystemText) : isAbsolute (directory ++ name) = isAbsolute directory := by
  rw [isAbsolute, SystemText.bytes_append, List.head?_append, List.head?_eq_some_head hne,
    Option.some_or, isAbsolute, List.head?_eq_some_head hne]

section Join

variable {name : SystemText} (hslash : slash ∉ name.bytes) (directory : SystemText)

include hslash

theorem names_join (hname : name.bytes ≠ []) :
    names (join directory name) = names directory ++ [name] := by
  have hsingle : names name = [name] := names_of_slash_notMem hslash hname
  obtain ⟨bytes⟩ := directory
  unfold join
  split_ifs with hplain
  · rcases Bool.or_eq_true_iff.mp hplain with hempty | hfinal
    · obtain rfl : bytes = [] := List.isEmpty_iff.mp hempty
      exact hsingle
    · obtain ⟨front, rfl⟩ := List.getLast?_eq_some_iff.mp (beq_iff_eq.mp hfinal)
      -- The slash at the end of the directory is the one in front of the name.
      have hfront : names ⟨front ++ [slash]⟩ = names ⟨front⟩ := by
        rw [names_append_slash]
        exact List.append_nil _
      rw [hfront, ← hsingle, ← names_append_slash]
      exact congrArg (fun text ↦ names ⟨text⟩) (List.append_assoc _ _ _)
  · rw [← hsingle, ← names_append_slash]
    exact congrArg (fun text ↦ names ⟨text⟩) (List.append_assoc _ _ _)

theorem isAbsolute_join : isAbsolute (join directory name) = isAbsolute directory := by
  by_cases hempty : directory.bytes = []
  · have hhead : name.bytes.head? ≠ some slash := fun h ↦ hslash (List.mem_of_mem_head? h)
    rw [join, if_pos (by simp [hempty]), isAbsolute, SystemText.bytes_append, hempty,
      List.nil_append, isAbsolute, hempty]
    simpa using hhead
  · unfold join
    split_ifs
    · exact isAbsolute_append hempty _
    · rw [isAbsolute_append (by simp [hempty]), isAbsolute_append hempty]

end Join

/-! ### The last piece -/

/-- Whether a piece of a path, which ends at a position, is one of its parts. -/
def isPart (e : SystemText × Nat) : Bool := !e.1.bytes.isEmpty && (e.1 != "." || e.2 == 1)

theorem withoutDots_names_of_not_isPart {entries : List (SystemText × Nat)}
    (h : ∀ e ∈ entries, ¬ isPart e) : withoutDots (entries.flatMap fun e ↦ names e.1) = [] := by
  rw [withoutDots, List.filter_flatMap, List.flatMap_eq_nil_iff]
  rintro ⟨⟨bytes⟩, stop⟩ hmem
  have hpiece : bytes = [] ∨ (⟨bytes⟩ : SystemText) = "." := by
    by_contra! hneither
    exact h _ hmem (by simp [isPart, hneither])
  rcases hpiece with rfl | hdot
  · rfl
  · rw [hdot]
    rfl

/-- A text ends in a piece: the piece has no slash, and nothing or a slash is in front of it. -/
def EndsIn (text last : List UInt8) : Prop :=
  slash ∉ last ∧ (text = last ∨ ∃ front, text = front ++ slash :: last)

theorem exists_endsIn (text : List UInt8) : ∃ last, EndsIn text last := by
  induction text with
  | nil => exact ⟨[], List.not_mem_nil, Or.inl rfl⟩
  | cons b rest ih =>
    obtain ⟨last, hslash, rfl | ⟨front, rfl⟩⟩ := ih
    · by_cases hb : b = slash
      · exact ⟨rest, hslash, Or.inr ⟨[], by rw [hb]; rfl⟩⟩
      · exact ⟨b :: rest, by simp [hslash, Ne.symm hb], Or.inl rfl⟩
    · exact ⟨last, hslash, Or.inr ⟨b :: front, rfl⟩⟩

variable {path : SystemText} {last : List UInt8}

theorem EndsIn.splitOn {text : List UInt8} (ends : EndsIn text last) :
    ∃ pieces, text.splitOn slash = pieces ++ [last] := by
  obtain ⟨hslash, rfl | ⟨front, rfl⟩⟩ := ends
  · exact ⟨[], List.splitOn_eq_singleton hslash⟩
  · exact ⟨front.splitOn slash, by
      rw [List.splitOn_append_cons_self, List.splitOn_eq_singleton hslash]⟩

theorem EndsIn.ne_nil (ends : EndsIn path.bytes last) (hpath : path.bytes ≠ [])
    (hfinal : hasFinalSlash path = false) : last ≠ [] := by
  rintro rfl
  obtain ⟨-, hempty | ⟨front, hfront⟩⟩ := ends
  · exact hpath hempty
  · simp [hasFinalSlash, hfront] at hfinal

section Last

variable (ends : EndsIn path.bytes last) (hne : last ≠ [])

include ends hne

theorem EndsIn.getLast?_names : (names path).getLast? = some ⟨last⟩ := by
  obtain ⟨pieces, hpieces⟩ := ends.splitOn
  rw [names, hpieces, List.filter_append, List.filter_cons_of_pos (by simpa using hne)]
  simp

/-- The last piece is the last part, unless it is a dot. Positions go along with the pieces, so the
last piece stays last. -/
theorem EndsIn.located (hdot : (⟨last⟩ : SystemText) ≠ ".") : ∃ pieces stop,
    [slash].intercalate (pieces ++ [last]) = path.bytes ∧
      stops 0 (pieces ++ [last]) = stops 0 pieces ++ [(⟨last⟩, stop)] ∧
      Path.located path = (if isAbsolute path then [(("/" : SystemText), 1)] else []) ++
        (stops 0 pieces).filter isPart ++ [(⟨last⟩, stop)] := by
  have hstops (start : Nat) (pieces : List (List UInt8)) :
      ∃ stop, stops start (pieces ++ [last]) = stops start pieces ++ [(⟨last⟩, stop)] := by
    induction pieces generalizing start with
    | nil => exact ⟨start + last.length, rfl⟩
    | cons piece pieces ih =>
      obtain ⟨stop, hrest⟩ := ih (start + piece.length + 1)
      exact ⟨stop, congrArg (List.cons _) hrest⟩
  obtain ⟨pieces, hpieces⟩ := ends.splitOn
  obtain ⟨stop, hlast⟩ := hstops 0 pieces
  refine ⟨pieces, stop, by rw [← hpieces, List.intercalate_splitOn], hlast, ?_⟩
  rw [Path.located, hpieces, hlast, List.filter_append,
    List.filter_cons_of_pos (by simp [hne, hdot]), List.append_assoc]
  rfl

theorem EndsIn.fileName? (hdot : (⟨last⟩ : SystemText) ≠ ".")
    (hdots : (⟨last⟩ : SystemText) ≠ "..") : Path.fileName? path = some ⟨last⟩ := by
  have hroot : (⟨last⟩ : SystemText) ≠ "/" := by
    intro heq
    have hlast : last = [slash] := congrArg SystemText.bytes heq
    exact ends.1 (hlast ▸ List.mem_singleton.mpr rfl)
  obtain ⟨pieces, stop, -, -, hlocated⟩ := ends.located hne hdot
  have hparts : (parts path).getLast? = some ⟨last⟩ := by
    rw [parts, hlocated, List.map_append, List.map_singleton, List.getLast?_concat]
  rw [Path.fileName?, hparts]
  exact Option.filter_some_pos (by simpa using ⟨⟨hroot, hdot⟩, hdots⟩)

/-- The parent of a path starts where the path does and leads along the names before the last
one. -/
theorem EndsIn.parent (hdot : (⟨last⟩ : SystemText) ≠ ".") : ∃ directory,
    parent? path = some directory ∧ isAbsolute directory = isAbsolute path ∧
      withoutDots (names directory) = withoutDots (names path).dropLast := by
  obtain ⟨pieces, stop, hbytes, hstops, hlocated⟩ := ends.located hne hdot
  have hnames : (names path).dropLast = (stops 0 pieces).flatMap fun e ↦ names e.1 := by
    show (names ⟨path.bytes⟩).dropLast = _
    rw [← hbytes, names_intercalate 0, hstops, List.flatMap_append, List.flatMap_singleton,
      names_of_slash_notMem ends.1 hne, List.dropLast_concat]
  rw [hnames]
  rcases List.eq_nil_or_concat ((stops 0 pieces).filter isPart) with
    hnone | ⟨parts, ⟨part, n⟩, hparts⟩
  · rw [withoutDots_names_of_not_isPart (List.filter_eq_nil_iff.mp hnone)]
    rw [hnone] at hlocated
    by_cases habsolute : isAbsolute path
    · obtain ⟨rest, hrest⟩ := List.head?_eq_some_iff.mp (beq_iff_eq.mp habsolute)
      rw [if_pos habsolute] at hlocated
      exact ⟨"/", by rw [parent?, ancestors, hlocated, hrest]; rfl, habsolute.symm, rfl⟩
    · rw [if_neg habsolute] at hlocated
      refine ⟨"", ?_, (Bool.eq_false_iff.mpr habsolute).symm, rfl⟩
      rw [parent?, ancestors, hlocated]
      exact if_neg habsolute
  · rw [List.concat_eq_append] at hparts
    -- The parent is cut off where the last part before the last piece ends.
    obtain ⟨front, rest, hfront, -, hrest⟩ := List.filter_eq_append_iff.mp hparts
    obtain ⟨dropped, behind, rfl, -, hpart, hbehind⟩ := List.filter_eq_cons_iff.mp hrest
    rw [← List.append_assoc] at hfront
    have hwhole : stops 0 (pieces ++ [last]) =
        (front ++ dropped) ++ (part, n) :: (behind ++ [(⟨last⟩, stop)]) := by
      rw [hstops, hfront, List.append_assoc, List.cons_append]
    obtain ⟨hle, htaken⟩ := names_take_stop hwhole
    rw [hbytes, Nat.sub_zero] at htaken
    have hn : n ≠ 0 := by
      have hne : part.bytes.length ≠ 0 := fun hempty ↦ by
        simp [isPart, List.length_eq_zero_iff.mp hempty] at hpart
      omega
    refine ⟨⟨path.bytes.take n⟩, ?_, ?_, ?_⟩
    · rw [parent?, ancestors, hlocated, hparts]
      simp
    · rw [isAbsolute, List.head?_take, if_neg hn]
      rfl
    · have hsplit : ((stops 0 pieces).flatMap fun e ↦ names e.1) =
          names ⟨path.bytes.take n⟩ ++ behind.flatMap fun e ↦ names e.1 := by
        simp only [hfront, htaken, List.flatMap_append, List.flatMap_cons, List.append_assoc]
      rw [hsplit, withoutDots_append,
        withoutDots_names_of_not_isPart (List.filter_eq_nil_iff.mp hbehind), List.append_nil]

end Last

/-! ### Temporary files -/

/-- The name of a temporary file is not the name that it shows. -/
theorem ne_temporaryName (run : String) (name : SystemText) : name ≠ temporaryName run name := by
  intro heq
  have hshown : name.shown = temporaryName run name :=
    (congrArg SystemText.shown heq).trans (SystemText.shown_ofString _)
  have hlength := congrArg String.length hshown
  simp only [temporaryName, String.length_append] at hlength
  rw [show ".".length = 1 from rfl] at hlength
  omega

theorem slash_notMem_temporaryName {run : String} {name : SystemText} (hrun : '/' ∉ run.toList)
    (hname : slash ∉ name.bytes) : slash ∉ (temporaryName run name : SystemText).bytes := by
  intro hmem
  have hshown : '/' ∉ name.shown.toList := fun hc ↦
    hname (SystemText.mem_of_mem_shown (by decide) (by decide) hc)
  have hc := SystemText.mem_of_mem_ofString (c := '/') (by decide) hmem
  simp [temporaryName, hshown, hrun] at hc

/-- The path to a temporary file leads to where the file lies whose place it takes, and from there
to the name that is made from the name of that file. -/
theorem names_temporary {run : String} {name : SystemText} (hpath : path.bytes ≠ [])
    (hfinal : hasFinalSlash path = false) (hname : (names path).getLast? = some name)
    (hdot : name ≠ ".") (hdots : name ≠ "..") (hrun : '/' ∉ run.toList) : ∃ front,
    names (temporary run path) = front ++ [(temporaryName run name : SystemText)] ∧
      withoutDots front = withoutDots (names path).dropLast ∧
      isAbsolute (temporary run path) = isAbsolute path := by
  obtain ⟨last, ends⟩ := exists_endsIn path.bytes
  have hne := ends.ne_nil hpath hfinal
  obtain rfl : ⟨last⟩ = name :=
    Option.some.inj ((ends.getLast?_names hne).symm.trans hname)
  have hslash := slash_notMem_temporaryName hrun ends.1
  obtain ⟨directory, hparent, habsolute, hfront⟩ := ends.parent hne hdot
  have htemporary : temporary run path = join directory (temporaryName run ⟨last⟩) := by
    rw [temporary, withFileName, ends.fileName? hne hdot hdots, hparent]
    rfl
  rw [htemporary]
  exact ⟨names directory, names_join hslash _ (by simp [temporaryName, SystemText.bytes_ofString]),
    hfront, (isAbsolute_join hslash _).trans habsolute⟩

end BootNote.Path
