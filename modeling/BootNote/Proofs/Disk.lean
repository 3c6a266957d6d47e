import BootNote.Disk
import BootNote.Proofs.Disk.Path

/-!
Paths on disks that differ in files. A path is walked along directories only, so disks with the same
directories agree on where it leads (`SameDirectories.target_iff`), and dots on the way make no
difference (`foldlM_enter_withoutDots`). `Names` says which place a path names as that of a file,
whether or not a file lies there, and `locate` finds what lies there. A file that is put where
nothing was is taken away again by `erase` without a trace (`erase_put`).
-/

set_option autoImplicit false
set_option relaxedAutoImplicit false

namespace BootNote

theorem except_bind_eq_ok_iff {ε α β : Type} {x : Except ε α} {next : α → Except ε β} {b : β} :
    x >>= next = .ok b ↔ ∃ a, x = .ok a ∧ next a = .ok b := by
  cases x with
  | error e => simp [bind, Except.bind]
  | ok a => simp [bind, Except.bind]

theorem except_map_eq_ok_iff {ε α β : Type} {x : Except ε α} {f : α → β} {b : β} :
    x.map f = .ok b ↔ ∃ a, x = .ok a ∧ f a = b := by
  cases x with
  | error e => simp [Except.map]
  | ok a => simp [Except.map]

/-- A guard that throws lets only the rest succeed. -/
theorem guard_eq_ok_iff {ε β : Type} {c : Prop} [Decidable c] {e : ε}
    {next : PUnit → Except ε β} {b : β} :
    (if c then throw e >>= next else next ⟨⟩) = .ok b ↔ ¬ c ∧ next ⟨⟩ = .ok b := by
  split_ifs with hc
  · simp [hc, throw, throwThe, MonadExceptOf.throw, bind, Except.bind]
  · simp [hc]

namespace Disk

variable {disk other : Disk} {path name : SystemText} {here place : Place} {entry : Entry}

/-! ### Entries -/

theorem ne_nil_of_get?_ne (h : disk.get? place ≠ some .directory) : place ≠ [] := by
  rintro rfl
  exact h rfl

theorem put_put (last : Entry) : (disk.put place entry).put place last = disk.put place last := by
  simp [put, erase]

/-- What is put where nothing was is erased without a trace. -/
theorem erase_put (h : disk.get? place = none) : (disk.put place entry).erase place = disk := by
  have hother : disk.get? place ≠ some .directory := by simp [h]
  have hplace := ne_nil_of_get?_ne hother
  rw [get?, if_neg hplace, List.lookup_eq_none_iff] at h
  have hkept : (disk.entries.filter fun e ↦ e.1 != place) = disk.entries :=
    List.filter_eq_self.mpr fun e he ↦ by simpa [bne_comm] using h e he
  simp [put, erase, hkept]

/-! ### Walks -/

theorem enter_eq_ok_iff : disk.enter here name = .ok place ↔
    child here name = .ok place ∧ disk.get? place = some .directory := by
  rw [enter, except_bind_eq_ok_iff]
  constructor
  · rintro ⟨found, hchild, hfound⟩
    split at hfound
    · next hdirectory =>
      obtain rfl : found = place := Except.ok.inj hfound
      exact ⟨hchild, hdirectory⟩
    · cases hfound
    · cases hfound
  · rintro ⟨hchild, hdirectory⟩
    exact ⟨place, hchild, by simp only [hdirectory]; rfl⟩

theorem target_eq_ok_iff {t : Target} : disk.target path = .ok t ↔
    0 ∉ path.bytes ∧ path.bytes ≠ [] ∧ path.bytes.length < pathLimit ∧
      ((if Path.isAbsolute path then [] else disk.home) ++ (Path.names path).dropLast).foldlM
        disk.enter [] = .ok t.directory ∧
      t.name = (Path.names path).getLast?.getD "." ∧ t.slash = Path.hasFinalSlash path := by
  obtain ⟨directory, name, slash⟩ := t
  rw [target]
  refine guard_eq_ok_iff.trans (and_congr (by simp) ?_)
  refine guard_eq_ok_iff.trans (and_congr (by simp) ?_)
  refine guard_eq_ok_iff.trans (and_congr Nat.not_le ?_)
  rw [except_bind_eq_ok_iff]
  constructor
  · rintro ⟨stop, hwalk, hstop⟩
    cases hstop
    exact ⟨hwalk, rfl, rfl⟩
  · rintro ⟨hwalk, rfl, rfl⟩
    exact ⟨directory, hwalk, rfl⟩

/-- Dots make no difference to where names lead. -/
theorem foldlM_enter_withoutDots {names : List SystemText}
    (walk : names.foldlM disk.enter here = .ok place) :
    (Path.withoutDots names).foldlM disk.enter here = .ok place := by
  induction names generalizing here with
  | nil => exact walk
  | cons name names ih =>
    obtain ⟨next, hnext, hrest⟩ := except_bind_eq_ok_iff.mp walk
    by_cases hdot : name = "."
    · have hchild := (enter_eq_ok_iff.mp hnext).1
      rw [child, if_pos hdot] at hchild
      obtain rfl : here = next := Except.ok.inj hchild
      rw [Path.withoutDots, List.filter_cons_of_neg (by simp [hdot])]
      exact ih hrest
    · rw [Path.withoutDots, List.filter_cons_of_pos (by simpa using hdot)]
      exact except_bind_eq_ok_iff.mpr ⟨next, hnext, ih hrest⟩

/-- Two disks start relative paths at the same place and have the same directories. -/
structure SameDirectories (disk other : Disk) : Prop where
  home_eq : other.home = disk.home
  directory_iff : ∀ place, other.get? place = some .directory ↔ disk.get? place = some .directory

theorem SameDirectories.target_iff (same : disk.SameDirectories other) {t : Target} :
    other.target path = .ok t ↔ disk.target path = .ok t := by
  have hwalk (names : List SystemText) (start stop : Place) :
      names.foldlM other.enter start = .ok stop ↔ names.foldlM disk.enter start = .ok stop := by
    induction names generalizing start with
    | nil => rfl
    | cons name names ih =>
      simp only [List.foldlM_cons, except_bind_eq_ok_iff, enter_eq_ok_iff, same.directory_iff, ih]
  simp only [target_eq_ok_iff, same.home_eq, hwalk]

/-- A disk with a file where no directory was has the same directories. -/
theorem sameDirectories_put (mode : Nat) (data : ByteArray)
    (h : disk.get? place ≠ some .directory) :
    disk.SameDirectories (disk.put place (.file mode data)) where
  home_eq := rfl
  directory_iff other := by
    rw [get?_put _ _ _ (ne_nil_of_get?_ne h)]
    split_ifs with heq
    · simp [heq, h]
    · rfl

/-! ### Files by path -/

/-- A path names a place as that of a file, which need not be there. -/
def Names (disk : Disk) (path : SystemText) (place : Place) : Prop :=
  ∃ t, disk.target path = .ok t ∧ t.slash = false ∧ isDots t.name = false ∧
    child t.directory t.name = .ok place

theorem SameDirectories.names_iff (same : disk.SameDirectories other) :
    other.Names path place ↔ disk.Names path place := by
  simp only [Names, same.target_iff]

/-- A path leads to a directory and from there to a name, which names no directory that is already
there. -/
structure NamesIn (disk : Disk) (path : SystemText) (directory : Place) (name : SystemText) :
    Prop where
  walk : ((if Path.isAbsolute path then [] else disk.home) ++ (Path.names path).dropLast).foldlM
    disk.enter [] = .ok directory
  getLast?_names : (Path.names path).getLast? = some name
  ne_dot : name ≠ "."
  ne_dots : name ≠ ".."
  bytes_ne_nil : path.bytes ≠ []
  hasFinalSlash_eq : Path.hasFinalSlash path = false

/-- The place that a path names is a name in the directory that the path leads to. -/
theorem Names.exists_namesIn (names : disk.Names path place) :
    ∃ directory name, place = directory ++ [name] ∧ disk.NamesIn path directory name := by
  obtain ⟨t, htarget, hslash, hdots, hchild⟩ := names
  obtain ⟨-, hpath, -, hwalk, hname, hfinal⟩ := target_eq_ok_iff.mp htarget
  obtain ⟨hdot, hdotdot⟩ : t.name ≠ "." ∧ t.name ≠ ".." := by simpa [isDots] using hdots
  have hlast : (Path.names path).getLast? = some t.name := by
    cases hnames : (Path.names path).getLast? with
    | none => exact absurd (by rw [hname, hnames]; rfl) hdot
    | some last => rw [hname, hnames, Option.getD_some]
  rw [child, if_neg hdot, if_neg hdotdot] at hchild
  split_ifs at hchild
  exact ⟨t.directory, t.name, (Except.ok.inj hchild).symm, hwalk, hlast, hdot, hdotdot, hpath,
    hfinal.symm.trans hslash⟩

theorem Names.ne_nil (names : disk.Names path place) : place ≠ [] := by
  obtain ⟨directory, name, rfl, -⟩ := names.exists_namesIn
  exact List.concat_ne_nil name directory

theorem locate_eq_ok_iff : disk.locate path = .ok (place, entry) ↔
    ∃ t, disk.target path = .ok t ∧ child t.directory t.name = .ok place ∧
      disk.get? place = some entry ∧ (entry = .directory ∨ t.slash = false) := by
  simp only [locate, except_bind_eq_ok_iff]
  refine exists_congr fun t ↦ and_congr_right fun _ ↦ ?_
  constructor
  · rintro ⟨found, hchild, hfound⟩
    split at hfound
    · cases hfound
    · next hdirectory =>
      cases hfound
      exact ⟨hchild, hdirectory, Or.inl rfl⟩
    · next hfile =>
      split_ifs at hfound with hslash
      cases hfound
      exact ⟨hchild, hfile, Or.inr (by simpa using hslash)⟩
  · rintro ⟨hchild, hentry, hslash⟩
    refine ⟨place, hchild, ?_⟩
    cases entry with
    | directory => simp only [hentry]; rfl
    | file mode data =>
      rw [hslash.resolve_left nofun]
      simp only [hentry]
      rfl

theorem locate_ne_ok {fault : SystemFault} (h : disk.locate path = .error fault)
    (found : Place × Entry) : disk.locate path ≠ .ok found := by
  rw [h]
  nofun

/-- At a place that a path names, the path leads to what lies there. -/
theorem Names.locate_iff {there : Place} (names : disk.Names path place) :
    disk.locate path = .ok (there, entry) ↔ there = place ∧ disk.get? place = some entry := by
  obtain ⟨t, htarget, hslash, hdots, hchild⟩ := names
  rw [locate_eq_ok_iff]
  constructor
  · rintro ⟨t', htarget', hchild', hentry, -⟩
    obtain rfl : t = t' := Except.ok.inj (htarget.symm.trans htarget')
    obtain rfl : place = there := Except.ok.inj (hchild.symm.trans hchild')
    exact ⟨rfl, hentry⟩
  · rintro ⟨rfl, hentry⟩
    exact ⟨t, htarget, hchild, hentry, Or.inr hslash⟩

theorem Names.get?_put_self (names : disk.Names path place) (entry : Entry) :
    (disk.put place entry).get? place = some entry := by
  rw [get?_put _ _ _ names.ne_nil, if_pos rfl]

/-- A path goes on to name a place where a file is put. -/
theorem Names.put (names : disk.Names path place) (mode : Nat) (data : ByteArray)
    (h : disk.get? place ≠ some .directory) :
    (disk.put place (.file mode data)).Names path place :=
  (sameDirectories_put mode data h).names_iff.mpr names

/-- A file that is put where nothing was leaves every path where it led. -/
theorem locate_put {there : Place} (mode : Nat) (data : ByteArray) (free : disk.get? place = none)
    (located : disk.locate path = .ok (there, entry)) :
    (disk.put place (.file mode data)).locate path = .ok (there, entry) := by
  have hfile : disk.get? place ≠ some .directory := by simp [free]
  obtain ⟨t, htarget, hchild, hentry, hslash⟩ := locate_eq_ok_iff.mp located
  have hthere : there ≠ place := by
    rintro rfl
    rw [free] at hentry
    cases hentry
  refine locate_eq_ok_iff.mpr
    ⟨t, (sameDirectories_put mode data hfile).target_iff.mpr htarget, hchild, ?_, hslash⟩
  rw [get?_put _ _ _ (ne_nil_of_get?_ne hfile), if_neg hthere, hentry]

end Disk

end BootNote
