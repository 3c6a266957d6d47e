import BootNote.Disk.Replace
import BootNote.Proofs.Action
import BootNote.Proofs.Disk.File
import BootNote.Proofs.Disk.Path

/-!
Replacing a file. The temporary file lies next to the file that it is for (`Names.temporary`). Where
nothing lies at its path, that file, with what has arrived in it, is the only difference that there
is before the last step, the move (`MayAdd`). Therefore a failure at any step leaves the disk as it
was, and a success leaves it with the new file and nothing else changed (`ends_replace`); the
temporary file is gone in both cases.
-/

set_option autoImplicit false
set_option relaxedAutoImplicit false

namespace BootNote.Disk

variable {disk after : Disk} {path : SystemText} {place : Place} {mode : Nat} {data : ByteArray}

/-! ### Steps -/

theorem effect_ask {α : Type} (task : FileTask) (question : Disk → Except SystemFault α) :
    (ask task question).effect disk = ((question disk).mapError (.io task), disk) := rfl

theorem ends_ask {α : Type} {task : FileTask} {question : Disk → Except SystemFault α} :
    (ask task question).Ends disk (fun a after ↦ question disk = .ok a ∧ after = disk)
      (· = disk) := by
  rw [Action.Ends, effect_ask]
  cases question disk with
  | error fault => rfl
  | ok a => exact ⟨rfl, rfl⟩

theorem effect_change_ok {task : FileTask} {step : Disk → Except SystemFault Disk}
    (h : step disk = .ok after) : (change task step).effect disk = (.ok (), after) :=
  Action.effect_update_ok (by rw [h]; rfl)

theorem effect_change_error {task : FileTask} {step : Disk → Except SystemFault Disk}
    {fault : SystemFault} (h : step disk = .error fault) :
    (change task step).effect disk = (.error (.io task fault), disk) :=
  Action.effect_update_error (by rw [h]; rfl)

theorem ends_change {task : FileTask} {step : Disk → Except SystemFault Disk} :
    (change task step).Ends disk (fun _ after ↦ step disk = .ok after) (· = disk) := by
  rw [Action.Ends]
  cases h : step disk with
  | error fault => rw [effect_change_error h]
  | ok after => rw [effect_change_ok h]

theorem effect_changeAll (task : FileTask) (steps : Disk → Except SystemFault Unit × Disk) :
    (changeAll task steps).effect disk = ((steps disk).1.mapError (.io task), (steps disk).2) := rfl

theorem ends_changeAll {task : FileTask} {steps : Disk → Except SystemFault Unit × Disk} :
    (changeAll task steps).Ends disk (fun _ after ↦ steps disk = (.ok (), after))
      (· = (steps disk).2) := by
  rw [Action.Ends, effect_changeAll]
  rcases steps disk with ⟨fault | _, after⟩ <;> rfl

/-! ### The temporary file -/

/-- `after` is `disk`, or `disk` with a file that was made at a path. -/
def MayAdd (disk : Disk) (path : SystemText) (after : Disk) : Prop :=
  after = disk ∨ ∃ mode data, disk.Adds path mode data after

theorem Adds.mayAdd (adds : disk.Adds path mode data after) : disk.MayAdd path after :=
  Or.inr ⟨mode, data, adds⟩

/-- Where a path led nowhere, removing what it leads to gives back the disk. -/
theorem MayAdd.remove (free : ∀ found, disk.locate path ≠ .ok found)
    (may : disk.MayAdd path after) : (after.remove path).toOption.getD after = disk := by
  obtain rfl | ⟨mode, data, adds⟩ := may
  · rw [Disk.remove]
    cases hlocate : after.locate path with
    | error fault => rfl
    | ok found => exact absurd hlocate (free found)
  · exact adds.remove

/-- Where a path leads nowhere, making a file there adds it with all its bytes, or fails with a part
of it made at most. -/
theorem ends_writeFile (free : ∀ found, disk.locate path ≠ .ok found) (data : ByteArray) :
    (writeFile path data).Ends disk (fun _ after ↦ disk.Adds path newMode data after)
      (disk.MayAdd path) := by
  have hcreate : (change (.create path) (·.create path)).Ends disk
      (fun _ made ↦ disk.Adds path newMode .empty made) (disk.MayAdd path) := by
    refine ends_change.mono (fun _ made created ↦ ?_) fun _ ↦ Or.inl
    obtain ⟨place, names, hnone, -, hmade⟩ := (create_eq_ok_iff_of_free free).mp created
    exact ⟨place, names, hnone, hmade⟩
  have hwrite {made : Disk} (adds : disk.Adds path newMode .empty made) :
      (changeAll (.write path) (·.writeAll path data)).Ends made
        (fun _ written ↦ disk.Adds path newMode data written) (disk.MayAdd path) := by
    obtain ⟨count, -, adds', whole⟩ := adds.writeAll data
    rw [ByteArray.empty_append] at adds'
    refine ends_changeAll.mono (fun _ written hwritten ↦ ?_) fun left hleft ↦ ?_
    · rw [hwritten] at adds' whole
      rwa [whole rfl, ByteArray.extract_zero_size] at adds'
    · rw [hleft]
      exact adds'.mayAdd
  have hsync {written : Disk} (adds : disk.Adds path newMode data written) :
      (ask (.write path) (·.sync path)).Ends written
        (fun _ after ↦ disk.Adds path newMode data after) (disk.MayAdd path) :=
    ends_ask.mono (fun _ _ synced ↦ synced.2 ▸ adds) fun _ hleft ↦ hleft ▸ adds.mayAdd
  exact hcreate.bind fun _ _ adds ↦ (hwrite adds).bind fun _ _ adds ↦ hsync adds

theorem Adds.ends_setMode (adds : disk.Adds path mode data after) (new : Nat) :
    (change (.setPermissions path) (·.setMode path new)).Ends after
      (fun _ left ↦ disk.Adds path new data left) (disk.MayAdd path) := by
  refine ends_change.mono (fun _ left hset ↦ ?_) fun _ hleft ↦ hleft ▸ adds.mayAdd
  obtain ⟨place, names, file, changed⟩ := adds.exists_names
  rw [names.setMode file] at hset
  obtain ⟨-, -, rfl⟩ := except_map_eq_ok_iff.mp hset
  exact changed new data

/-- The temporary file lies next to the file that it is for, under a name made from the name of that
file. -/
theorem Names.temporary {run : String} {directory old : Place} {name : SystemText}
    (hrun : '/' ∉ run.toList) (names : disk.Names path (directory ++ [name]))
    (names' : disk.Names (Path.temporary run path) old) :
    old = directory ++ [(Path.temporaryName run name : SystemText)] := by
  obtain ⟨there, last, hplace, inside⟩ := names.exists_namesIn
  obtain ⟨rfl, hlast⟩ := List.append_inj' hplace rfl
  obtain rfl := List.singleton_inj.mp hlast
  obtain ⟨there, name', rfl, inside'⟩ := names'.exists_namesIn
  obtain ⟨front, hnames, hfront, habsolute⟩ := Path.names_temporary inside.bytes_ne_nil
    inside.hasFinalSlash_eq inside.getLast?_names inside.ne_dot inside.ne_dots hrun
  have hname := inside'.getLast?_names
  rw [hnames, List.getLast?_concat] at hname
  -- Up to dots, both paths are walked along the same names.
  have hwalk := foldlM_enter_withoutDots inside.walk
  have hwalk' := foldlM_enter_withoutDots inside'.walk
  rw [Path.withoutDots_append] at hwalk hwalk'
  rw [hnames, List.dropLast_concat, habsolute, hfront] at hwalk'
  rw [← Option.some.inj hname, Except.ok.inj (hwalk.symm.trans hwalk')]

/-- The temporary file does not lie at the place of the file that it is for. -/
theorem Names.ne_temporary {run : String} {old : Place} (hrun : '/' ∉ run.toList)
    (names : disk.Names path place) (names' : disk.Names (Path.temporary run path) old) :
    place ≠ old := by
  obtain ⟨directory, name, rfl, -⟩ := names.exists_namesIn
  rw [names.temporary hrun names']
  intro heq
  exact Path.ne_temporaryName run name (List.singleton_inj.mp (List.append_cancel_left heq))

/-! ### The replacement -/

/-- `after` is `disk` with a file at the place that a path leads to: the file has the given mode and
bytes, it is in no directory's place, and every other entry is the one from before. -/
structure Replaces (disk : Disk) (path : SystemText) (mode : Nat) (data : ByteArray)
    (after : Disk) : Prop where
  home_eq : after.home = disk.home
  device_eq : after.device = disk.device
  located : ∃ place, after.locate path = .ok (place, .file mode data) ∧
    disk.get? place ≠ some .directory ∧
      ∀ other, other ≠ place → after.get? other = disk.get? other

theorem Names.replaces_put (names : disk.Names path place) (mode : Nat) (data : ByteArray)
    (h : disk.get? place ≠ some .directory) :
    disk.Replaces path mode data (disk.put place (.file mode data)) where
  home_eq := rfl
  device_eq := rfl
  located := by
    refine ⟨place, ?_, h, fun other hother ↦ ?_⟩
    · exact (names.put mode data h).locate (names.get?_put_self _)
    · rw [get?_put _ _ _ names.ne_nil, if_neg hother]

/-- The temporary file is moved in place of the file that it is for, and is where it was no more. -/
theorem Adds.ends_rename {run : String} (hrun : '/' ∉ run.toList)
    (adds : disk.Adds (Path.temporary run path) mode data after) :
    (change (.move (Path.temporary run path) path) (·.rename (Path.temporary run path) path)).Ends
      after
      (fun _ moved ↦ disk.Replaces path mode data moved ∧
        ∀ found, moved.locate (Path.temporary run path) ≠ .ok found)
      (disk.MayAdd (Path.temporary run path)) := by
  refine ends_change.mono (fun _ moved renamed ↦ ?_) fun _ hleft ↦ hleft ▸ adds.mayAdd
  obtain ⟨old, names, hnone, rfl⟩ := adds
  have hold : disk.get? old ≠ some .directory := by simp [hnone]
  have same := sameDirectories_put mode data hold
  obtain ⟨place, named, hplace, -, rfl⟩ :=
    ((names.put mode data hold).rename_eq_ok_iff (names.get?_put_self _)).mp renamed
  -- What the move found on the disk with the temporary file is there without it.
  rw [same.names_iff] at named
  rw [Ne, same.directory_iff] at hplace
  rw [erase_put hnone]
  refine ⟨named.replaces_put mode data hplace, fun found located ↦ ?_⟩
  have names' := (sameDirectories_put mode data hplace).names_iff.mpr names
  obtain ⟨-, hentry⟩ := names'.locate_iff.mp located
  rw [get?_put _ _ _ named.ne_nil, if_neg (named.ne_temporary hrun names).symm, hnone] at hentry
  cases hentry

/-- A file is replaced as a whole, or the disk is as it was. Where nothing lay at the path of the
temporary file, nothing lies there afterwards. -/
theorem ends_replace {run : String} {model : SystemText} (hrun : '/' ∉ run.toList)
    (free : ∀ found, disk.locate (Path.temporary run path) ≠ .ok found)
    (known : disk.mode? model = some mode) :
    (replace run path model data).Ends disk
      (fun _ after ↦ disk.Replaces path mode data after ∧
        ∀ found, after.locate (Path.temporary run path) ≠ .ok found) (· = disk) := by
  rw [replace]
  refine Action.Ends.cleanup (?_ : Action.Ends _ disk _ (disk.MayAdd (Path.temporary run path)))
    fun _ ↦ MayAdd.remove free
  refine (ends_writeFile free data).bind fun _ written adds ↦ Action.Ends.of_get ?_
  -- The permission bits are asked for after the temporary file is made, which leaves them alone.
  rw [adds.mode? known]
  exact (adds.ends_setMode mode).bind fun _ _ adds ↦ adds.ends_rename hrun

/-! ### Runs on a known device -/

section Device

variable {run : String} {model : SystemText} {old : Place}

/-- A file is made where its path names a place, if the device takes it at once. -/
theorem effect_writeFile (free : ∀ found, disk.locate path ≠ .ok found)
    (names : disk.Names path place) (hdata : data.size ≠ 0)
    (hcreate : disk.device.create place = .ok ())
    (hwrite : disk.device.write place 0 data.size = .ok data.size)
    (hsync : disk.device.sync place = .ok ()) :
    (writeFile path data).effect disk = (.ok (), disk.put place (.file newMode data)) := by
  have hnone := names.get?_eq_none free
  have names' (data : ByteArray) : (disk.put place (.file newMode data)).Names path place :=
    names.put newMode data (by simp [hnone])
  have hcreated : (change (.create path) (·.create path)).effect disk =
      (.ok (), disk.put place (.file newMode .empty)) :=
    effect_change_ok ((create_eq_ok_iff_of_free free).mpr ⟨place, names, hnone, hcreate, rfl⟩)
  have hwritten : (changeAll (.write path) (·.writeAll path data)).effect
      (disk.put place (.file newMode .empty)) = (.ok (), disk.put place (.file newMode data)) := by
    rw [effect_changeAll, (names' .empty).writeAll (names.get?_put_self _) hdata hwrite, put_put,
      ByteArray.empty_append]
    rfl
  rw [writeFile, Action.effect_bind_ok hcreated, Action.effect_bind_ok hwritten, effect_ask,
    (names' data).sync (names.get?_put_self _)]
  exact Prod.ext (congrArg (Except.mapError _) hsync) rfl

/-- A file that cannot be written in full is opened all the same. -/
theorem effect_writeFile_of_error {made : Disk} {fault : SystemFault}
    (created : disk.create path = .ok made) (refused : (made.writeAll path data).1 = .error fault) :
    (writeFile path data).effect disk =
      (.error (.io (.write path) fault), (made.writeAll path data).2) := by
  rw [writeFile, Action.effect_bind_ok (effect_change_ok created), Action.effect_bind,
    effect_changeAll, refused]
  rfl

theorem effect_replace_fst_of_error {e : Error}
    (failed : (writeFile (Path.temporary run path) data).effect disk = (.error e, after)) :
    ((replace run path model data).effect disk).1 = .error e := by
  rw [replace, Action.effect_cleanup, Action.effect_bind_error failed]

variable (known : disk.mode? model = some mode) (names : disk.Names (Path.temporary run path) old)
  (hnone : disk.get? old = none)
  (made : (writeFile (Path.temporary run path) data).effect disk =
    (.ok (), disk.put old (.file newMode data)))

include known names hnone made

/-- When the temporary file is made, what remains are its permission bits and the move. -/
theorem effect_replace_fst : ((replace run path model data).effect disk).1 = (do
    (disk.device.setMode old mode).mapError (.io (.setPermissions (Path.temporary run path)))
    let _ ← ((disk.put old (.file mode data)).rename (Path.temporary run path) path).mapError
      (.io (.move (Path.temporary run path) path))) := by
  have adds : disk.Adds (Path.temporary run path) newMode data
      (disk.put old (.file newMode data)) := ⟨old, names, hnone, rfl⟩
  have hset := (names.put newMode data (by simp [hnone])).setMode (names.get?_put_self _) mode
  rw [replace, Action.effect_cleanup, Action.effect_bind_ok made,
    Action.effect_bind_ok (Action.effect_get _), adds.mode? known]
  dsimp only
  cases hdevice : disk.device.setMode old mode with
  | error fault =>
    rw [device_put, hdevice] at hset
    rw [Action.effect_bind_error (effect_change_error hset)]
    rfl
  | ok _ =>
    rw [device_put, hdevice, Except.map, put_put] at hset
    rw [Action.effect_bind_ok (effect_change_ok hset)]
    cases hmove : (disk.put old (.file mode data)).rename (Path.temporary run path) path with
    | error fault =>
      rw [effect_change_error hmove]
      rfl
    | ok moved =>
      rw [effect_change_ok hmove]
      rfl

end Device

end BootNote.Disk
