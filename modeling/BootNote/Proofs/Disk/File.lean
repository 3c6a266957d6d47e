import BootNote.Disk.File
import BootNote.Proofs.Disk

/-!
Operations on a file that a path names. Where nothing lies at a path, the file that is made there is
the only difference (`Adds`); it is found by its path and may be changed (`Adds.exists_names`), and
when it is removed nothing is left of it (`Adds.remove`). Writing to it takes as many calls as the
device wants, and whatever stops it, the file has a front part of what was to be written
(`Adds.writeAll`).
-/

set_option autoImplicit false
set_option relaxedAutoImplicit false

namespace BootNote.Disk

variable {disk after : Disk} {path : SystemText} {place : Place} {mode : Nat}
  {data old : ByteArray}

theorem mode?_eq_some_iff : disk.mode? path = some mode ↔
    ∃ place data, disk.locate path = .ok (place, .file mode data) := by
  rw [mode?]
  cases hlocate : disk.locate path with
  | error fault => simp
  | ok found =>
    obtain ⟨place, entry⟩ := found
    cases entry <;> simp [Entry.mode?, eq_comm]

theorem read_eq_ok_iff : disk.read path = .ok data ↔
    ∃ place mode, disk.locate path = .ok (place, .file mode data) ∧
      disk.device.read place = .ok () := by
  rw [read, except_bind_eq_ok_iff]
  constructor
  · rintro ⟨⟨place, entry⟩, hlocate, hread⟩
    cases entry with
    | directory => cases hread
    | file mode old =>
      obtain ⟨_, hdevice, hdata⟩ := except_bind_eq_ok_iff.mp hread
      cases hdata
      exact ⟨place, mode, hlocate, hdevice⟩
  · rintro ⟨place, mode, hlocate, hdevice⟩
    exact ⟨_, hlocate, except_bind_eq_ok_iff.mpr ⟨_, hdevice, rfl⟩⟩

theorem Names.get?_eq_none (names : disk.Names path place)
    (free : ∀ found, disk.locate path ≠ .ok found) : disk.get? place = none := by
  by_contra hsome
  obtain ⟨entry, hentry⟩ := Option.ne_none_iff_exists'.mp hsome
  exact free _ (names.locate_iff.mpr ⟨rfl, hentry⟩)

/-! ### A file that is there -/

section File

variable (names : disk.Names path place) (file : disk.get? place = some (.file mode data))

include names file

theorem Names.locate : disk.locate path = .ok (place, .file mode data) :=
  names.locate_iff.mpr ⟨rfl, file⟩

theorem Names.append (more : ByteArray) : disk.append path more =
    (disk.device.write place data.size more.size).map fun taken ↦
      (min taken more.size,
        disk.put place (.file mode (data ++ more.extract 0 (min taken more.size)))) := by
  rw [Disk.append, names.locate file]
  show (disk.device.write place data.size more.size >>= _) = _
  cases disk.device.write place data.size more.size <;> rfl

/-- One call is enough if everything is taken at once. -/
theorem Names.writeAll {more : ByteArray} (hmore : more.size ≠ 0)
    (hwrite : disk.device.write place data.size more.size = .ok more.size) :
    disk.writeAll path more = (.ok (), disk.put place (.file mode (data ++ more))) := by
  obtain ⟨count, hcount⟩ := Nat.exists_eq_succ_of_ne_zero hmore
  have happend : disk.append path more =
      .ok (count + 1, disk.put place (.file mode (data ++ more))) := by
    rw [names.append file, hwrite, Except.map, Nat.min_self, ByteArray.extract_zero_size, hcount]
  have hrest : (more.extract (count + 1) more.size).size = 0 := by
    rw [ByteArray.size_extract]
    omega
  rw [Disk.writeAll, if_neg hmore, happend]
  dsimp only
  rw [Disk.writeAll, if_pos hrest]

/-- A device that takes a part and refuses the rest. -/
theorem Names.writeAll_fst_of_error {more : ByteArray} {count : Nat} {fault : SystemFault}
    (hcount : count + 1 < more.size)
    (hwrite : disk.device.write place data.size more.size = .ok (count + 1))
    (hrefuse : disk.device.write place (data.size + (count + 1)) (more.size - (count + 1)) =
      .error fault) :
    (disk.writeAll path more).1 = .error fault := by
  have hmin : min (count + 1) more.size = count + 1 := Nat.min_eq_left (Nat.le_of_lt hcount)
  have happend : disk.append path more =
      .ok (count + 1, disk.put place (.file mode (data ++ more.extract 0 (count + 1)))) := by
    rw [names.append file, hwrite, Except.map, hmin]
  have hsize : (data ++ more.extract 0 (count + 1)).size = data.size + (count + 1) := by
    rw [ByteArray.size_append, ByteArray.size_extract]
    omega
  have hrest : (more.extract (count + 1) more.size).size = more.size - (count + 1) := by
    rw [ByteArray.size_extract]
    omega
  have names' := names.put mode (data ++ more.extract 0 (count + 1)) (by simp [file])
  have hrefused : (disk.put place (.file mode (data ++ more.extract 0 (count + 1)))).append path
      (more.extract (count + 1) more.size) = .error fault := by
    rw [names'.append (names.get?_put_self _), hsize, hrest]
    exact congrArg (Except.map _) hrefuse
  rw [Disk.writeAll, if_neg (by omega), happend]
  dsimp only
  rw [Disk.writeAll, if_neg (by omega), hrefused]

theorem Names.sync : disk.sync path = disk.device.sync place := by
  rw [Disk.sync, names.locate file]
  rfl

theorem Names.setMode (new : Nat) : disk.setMode path new =
    (disk.device.setMode place new).map fun _ ↦ disk.put place (.file new data) := by
  rw [Disk.setMode, names.locate file]
  show (disk.device.setMode place new >>= _) = _
  cases disk.device.setMode place new <;> rfl

theorem Names.remove : disk.remove path = .ok (disk.erase place) := by
  rw [Disk.remove, names.locate file]
  rfl

/-- A file is moved to the place that a path names, unless a directory lies there or the device does
not let it. -/
theorem Names.rename_eq_ok_iff {output : SystemText} : disk.rename path output = .ok after ↔
    ∃ new, disk.Names output new ∧ disk.get? new ≠ some .directory ∧
      disk.device.rename place new = .ok () ∧
      after = (disk.erase place).put new (.file mode data) := by
  obtain ⟨t, htarget, hslash, hdots, hchild⟩ := names
  constructor
  · intro renamed
    obtain ⟨old, hold, renamed⟩ := except_bind_eq_ok_iff.mp renamed
    obtain rfl : t = old := Except.ok.inj (htarget.symm.trans hold)
    obtain ⟨new, hnew, renamed⟩ := except_bind_eq_ok_iff.mp renamed
    obtain ⟨hkind, renamed⟩ := guard_eq_ok_iff.mp renamed
    obtain ⟨oldPlace, holdPlace, renamed⟩ := except_bind_eq_ok_iff.mp renamed
    obtain rfl : place = oldPlace := Except.ok.inj (hchild.symm.trans holdPlace)
    simp only [file] at renamed
    obtain ⟨newPlace, hnewPlace, renamed⟩ := except_bind_eq_ok_iff.mp renamed
    obtain ⟨hslashes, renamed⟩ := guard_eq_ok_iff.mp renamed
    obtain ⟨hdirectory, renamed⟩ := guard_eq_ok_iff.mp renamed
    obtain ⟨_, hdevice, renamed⟩ := except_bind_eq_ok_iff.mp renamed
    exact ⟨newPlace, ⟨new, hnew, by simpa [hslash] using hslashes, by simpa [hdots] using hkind,
      hnewPlace⟩, hdirectory, hdevice, (Except.ok.inj renamed).symm⟩
  · rintro ⟨newPlace, ⟨new, hnew, hslash', hdots', hnewPlace⟩, hdirectory, hdevice, rfl⟩
    refine except_bind_eq_ok_iff.mpr ⟨t, htarget, except_bind_eq_ok_iff.mpr ⟨new, hnew, ?_⟩⟩
    refine guard_eq_ok_iff.mpr ⟨by simp [hdots, hdots'], ?_⟩
    refine except_bind_eq_ok_iff.mpr ⟨place, hchild, ?_⟩
    simp only [file]
    refine except_bind_eq_ok_iff.mpr ⟨newPlace, hnewPlace, ?_⟩
    refine guard_eq_ok_iff.mpr ⟨by simp [hslash, hslash'], guard_eq_ok_iff.mpr ⟨hdirectory, ?_⟩⟩
    exact except_bind_eq_ok_iff.mpr ⟨_, hdevice, rfl⟩

end File

/-! ### A file that is made -/

/-- `after` is `disk` with a file at the place that a path names, where nothing was. -/
def Adds (disk : Disk) (path : SystemText) (mode : Nat) (data : ByteArray) (after : Disk) : Prop :=
  ∃ place, disk.Names path place ∧ disk.get? place = none ∧
    after = disk.put place (.file mode data)

/-- Where a path leads nowhere, opening what it leads to makes an empty file. -/
theorem create_eq_ok_iff_of_free (free : ∀ found, disk.locate path ≠ .ok found) :
    disk.create path = .ok after ↔ ∃ place, disk.Names path place ∧
      disk.get? place = none ∧ disk.device.create place = .ok () ∧
      after = disk.put place (.file newMode .empty) := by
  constructor
  · intro created
    obtain ⟨t, htarget, created⟩ := except_bind_eq_ok_iff.mp created
    obtain ⟨hkind, created⟩ := guard_eq_ok_iff.mp created
    obtain ⟨place, hchild, created⟩ := except_bind_eq_ok_iff.mp created
    obtain ⟨-, created⟩ := guard_eq_ok_iff.mp created
    obtain ⟨_, hdevice, created⟩ := except_bind_eq_ok_iff.mp created
    obtain ⟨hslash, hdots⟩ : t.slash = false ∧ isDots t.name = false := by simpa using hkind
    have names : disk.Names path place := ⟨t, htarget, hslash, hdots, hchild⟩
    have hnone := names.get?_eq_none free
    rw [hnone] at created
    exact ⟨place, names, hnone, hdevice, (Except.ok.inj created).symm⟩
  · rintro ⟨place, ⟨t, htarget, hslash, hdots, hchild⟩, hnone, hdevice, rfl⟩
    refine except_bind_eq_ok_iff.mpr ⟨t, htarget, guard_eq_ok_iff.mpr ⟨by simp [hslash, hdots], ?_⟩⟩
    refine except_bind_eq_ok_iff.mpr ⟨place, hchild, guard_eq_ok_iff.mpr ⟨by simp [hnone], ?_⟩⟩
    exact except_bind_eq_ok_iff.mpr ⟨_, hdevice, by rw [hnone]; rfl⟩

section Adds

variable (adds : disk.Adds path mode data after)

include adds

/-- The file that was made is found by its path, and changing it is making another one. -/
theorem Adds.exists_names : ∃ place, after.Names path place ∧
    after.get? place = some (.file mode data) ∧
      ∀ mode data, disk.Adds path mode data (after.put place (.file mode data)) := by
  obtain ⟨place, names, hnone, rfl⟩ := adds
  refine ⟨place, names.put mode data (by simp [hnone]), names.get?_put_self _,
    fun mode data ↦ ⟨place, names, hnone, put_put _⟩⟩

/-- One call writes a front part of what is to be written. -/
theorem Adds.append {more : ByteArray} {taken : Nat} {left : Disk}
    (appended : after.append path more = .ok (taken, left)) :
    taken ≤ more.size ∧ disk.Adds path mode (data ++ more.extract 0 taken) left := by
  obtain ⟨place, names, file, changed⟩ := adds.exists_names
  rw [names.append file] at appended
  obtain ⟨count, -, happended⟩ := except_map_eq_ok_iff.mp appended
  cases happended
  exact ⟨Nat.min_le_right count more.size, changed _ _⟩

/-- However the calls go, a front part of what is to be written is in the file afterwards, and all
of it if they succeed. -/
theorem Adds.writeAll (more : ByteArray) : ∃ count ≤ more.size,
    disk.Adds path mode (data ++ more.extract 0 count) (after.writeAll path more).2 ∧
      ((after.writeAll path more).1 = .ok () → count = more.size) := by
  have hnothing : disk.Adds path mode (data ++ more.extract 0 0) after := by simpa using adds
  fun_induction Disk.writeAll after path more generalizing data with
  | case1 after more hempty => exact ⟨0, Nat.zero_le _, hnothing, fun _ ↦ hempty.symm⟩
  | case2 after more hmore fault refused => exact ⟨0, Nat.zero_le _, hnothing, nofun⟩
  | case3 after more hmore left appended =>
    exact ⟨0, Nat.zero_le _, (adds.append appended).2, nofun⟩
  | case4 after more hmore taken left appended ih =>
    obtain ⟨hle, adds'⟩ := adds.append appended
    obtain ⟨count, hcount, written, whole⟩ := ih adds' (by simpa using adds')
    rw [ByteArray.size_extract] at hcount whole
    refine ⟨taken + 1 + count, by omega, ?_, fun hok ↦ by have := whole hok; omega⟩
    -- What the calls from here on write follows what this one wrote.
    have hparts : more.extract 0 (taken + 1 + count) = more.extract 0 (taken + 1) ++
        (more.extract (taken + 1) more.size).extract 0 count := by
      rw [ByteArray.extract_extract, ByteArray.extract_eq_extract_append_extract (taken + 1)
        (Nat.zero_le _) (Nat.le_add_right _ _)]
      congr 2
      omega
    rwa [hparts, ← ByteArray.append_assoc]

/-- Nothing is left of the file when it is removed. -/
theorem Adds.remove : (after.remove path).toOption.getD after = disk := by
  obtain ⟨place, names, hnone, rfl⟩ := adds
  rw [(names.put mode data (by simp [hnone])).remove (names.get?_put_self _), erase_put hnone]
  rfl

/-- Other paths lead where they led. -/
theorem Adds.mode? {model : SystemText} {bits : Nat} (known : disk.mode? model = some bits) :
    after.mode? model = some bits := by
  obtain ⟨place, -, hnone, rfl⟩ := adds
  obtain ⟨there, old, hlocate⟩ := mode?_eq_some_iff.mp known
  exact mode?_eq_some_iff.mpr ⟨there, old, locate_put mode data hnone hlocate⟩

end Adds

end BootNote.Disk
