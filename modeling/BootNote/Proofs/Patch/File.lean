import BootNote.Patch.File
import BootNote.Proofs.Disk.Replace
import BootNote.Proofs.Patch
import Mathlib.Data.Prod.Basic

/-!
Patching a kernel on a disk. The disk changes in the last step only, in which the output is replaced
as a whole (`Disk.ends_replace`). So a failure of any kind leaves the disk as it was, and after a
success the output has the patched bytes and everything else is as before
(`patchFile_all_or_nothing`).
-/

set_option autoImplicit false
set_option relaxedAutoImplicit false

namespace BootNote

variable {options : Options} {source : Source} {run : String} {input output : SystemText}
  {address : Option UInt64} {disk after : Disk}

/-- What a patch leaves when it succeeds: the output has the patched bytes of the input and its
permission bits, and every other entry is as it was. -/
def Outputs (options : Options) (source : Source) (input output : SystemText)
    (address : Option UInt64) (disk : Disk) (report : Report) (after : Disk) : Prop :=
  ∃ place mode data out, disk.locate input = .ok (place, .file mode data) ∧
    (patchBytes options source input data address).effect disk = (.ok (out, report), disk) ∧
    disk.Replaces output mode out after

theorem ends_patchBytes (data : ByteArray) :
    (patchBytes options source input data address).Ends disk
      (fun done after ↦ (patchBytes options source input data address).effect disk =
        (.ok done, disk) ∧ after = disk) (· = disk) := by
  rw [Action.Ends, effect_patchBytes]
  cases patched options source input data address with
  | error e => rfl
  | ok done => exact ⟨rfl, rfl⟩

/-- Up to the replacement a patch writes nothing, and the replacement is all or nothing. -/
theorem ends_patchFile (hrun : '/' ∉ run.toList)
    (free : ∀ found, disk.locate (Path.temporary run output) ≠ .ok found) :
    (patchFile options source run input output address).Ends disk
      (fun report after ↦ Outputs options source input output address disk report after ∧
        ∀ found, after.locate (Path.temporary run output) ≠ .ok found) (· = disk) := by
  refine Action.Ends.of_emit (Disk.ends_ask.bind fun data _ ⟨hread, hdisk⟩ ↦ ?_)
  rw [hdisk]
  refine (ends_patchBytes data).bind fun ⟨out, report⟩ _ ⟨hpatched, hdisk⟩ ↦ ?_
  rw [hdisk]
  obtain ⟨place, mode, hlocate, -⟩ := Disk.read_eq_ok_iff.mp hread
  have known : disk.mode? input = some mode := Disk.mode?_eq_some_iff.mpr ⟨place, data, hlocate⟩
  refine (Disk.ends_replace hrun free known).bind fun _ after ⟨replaced, gone⟩ ↦ ?_
  exact Action.Ends.of_emit (Action.ends_pure
    ⟨⟨place, mode, data, out, hlocate, hpatched, replaced⟩, gone⟩)

/-- What a patch of a file reports is decided by the patch of its bytes and then by the
replacement. -/
theorem effect_patchFile_fst {data out : ByteArray} {report : Report}
    (hread : disk.read input = .ok data)
    (hpatched : patched options source input data address = .ok (out, report)) :
    ((patchFile options source run input output address).effect disk).1 =
      ((Disk.replace run output input out).effect disk).1.map fun _ ↦ report := by
  have hbytes : (Disk.ask (.read input) (·.read input)).effect disk = (.ok data, disk) := by
    rw [Disk.effect_ask, hread]
    rfl
  have hpatch : (patchBytes options source input data address).effect disk =
      (.ok (out, report), disk) := by rw [effect_patchBytes, hpatched]
  rw [patchFile, Action.effect_bind_ok (Action.effect_emit _ _), Action.effect_bind_ok hbytes,
    Action.effect_bind_ok hpatch, Action.effect_bind]
  generalize (Disk.replace run output input out).effect disk = outcome
  obtain ⟨e | _, left⟩ := outcome <;> rfl

/-! ### A disk with one kernel -/

/-- A disk with a kernel that can be patched, in the directory where paths start. -/
def wideDisk (device : Device) : Disk where
  entries := [(["boot"], .directory), (["boot", "kernel"], .file 0o755 Image.wideParts.bytes)]
  home := ["boot"]
  device

/-- A device with room for one more byte. -/
def fullDevice : Device where
  write _ size _ := if size = 0 then .ok 1 else .error (.other 28 "No space left on device")

/-- A device that does not know permission bits. -/
def plainDevice : Device where
  setMode _ _ := .error (.other 1 "Operation not permitted")

/-- A name that is not UTF-8. -/
def oddName : SystemText := ⟨[0x6b, 0xff]⟩

/-- The kernel on the disk is patched. -/
def patchWide (output : SystemText) : Action Disk Report :=
  patchFile { symbol := "_start" } Source.empty "7" "kernel" output none

section Wide

variable {device : Device}

theorem names_kernel : (wideDisk device).Names "kernel" ["boot", "kernel"] :=
  ⟨⟨["boot"], "kernel", false⟩, rfl, rfl, by decide +kernel, by decide +kernel⟩

theorem names_oddName : (wideDisk device).Names oddName ["boot", oddName] :=
  ⟨⟨["boot"], oddName, false⟩, rfl, rfl, by decide +kernel, by decide +kernel⟩

theorem names_temporary_kernel : (wideDisk device).Names (Path.temporary "7" "kernel")
    ["boot", ".kernel.pvh-7.tmp"] :=
  ⟨⟨["boot"], ".kernel.pvh-7.tmp", false⟩, rfl, rfl, by decide +kernel, by decide +kernel⟩

theorem names_temporary_oddName : (wideDisk device).Names (Path.temporary "7" oddName)
    ["boot", ".k\uFFFD.pvh-7.tmp"] :=
  ⟨⟨["boot"], ".k\uFFFD.pvh-7.tmp", false⟩, rfl, rfl, by decide +kernel, by decide +kernel⟩

theorem free_temporary_kernel (found : Place × Entry) :
    (wideDisk device).locate (Path.temporary "7" "kernel") ≠ .ok found :=
  Disk.locate_ne_ok (show _ = Except.error SystemFault.noEntry from rfl) found

theorem free_temporary_oddName (found : Place × Entry) :
    (wideDisk device).locate (Path.temporary "7" oddName) ≠ .ok found :=
  Disk.locate_ne_ok (show _ = Except.error SystemFault.noEntry from rfl) found

theorem locate_kernel : (wideDisk device).locate "kernel" =
    .ok (["boot", "kernel"], .file 0o755 Image.wideParts.bytes) :=
  names_kernel.locate rfl

theorem mode?_kernel : (wideDisk device).mode? "kernel" = some 0o755 :=
  Disk.mode?_eq_some_iff.mpr ⟨_, _, locate_kernel⟩

theorem effect_patchWide_fst {output : SystemText}
    (hread : device.read ["boot", "kernel"] = .ok ()) :
    ((patchWide output).effect (wideDisk device)).1 =
      ((Disk.replace "7" output "kernel" Image.wideResult.bytes).effect
        (wideDisk device)).1.map fun _ ↦ wideReport :=
  effect_patchFile_fst (Disk.read_eq_ok_iff.mpr ⟨_, _, locate_kernel, hread⟩) patched_wideParts

end Wide

theorem one_lt_size_wideResult : 1 < Image.wideResult.bytes.size := by
  show 1 < Image.wideResult.size
  rw [size_wideResult]
  decide

theorem size_ne_zero_wideResult : Image.wideResult.bytes.size ≠ 0 :=
  Nat.ne_zero_of_lt one_lt_size_wideResult

/-- Every step succeeds on a device that refuses nothing. -/
theorem effect_patchWide_oddName :
    ((patchWide oddName).effect (wideDisk {})).1 = .ok wideReport := by
  have made : (Disk.writeFile (Path.temporary "7" oddName) Image.wideResult.bytes).effect
      (wideDisk {}) = _ :=
    Disk.effect_writeFile free_temporary_oddName names_temporary_oddName size_ne_zero_wideResult
      rfl rfl rfl
  have hfree : (wideDisk {}).get? ["boot", ".k\uFFFD.pvh-7.tmp"] ≠ some .directory := nofun
  have hplace : ((wideDisk {}).put ["boot", ".k\uFFFD.pvh-7.tmp"]
      (.file 0o755 Image.wideResult.bytes)).get? ["boot", oddName] ≠ some .directory := nofun
  have hmove : ((wideDisk {}).put ["boot", ".k\uFFFD.pvh-7.tmp"]
      (.file 0o755 Image.wideResult.bytes)).rename (Path.temporary "7" oddName) oddName = .ok _ :=
    ((names_temporary_oddName.put _ _ hfree).rename_eq_ok_iff
      (names_temporary_oddName.get?_put_self _)).mpr
        ⟨_, (Disk.sameDirectories_put _ _ hfree).names_iff.mpr names_oddName, hplace, rfl, rfl⟩
  rw [effect_patchWide_fst rfl,
    Disk.effect_replace_fst mode?_kernel names_temporary_oddName rfl made, hmove]
  rfl

/-- After one byte nothing more is taken. -/
theorem effect_patchWide_fullDevice : ((patchWide "kernel").effect (wideDisk fullDevice)).1 =
    .error (.io (.write ".kernel.pvh-7.tmp") (.other 28 "No space left on device")) := by
  have hfree : (wideDisk fullDevice).get? ["boot", ".kernel.pvh-7.tmp"] ≠ some .directory := nofun
  have created : (wideDisk fullDevice).create (Path.temporary "7" "kernel") = .ok _ :=
    (Disk.create_eq_ok_iff_of_free free_temporary_kernel).mpr
      ⟨_, names_temporary_kernel, rfl, rfl, rfl⟩
  have refused := (names_temporary_kernel.put Disk.newMode .empty hfree).writeAll_fst_of_error
    (names_temporary_kernel.get?_put_self _) one_lt_size_wideResult rfl rfl
  rw [effect_patchWide_fst rfl,
    Disk.effect_replace_fst_of_error (Disk.effect_writeFile_of_error created refused)]
  rfl

/-- The temporary file is written in full but cannot be given its permission bits. -/
theorem effect_patchWide_plainDevice : ((patchWide "kernel").effect (wideDisk plainDevice)).1 =
    .error (.io (.setPermissions ".kernel.pvh-7.tmp") (.other 1 "Operation not permitted")) := by
  have made : (Disk.writeFile (Path.temporary "7" "kernel") Image.wideResult.bytes).effect
      (wideDisk plainDevice) = _ :=
    Disk.effect_writeFile free_temporary_kernel names_temporary_kernel size_ne_zero_wideResult
      rfl rfl rfl
  rw [effect_patchWide_fst rfl,
    Disk.effect_replace_fst mode?_kernel names_temporary_kernel rfl made]
  rfl

/-! ### All or nothing -/

/-- All or nothing. A patch that fails, at whichever step and for whatever reason, leaves the disk
exactly as it was. After one that succeeds the output has the patched bytes of the input and its
permission bits, and every other entry is as it was. In both cases no temporary file remains,
provided that none was there before; it is the one next to the output whose hidden name shows the
name of the output and the mark of the run. The mark is the number of a process, so it has no
slash. -/
theorem patchFile_all_or_nothing {result : Except Error Report} (hrun : '/' ∉ run.toList)
    (free : ∀ found, disk.locate (Path.temporary run output) ≠ .ok found)
    (done : (patchFile options source run input output address).effect disk = (result, after)) :
    (∀ directory name place, disk.Names output (directory ++ [name]) →
      disk.Names (Path.temporary run output) place → place =
        directory ++ [SystemText.ofString ("." ++ name.shown ++ ".pvh-" ++ run ++ ".tmp")]) ∧
      (∀ found, after.locate (Path.temporary run output) ≠ .ok found) ∧
      (∀ e, result = .error e → after = disk) ∧
      ∀ report, result = .ok report → ∃ place mode data out,
        disk.locate input = .ok (place, .file mode data) ∧
        (patchBytes options source input data address).effect disk = (.ok (out, report), disk) ∧
        disk.Replaces output mode out after := by
  have ends : (patchFile options source run input output address).Ends disk _ _ :=
    ends_patchFile hrun free
  refine ⟨fun directory name place names names' ↦ names.temporary hrun names', ?_⟩
  cases result with
  | error e =>
    obtain rfl := ends.of_error done
    exact ⟨free, fun _ _ ↦ rfl, nofun⟩
  | ok report =>
    obtain ⟨outputs, gone⟩ := ends.of_ok done
    exact ⟨gone, nofun, fun _ heq ↦ Except.ok.inj heq ▸ outputs⟩

/-- The kernel is patched into a file whose name is not UTF-8. Patching it in place fails while the
temporary file is written, with one byte in it, or when that file is to be given its permission
bits. -/
theorem patchFile_wideDisk :
    (∃ after, (patchWide oddName).effect (wideDisk {}) = (.ok wideReport, after) ∧
      (∀ place, (wideDisk {}).Names (Path.temporary "7" oddName) place →
        place = (["boot", ".k\uFFFD.pvh-7.tmp"] : Place)) ∧
      (∀ found, after.locate (Path.temporary "7" oddName) ≠ .ok found) ∧
      ∃ place mode data out, (wideDisk {}).locate "kernel" = .ok (place, .file mode data) ∧
        (patchBytes { symbol := "_start" } Source.empty "kernel" data none).effect (wideDisk {}) =
          (.ok (out, wideReport), wideDisk {}) ∧
        (wideDisk {}).Replaces oddName mode out after) ∧
    (patchWide "kernel").effect (wideDisk fullDevice) =
      (.error (.io (.write ".kernel.pvh-7.tmp") (.other 28 "No space left on device")),
        wideDisk fullDevice) ∧
    (patchWide "kernel").effect (wideDisk plainDevice) =
      (.error (.io (.setPermissions ".kernel.pvh-7.tmp") (.other 1 "Operation not permitted")),
        wideDisk plainDevice) := by
  have patched := Prod.fst_eq_iff.mp effect_patchWide_oddName
  have full := Prod.fst_eq_iff.mp effect_patchWide_fullDevice
  have plain := Prod.fst_eq_iff.mp effect_patchWide_plainDevice
  obtain ⟨beside, gone, -, whole⟩ :=
    patchFile_all_or_nothing (by decide) free_temporary_oddName patched
  obtain ⟨-, -, unchanged, -⟩ := patchFile_all_or_nothing (by decide) free_temporary_kernel full
  obtain ⟨-, -, unchanged', -⟩ := patchFile_all_or_nothing (by decide) free_temporary_kernel plain
  rw [unchanged _ rfl] at full
  rw [unchanged' _ rfl] at plain
  exact ⟨⟨_, patched, fun place ↦ beside ["boot"] oddName place names_oddName, gone,
    whole wideReport rfl⟩, full, plain⟩

end BootNote
