import BootNote.Elf.StringTable
import BootNote.Proofs.Bytes
import Mathlib.Data.List.Forall2

/-!
String tables read back. A string without a NUL that stands in a table in front of a NUL is the one
at its position, and no other is (`stringAt?_eq_some_iff`). So each string that a table was made
from is found at the position that it was given (`forall₂_positions`), also if a 32-bit field holds
the position (`forall₂_fields`).
-/

set_option autoImplicit false
set_option relaxedAutoImplicit false

namespace BootNote.Elf.StringTable

open Bytes

variable {table : ByteArray} {pos : Nat} {string : List UInt8} {strings : List (List UInt8)}

@[simp] theorem length_positionsFrom : (positionsFrom pos strings).length = strings.length := by
  induction strings generalizing pos with
  | nil => rfl
  | cons string rest ih => rw [positionsFrom, List.length_cons, List.length_cons, ih]

@[simp] theorem length_positions : (positions strings).length = strings.length :=
  length_positionsFrom

theorem nulFrom?_of_holdsAt (holds : HoldsAt table pos (string ++ [0])) (hnul : 0 ∉ string) :
    nulFrom? table pos = some (pos + string.length) := by
  induction string generalizing pos with
  | nil =>
    obtain ⟨hlt, hzero⟩ := holds.getElem_eq
    rw [nulFrom?, dif_pos hlt, if_pos hzero]
    rfl
  | cons c rest ih =>
    obtain ⟨hlt, hfirst⟩ := holds.getElem_eq
    obtain ⟨hc, hrest⟩ : c ≠ 0 ∧ 0 ∉ rest := by
      rwa [List.mem_cons, not_or, eq_comm] at hnul
    have hnext : HoldsAt table (pos + 1) (rest ++ [0]) :=
      (holdsAt_append_iff.mp (show HoldsAt table pos ([c] ++ (rest ++ [0])) from holds)).2
    rw [nulFrom?, dif_pos hlt, hfirst, if_neg hc, ih hnext hrest, List.length_cons, Nat.add_assoc,
      Nat.add_comm 1]

theorem stringAt?_of_holdsAt (holds : HoldsAt table pos (string ++ [0])) (hnul : 0 ∉ string) :
    stringAt? table pos = some string.toByteArray := by
  rw [stringAt?, nulFrom?_of_holdsAt holds hnul, Option.map_some]
  exact congrArg some (holdsAt_append_iff.mp holds).1.slice_eq

/-- A search for a NUL stops behind the bytes of a string. -/
theorem exists_of_nulFrom? {stop : Nat} (found : nulFrom? table pos = some stop) :
    ∃ string : List UInt8, stop = pos + string.length ∧ HoldsAt table pos (string ++ [0]) ∧
      0 ∉ string := by
  fun_induction nulFrom? table pos with
  | case1 pos hlt hzero =>
    obtain rfl := Option.some.inj found
    exact ⟨[], rfl, holdsAt_cons_iff.mpr ⟨⟨hlt, hzero⟩, List.nil_prefix⟩, List.not_mem_nil⟩
  | case2 pos hlt hne ih =>
    obtain ⟨string, rfl, holds, hnul⟩ := ih found
    refine ⟨table[pos] :: string, ?_, holdsAt_cons_iff.mpr ⟨⟨hlt, rfl⟩, holds⟩, ?_⟩
    · rw [List.length_cons, Nat.add_assoc, Nat.add_comm 1]
    · exact fun hmem ↦ (List.mem_cons.mp hmem).elim (fun hfirst ↦ hne hfirst.symm) hnul
  | case3 pos hlt => contradiction

/-- The string at a position is the one that stands there in front of a NUL and has none itself. -/
theorem stringAt?_eq_some_iff : stringAt? table pos = some string.toByteArray ↔
    HoldsAt table pos (string ++ [0]) ∧ 0 ∉ string := by
  constructor
  · intro hread
    obtain ⟨stop, found, hstring⟩ := Option.map_eq_some_iff.mp hread
    obtain ⟨string', rfl, holds, hnul⟩ := exists_of_nulFrom? found
    have hslice : slice table pos string'.length = string'.toByteArray :=
      (holdsAt_append_iff.mp holds).1.slice_eq
    have heq : string'.toByteArray = string.toByteArray := hslice.symm.trans hstring
    obtain rfl : string' = string := by
      rw [← toList_toByteArray string', heq, toList_toByteArray]
    exact ⟨holds, hnul⟩
  · rintro ⟨holds, hnul⟩
    exact stringAt?_of_holdsAt holds hnul

/-- Strings that lie one behind the other are found at their positions, which follow `pos` and lie
in the table. -/
theorem forall₂_positionsFrom (hnul : ∀ string ∈ strings, 0 ∉ string)
    (holds : HoldsAt table pos (strings.flatMap (· ++ [0]))) :
    List.Forall₂ (fun p string ↦
        stringAt? table p = some string.toByteArray ∧ pos ≤ p ∧ p < table.size)
      (positionsFrom pos strings) strings := by
  induction strings generalizing pos with
  | nil => exact .nil
  | cons string rest ih =>
    obtain ⟨hfirst, hrest⟩ := List.forall_mem_cons.mp hnul
    rw [List.flatMap_cons, holdsAt_append_iff, List.length_append, List.length_singleton,
      ← Nat.add_assoc] at holds
    refine .cons ⟨stringAt?_of_holdsAt holds.1 hfirst, Nat.le_refl _, ?_⟩ ?_
    · have hend := holds.1.add_length_le (by simp)
      rw [List.length_append, List.length_singleton] at hend
      omega
    · refine (ih hrest holds.2).imp fun p _ ⟨hread, hle, hlt⟩ ↦ ⟨hread, ?_, hlt⟩
      omega

theorem holdsAt_encode : HoldsAt (encode strings).toByteArray 1 (strings.flatMap (· ++ [0])) := by
  have hbytes : toList (encode strings).toByteArray =
      [0] ++ strings.flatMap (· ++ [0]) ++ [] := by
    rw [toList_toByteArray, List.append_nil]
    rfl
  exact holdsAt_of_toList_eq hbytes

/-- Each string that a table was made from is found at its position, and none stands at 0. -/
theorem forall₂_positions (hnul : ∀ string ∈ strings, 0 ∉ string) :
    List.Forall₂ (fun p string ↦ stringAt? (encode strings).toByteArray p =
        some string.toByteArray ∧ 0 < p ∧ p < (encode strings).length)
      (positions strings) strings := by
  have hforall := forall₂_positionsFrom hnul holdsAt_encode
  rwa [size_toByteArray] at hforall

/-- The name of each entry is found at the position that a 32-bit field of the entry holds, in a
table that is not too long for such a field. -/
theorem forall₂_fields {α : Type} (name : α → String) (entries : List α)
    (hstrings : strings = entries.map fun entry ↦ toList (name entry).toUTF8)
    (hnul : ∀ string ∈ strings, 0 ∉ string) (hlength : (encode strings).length < UInt32.size) :
    List.Forall₂ (fun pos entry ↦ UInt32.ofNat pos ≠ 0 ∧
        stringAt? (encode strings).toByteArray (UInt32.ofNat pos).toNat = some (name entry).toUTF8)
      (positions strings) entries := by
  have hforall := forall₂_positions hnul
  generalize positions strings = fields, (encode strings).toByteArray = table at hforall ⊢
  rw [hstrings, List.forall₂_map_right_iff, ← hstrings] at hforall
  refine hforall.imp fun pos entry ⟨hread, hpos, hlt⟩ ↦ ?_
  have hfield : (UInt32.ofNat pos).toNat = pos :=
    UInt32.toNat_ofNat_of_lt' (Nat.lt_trans hlt hlength)
  refine ⟨fun hzero ↦ ?_, by rw [hfield, hread, toByteArray_toList]⟩
  rw [hzero] at hfield
  exact absurd hfield (Nat.ne_of_lt hpos)

/-- A list that is made from positions and entries reads like the entries if each pair does. -/
theorem map_zipWith_of_forall₂ {α β γ δ : Type} {related : α → β → Prop} {make : α → β → γ}
    {read : γ → δ} {expected : β → δ} {as : List α} {bs : List β}
    (hforall : List.Forall₂ related as bs)
    (hread : ∀ a b, related a b → read (make a b) = expected b) :
    (as.zipWith make bs).map read = bs.map expected := by
  induction hforall with
  | nil => rfl
  | cons hab _ ih => rw [List.zipWith_cons_cons, List.map_cons, List.map_cons, hread _ _ hab, ih]

/-- The empty string stands at 0. -/
theorem stringAt?_zero : stringAt? (encode strings).toByteArray 0 = some ByteArray.empty := by
  have hbytes : toList (encode strings).toByteArray =
      [] ++ ([] ++ [0]) ++ strings.flatMap (· ++ [0]) := toList_toByteArray _
  exact stringAt?_of_holdsAt (holdsAt_of_toList_eq hbytes) List.not_mem_nil

end BootNote.Elf.StringTable
