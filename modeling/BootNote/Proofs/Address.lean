import BootNote.Address
import BootNote.Proofs.Text.Number

/-!
The language of addresses. An address is a hexadecimal numeral behind at most one marker and then at
most one plus sign (`Denotes`). `read_exact` says that reading accepts exactly the addresses below
two to the power of 64, with their values, and refuses every other text with the text in the error;
and that a number that is printed in either case, behind any marker and with zeros in front, reads
back.
-/

set_option autoImplicit false
set_option relaxedAutoImplicit false

namespace BootNote.Address

open Text Number

/-- What may stand in front of an address. -/
def markers : List (List Char) := [[], ['0', 'x'], ['0', 'X']]

/-- What may stand between the marker of an address and its digits. -/
def signs : List (List Char) := [[], ['+']]

/-- A text is an address of value `n`. -/
def Denotes (text : List Char) (n : Nat) : Prop :=
  ∃ marker ∈ markers, ∃ sign ∈ signs, ∃ digits,
    text = marker ++ sign ++ digits ∧ IsNumeral 16 digits n

variable {text marker sign digits : List Char} {n : Nat}

theorem mem_markers_iff : marker ∈ markers ↔
    marker = [] ∨ marker = ['0', 'x'] ∨ marker = ['0', 'X'] := by
  simp [markers]

theorem mem_signs_iff : sign ∈ signs ↔ sign = [] ∨ sign = ['+'] := by
  simp [signs]

theorem exists_marker (text : List Char) :
    ∃ marker ∈ markers, text = marker ++ dropMarker text := by
  fun_cases dropMarker text with
  | case1 cs => exact ⟨['0', 'x'], by simp [markers], rfl⟩
  | case2 cs => exact ⟨['0', 'X'], by simp [markers], rfl⟩
  | case3 => exact ⟨[], by simp [markers], rfl⟩

theorem dropMarker_append (hmarker : marker ∈ markers)
    (hplain : dropMarker text = text) : dropMarker (marker ++ text) = text := by
  rcases mem_markers_iff.mp hmarker with rfl | rfl | rfl
  · exact hplain
  · rfl
  · rfl

/-- The digits of an address are never taken for a marker, since a marker has a letter that is no
digit. -/
theorem dropMarker_append_numeral (hsign : sign ∈ signs)
    (numeral : IsNumeral 16 digits n) : dropMarker (sign ++ digits) = sign ++ digits := by
  rcases mem_signs_iff.mp hsign with rfl | rfl
  · rw [List.nil_append]
    fun_cases dropMarker digits with
    | case1 cs => exact absurd rfl (numeral.digit?_ne_none (c := 'x') (Nat.le_refl 16) (by simp))
    | case2 cs => exact absurd rfl (numeral.digit?_ne_none (c := 'X') (Nat.le_refl 16) (by simp))
    | case3 => rfl
  · rfl

theorem denotes_iff : Denotes text n ↔ IsSigned 16 (dropMarker text) n := by
  constructor
  · rintro ⟨marker, hmarker, sign, hsign, digits, rfl, numeral⟩
    refine ⟨digits, ?_, numeral⟩
    rw [List.append_assoc,
      dropMarker_append hmarker (dropMarker_append_numeral hsign numeral)]
    exact (mem_signs_iff.mp hsign).imp (fun h ↦ by rw [h]; rfl) (fun h ↦ by rw [h]; rfl)
  · rintro ⟨digits, hrest, numeral⟩
    obtain ⟨marker, hmarker, htext⟩ := exists_marker text
    rcases hrest with hrest | hrest <;> rw [hrest] at htext
    · exact ⟨marker, hmarker, [], by simp [signs], digits, by simpa using htext, numeral⟩
    · exact ⟨marker, hmarker, ['+'], by simp [signs], digits, by simpa using htext, numeral⟩

theorem read_eq_ok_iff {text : String} {v : UInt64} :
    read text = .ok v ↔ Denotes text.toList v.toNat := by
  rw [denotes_iff, ← readHex?_eq_ok_iff, read]
  cases readHex? (dropMarker text.toList) <;> simp [Except.mapError]

/-- A text that is not read is refused with a fault in it. -/
theorem exists_fault {text : String} (h : ∀ v, read text ≠ .ok v) :
    ∃ fault, read text = .error (.format (.badAddress text fault)) := by
  cases hread : readHex? (dropMarker text.toList) with
  | ok v => exact absurd (by rw [read, hread]; rfl) (h v)
  | error fault => exact ⟨fault, by rw [read, hread]; rfl⟩

/-- Zeros and digits of a number behind a marker are an address of the number. -/
theorem denotes_printed (hmarker : marker ∈ markers) (zeros : Nat)
    (numeral : IsNumeral 16 digits n) :
    Denotes (marker ++ List.replicate zeros '0' ++ digits) n :=
  ⟨marker, hmarker, [], by simp [signs], List.replicate zeros '0' ++ digits, by simp,
    numeral.zeros_append zeros⟩

/-- A text is read exactly if it is an address below two to the power of 64, and any other text is
refused. So every 64-bit number reads back from its hexadecimal digits of either case, behind any
marker and with any number of zeros in front. -/
theorem read_exact :
    (∀ (text : String) (v : UInt64), read text = .ok v ↔ Denotes text.toList v.toNat) ∧
      (∀ text : String, (∀ v : UInt64, ¬ Denotes text.toList v.toNat) →
        ∃ fault, read text = .error (.format (.badAddress text fault))) ∧
      ∀ v : UInt64, ∀ marker ∈ markers, ∀ zeros : Nat,
        read (String.ofList (marker ++ List.replicate zeros '0' ++ Nat.toDigits 16 v.toNat)) =
          .ok v ∧
        read (String.ofList (marker ++ List.replicate zeros '0' ++
          (Nat.toDigits 16 v.toNat).map Char.toUpper)) = .ok v := by
  refine ⟨fun _ _ ↦ read_eq_ok_iff, fun text hnot ↦ ?_, fun v marker hmarker zeros ↦ ⟨?_, ?_⟩⟩
  · exact exists_fault fun v hread ↦ hnot v (read_eq_ok_iff.mp hread)
  · rw [read_eq_ok_iff, String.toList_ofList]
    exact denotes_printed hmarker zeros (isNumeral_toDigits (by decide) v.toNat)
  · rw [read_eq_ok_iff, String.toList_ofList]
    exact denotes_printed hmarker zeros (isNumeral_toDigits_toUpper (by decide) v.toNat)

/-- A marker and then a plus sign are taken, a second marker is not, and the greatest number is read
from upper-case digits behind zeros. -/
theorem read_sampleTexts : Denotes "0X+00fF".toList 255 ∧
    (∃ fault, read "0x0x1" = .error (.format (.badAddress "0x0x1" fault))) ∧
    read "0X00FFFFFFFFFFFFFFFF" = .ok 0xffffffffffffffff := by
  obtain ⟨hiff, hrefused, hprinted⟩ := read_exact
  refine ⟨(hiff "0X+00fF" 255).mp (by decide), hrefused "0x0x1" fun v denotes ↦ ?_, ?_⟩
  · have hread := (hiff "0x0x1" v).mpr denotes
    have hfault : read "0x0x1" = .error (.format (.badAddress "0x0x1" .invalidDigit)) := by decide
    rw [hfault] at hread
    contradiction
  · exact (hprinted 0xffffffffffffffff ['0', 'X'] (by decide) 2).2

end BootNote.Address
