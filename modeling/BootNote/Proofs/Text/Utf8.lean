import BootNote.Text.System
import Mathlib.Tactic.Common

/-!
What is read of UTF-8. Characters that were written read as themselves (`decodeLossy_encode`): the
first byte of a character begins it with the bits and the number of bytes that it has, and every
further byte adds six bits. An ASCII character is only ever read from the byte that is its number
(`mem_of_mem_decodeLossy`), because a character that was begun has at least eight bits. Hence a
string that the system is given is shown as it was (`SystemText.shown_ofString`), and an ASCII
character is in a text of the system where its byte is.
-/

set_option autoImplicit false
set_option relaxedAutoImplicit false

namespace BootNote.Text.Utf8

/-! ### Characters that were written -/

theorem first_ascii : ∀ n < 128, first (.ofNat n) = ([Char.ofNat n], none) := by decide

theorem first_two : ∀ n < 32, 2 ≤ n →
    first (.ofNat (n + 0xc0)) = ([], some ⟨n, 1, 0x80, 0xbf⟩) := by decide

theorem first_three : ∀ n < 16, first (.ofNat (n + 0xe0)) =
    ([], some ⟨n, 2, if n = 0 then 0xa0 else 0x80, if n = 13 then 0x9f else 0xbf⟩) := by decide

theorem first_four : ∀ n < 5, first (.ofNat (n + 0xf0)) =
    ([], some ⟨n, 3, if n = 0 then 0x90 else 0x80, if n = 4 then 0x8f else 0xbf⟩) := by decide

theorem decodeFrom_begun {b : UInt8} {p : Begun} (h : first b = ([], some p)) (rest : List UInt8) :
    decodeFrom none (b :: rest) = decodeFrom (some p) rest := by
  rw [decodeFrom, step, h]
  rfl

section Step

variable {p : Begun} {n : Nat} (hn : n < 64) (hlow : p.low.toNat ≤ n + 0x80)
  (hhigh : n + 0x80 ≤ p.high.toNat)

include hn hlow hhigh

/-- A byte that goes on with a character adds its low six bits. -/
theorem step_ofNat : step (some p) (.ofNat (n + 0x80)) =
    if p.due = 1 then ([Char.ofNat (p.value * 64 + n)], none)
    else ([], some ⟨p.value * 64 + n, p.due - 1, 0x80, 0xbf⟩) := by
  have hbyte : (UInt8.ofNat (n + 0x80)).toNat = n + 0x80 :=
    UInt8.toNat_ofNat_of_lt' (by simp only [UInt8.size]; omega)
  have hgoes : p.low ≤ .ofNat (n + 0x80) ∧ .ofNat (n + 0x80) ≤ p.high := by
    rw [UInt8.le_iff_toNat_le, UInt8.le_iff_toNat_le, hbyte]
    exact ⟨hlow, hhigh⟩
  simp only [step, if_pos hgoes, hbyte, Nat.add_sub_cancel]

theorem decodeFrom_last (hdue : p.due = 1) (rest : List UInt8) :
    decodeFrom (some p) (.ofNat (n + 0x80) :: rest) =
      Char.ofNat (p.value * 64 + n) :: decodeFrom none rest := by
  rw [decodeFrom, step_ofNat hn hlow hhigh, if_pos hdue]
  rfl

theorem decodeFrom_more (hdue : p.due ≠ 1) (rest : List UInt8) :
    decodeFrom (some p) (.ofNat (n + 0x80) :: rest) =
      decodeFrom (some ⟨p.value * 64 + n, p.due - 1, 0x80, 0xbf⟩) rest := by
  rw [decodeFrom, step_ofNat hn hlow hhigh, if_neg hdue]
  rfl

end Step

/-- The bytes of a character read as the character, whatever follows them. -/
theorem decodeFrom_encodeChar (c : Char) (rest : List UInt8) :
    decodeFrom none (String.utf8EncodeChar c ++ rest) = c :: decodeFrom none rest := by
  have hvalid : c.toNat < 0xd800 ∨ 0xdfff < c.toNat ∧ c.toNat < 0x110000 := c.valid
  have hc : Char.ofNat c.toNat = c := c.ofNat_toNat
  unfold String.utf8EncodeChar
  simp only [show c.val.toNat = c.toNat from rfl]
  generalize c.toNat = v at *
  split_ifs with h1 h2 h3 <;> simp only [List.cons_append, List.nil_append]
  · rw [decodeFrom, step, first_ascii v (by omega), hc]
    rfl
  · have hv : v / 64 % 32 * 64 + v % 64 = v := by omega
    rw [decodeFrom_begun (first_two _ (by omega) (by omega)),
      decodeFrom_last (by omega) (by simp) (by simp; omega) rfl, hv, hc]
  -- The narrower bounds behind the least and behind one other first byte hold, because the
  -- character has no shorter form and is a valid one.
  · have hv : (v / 4096 % 16 * 64 + v / 64 % 64) * 64 + v % 64 = v := by omega
    rw [decodeFrom_begun (first_three _ (by omega)),
      decodeFrom_more (by omega) (by dsimp only; split_ifs <;> simp; omega)
        (by dsimp only; split_ifs <;> simp <;> omega) (by simp),
      decodeFrom_last (by omega) (by simp) (by simp; omega) rfl, hv, hc]
  · have hv : ((v / 262144 % 8 * 64 + v / 4096 % 64) * 64 + v / 64 % 64) * 64 + v % 64 = v := by
      omega
    rw [decodeFrom_begun (first_four _ (by omega)),
      decodeFrom_more (by omega) (by dsimp only; split_ifs <;> simp; omega)
        (by dsimp only; split_ifs <;> simp <;> omega) (by simp),
      decodeFrom_more (by omega) (by simp) (by simp; omega) (by simp),
      decodeFrom_last (by omega) (by simp) (by simp; omega) rfl, hv, hc]

/-- Characters that were written read as themselves. -/
theorem decodeLossy_encode (text : List Char) :
    decodeLossy (text.flatMap String.utf8EncodeChar) = text := by
  induction text with
  | nil => rfl
  | cons c text ih =>
    rw [List.flatMap_cons, decodeLossy, decodeFrom_encodeChar]
    exact congrArg (List.cons c) ih

/-! ### ASCII characters -/

/-- A number that is no character's stands for the character with number zero. -/
theorem toNat_ofNat_or (n : Nat) : (Char.ofNat n).toNat = n ∨ (Char.ofNat n).toNat = 0 := by
  by_cases h : n.isValidChar
  · left
    rw [Char.ofNat, dif_pos h]
    exact UInt32.toNat_ofNatLT
  · right
    rw [Char.ofNat, dif_neg h]
    rfl

/-- The character that was begun has at least eight bits, however it goes on. -/
def Begun.Wide (p : Begun) : Prop :=
  2 ≤ if p.due = 1 then p.value else p.value * 64 + (p.low.toNat - 0x80)

/-- What a byte gives is no ASCII character but its own, and a wide one if it begins or goes on with
one. -/
structure Plain (b : UInt8) (given : List Char × Option Begun) : Prop where
  own : ∀ c ∈ given.1, 0 < c.toNat → c.toNat < 0x80 → c.toNat = b.toNat
  wide : ∀ p ∈ given.2, p.Wide

theorem plain_begun {b : UInt8} {p : Begun} (wide : p.Wide) : Plain b ([], some p) :=
  ⟨nofun, by simpa using wide⟩

theorem plain_singleton {b : UInt8} {c : Char}
    (own : 0 < c.toNat → c.toNat < 0x80 → c.toNat = b.toNat) : Plain b ([c], none) :=
  ⟨by simpa using own, nofun⟩

theorem plain_replacement (b : UInt8) : Plain b ([replacement], none) :=
  plain_singleton fun _ h ↦ absurd h (by decide)

theorem Plain.replaced {b : UInt8} {given : List Char × Option Begun} (plain : Plain b given) :
    Plain b (replacement :: given.1, given.2) :=
  ⟨List.forall_mem_cons.mpr ⟨fun _ h ↦ absurd h (by decide), plain.own⟩, plain.wide⟩

theorem plain_first (b : UInt8) : Plain b (first b) := by
  unfold first
  simp only [UInt8.lt_iff_toNat_lt, ← UInt8.toNat_inj, UInt8.reduceToNat]
  split_ifs with ascii early two least surrogates three greatest four last
  · refine plain_singleton fun hpos _ ↦ (toNat_ofNat_or b.toNat).resolve_right (by omega)
  · exact plain_replacement b
  · exact plain_begun (show 2 ≤ b.toNat - 0xc0 by omega)
  · exact plain_begun (show 2 ≤ 0 * 64 + (0xa0 - 0x80) by decide)
  · exact plain_begun (show 2 ≤ 13 * 64 + (0x80 - 0x80) by decide)
  · exact plain_begun (show 2 ≤ (b.toNat - 0xe0) * 64 + (0x80 - 0x80) by omega)
  · exact plain_begun (show 2 ≤ 0 * 64 + (0x90 - 0x80) by decide)
  · exact plain_begun (show 2 ≤ (b.toNat - 0xf0) * 64 + (0x80 - 0x80) by omega)
  · exact plain_begun (show 2 ≤ 4 * 64 + (0x80 - 0x80) by decide)
  · exact plain_replacement b

theorem plain_step {state : Option Begun} (wide : ∀ p ∈ state, p.Wide) (b : UInt8) :
    Plain b (step state b) := by
  cases state with
  | none => exact plain_first b
  | some p =>
    have hwide : p.Wide := wide p rfl
    unfold Begun.Wide at hwide
    simp only [step, UInt8.le_iff_toNat_le]
    split_ifs at hwide ⊢ with goes hdue
    · refine plain_singleton fun hpos hlt ↦ ?_
      have := toNat_ofNat_or (p.value * 64 + (b.toNat - 0x80))
      omega
    · refine plain_begun ?_
      simp only [Begun.Wide, UInt8.reduceToNat]
      split_ifs <;> omega
    · exact (plain_first b).replaced
    · exact (plain_first b).replaced

theorem exists_of_mem_decodeFrom {state : Option Begun} {bs : List UInt8} {c : Char}
    (hpos : 0 < c.toNat) (hlt : c.toNat < 0x80) (wide : ∀ p ∈ state, p.Wide)
    (hc : c ∈ decodeFrom state bs) : ∃ b ∈ bs, c.toNat = b.toNat := by
  induction bs generalizing state with
  | nil =>
    cases state with
    | none => cases hc
    | some p =>
      obtain rfl : c = replacement := List.mem_singleton.mp hc
      exact absurd hlt (by decide)
  | cons b bs ih =>
    have plain := plain_step wide b
    have hsplit : c ∈ (step state b).1 ++ decodeFrom (step state b).2 bs := by
      cases state <;> exact hc
    rcases List.mem_append.mp hsplit with hgiven | hrest
    · exact ⟨b, List.mem_cons_self, plain.own c hgiven hpos hlt⟩
    · obtain ⟨other, hother, heq⟩ := ih plain.wide hrest
      exact ⟨other, List.mem_cons_of_mem b hother, heq⟩

/-- An ASCII character is only read where its byte stands. -/
theorem mem_of_mem_decodeLossy {bs : List UInt8} {c : Char} (hpos : 0 < c.toNat)
    (hlt : c.toNat < 0x80) (hc : c ∈ decodeLossy bs) : UInt8.ofNat c.toNat ∈ bs := by
  obtain ⟨b, hb, heq⟩ := exists_of_mem_decodeFrom hpos hlt (by simp) hc
  rwa [heq, UInt8.ofNat_toNat]

/-- The byte of an ASCII character is only written for that character. -/
theorem toNat_of_mem_encodeChar {c : Char} {b : UInt8} (hb : b ∈ String.utf8EncodeChar c)
    (hlt : b.toNat < 0x80) : c.toNat = b.toNat := by
  unfold String.utf8EncodeChar at hb
  simp only [show c.val.toNat = c.toNat from rfl] at hb
  split_ifs at hb
  · obtain rfl := List.mem_singleton.mp hb
    exact (UInt8.toNat_ofNat_of_lt' (by simp only [UInt8.size]; omega)).symm
  all_goals
    simp only [List.mem_cons, List.not_mem_nil, or_false] at hb
    rcases hb with rfl | rfl | rfl | rfl <;> simp at hlt <;> omega

end BootNote.Text.Utf8

namespace BootNote.SystemText

open Text

theorem bytes_ofString (s : String) :
    (ofString s).bytes = s.toList.flatMap String.utf8EncodeChar := by
  show Bytes.toList s.toUTF8 = _
  conv_lhs => rw [← String.ofList_toList (s := s)]
  rw [String.toUTF8_eq_toByteArray]
  exact Bytes.toList_toByteArray _

/-- A string is shown as it is. -/
@[simp] theorem shown_ofString (s : String) : (ofString s).shown = s := by
  rw [shown, bytes_ofString, Utf8.decodeLossy_encode, String.ofList_toList]

variable {c : Char} (hlt : c.toNat < 0x80)

include hlt

/-- The byte of an ASCII character is only in a string that has the character. -/
theorem mem_of_mem_ofString {s : String} (hc : UInt8.ofNat c.toNat ∈ (ofString s).bytes) :
    c ∈ s.toList := by
  have hbyte : (UInt8.ofNat c.toNat).toNat = c.toNat :=
    UInt8.toNat_ofNat_of_lt' (Nat.lt_trans hlt (by decide))
  rw [bytes_ofString] at hc
  obtain ⟨other, hother, hmem⟩ := List.mem_flatMap.mp hc
  have heq := Utf8.toNat_of_mem_encodeChar hmem (by rwa [hbyte])
  rw [hbyte] at heq
  rwa [← Char.toNat_inj.mp heq]

/-- An ASCII character is only shown where its byte is. -/
theorem mem_of_mem_shown {text : SystemText} (hpos : 0 < c.toNat)
    (hc : c ∈ text.shown.toList) : UInt8.ofNat c.toNat ∈ text.bytes := by
  rw [shown, String.toList_ofList] at hc
  exact Utf8.mem_of_mem_decodeLossy hpos hlt hc

end BootNote.SystemText
