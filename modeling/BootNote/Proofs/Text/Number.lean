import BootNote.Text.Number
import Mathlib.Data.List.Forall2
import Mathlib.Data.Nat.Digits.Defs

/-!
What a text has to look like to be a number. A numeral is one or more digits of a base, of either
case, and its value is that of its digits (`IsNumeral`); zeros in front change nothing
(`IsNumeral.zeros_append`). Reading accepts exactly the numerals below the limit, with a plus sign
in front of them or not (`read?_eq_ok_iff`): the digits before a place never make a larger number
than all of them, so the limit is passed on the way only if it is passed in the end. What is printed
in lower or in upper case is a numeral (`isNumeral_toDigits`, `isNumeral_toDigits_toUpper`).
-/

set_option autoImplicit false
set_option relaxedAutoImplicit false

namespace BootNote.Text.Number

/-- A character writes a digit of a base, in lower or in upper case. -/
structure IsDigit (base : Nat) (c : Char) (d : Nat) : Prop where
  lt_base : d < base
  eq_char : c = d.digitChar ∨ c = d.digitChar.toUpper

/-- A text is one or more digits of a base, and `n` is their value. -/
structure IsNumeral (base : Nat) (text : List Char) (n : Nat) : Prop where
  ne_nil : text ≠ []
  exists_digits : ∃ ds, List.Forall₂ (IsDigit base) text ds ∧ n = Nat.ofDigits base ds.reverse

/-- A text is a numeral, with or without a plus sign in front. -/
def IsSigned (base : Nat) (text : List Char) (n : Nat) : Prop :=
  ∃ digits, (text = digits ∨ text = '+' :: digits) ∧ IsNumeral base digits n

variable {base limit n d : Nat} {c : Char} {text : List Char}

/-! ### Digits -/

theorem toNat_digitChar (hd : d < 16) : d.digitChar.toNat = if d < 10 then 48 + d else 87 + d := by
  revert d
  decide

theorem toNat_toUpper_digitChar (hd : d < 16) :
    d.digitChar.toUpper.toNat = if d < 10 then 48 + d else 55 + d := by
  revert d
  decide

/-- In a base of at most sixteen, the digits that are read are those that can be written. -/
theorem digit?_eq_some_iff (hbase : base ≤ 16) : digit? base c = some d ↔ IsDigit base c d := by
  have hrange (low high : Char) :
      low ≤ c ∧ c ≤ high ↔ low.toNat ≤ c.toNat ∧ c.toNat ≤ high.toNat := Iff.rfl
  rw [digit?, Option.filter_eq_some_iff, decide_eq_true_eq, and_comm]
  suffices h : d < 16 → ((if '0' ≤ c ∧ c ≤ '9' then some (c.toNat - '0'.toNat)
      else if 'a' ≤ c ∧ c ≤ 'f' then some (c.toNat - 'a'.toNat + 10)
      else if 'A' ≤ c ∧ c ≤ 'F' then some (c.toNat - 'A'.toNat + 10) else none) = some d ↔
        c = d.digitChar ∨ c = d.digitChar.toUpper) by
    exact ⟨fun ⟨hlt, hvalue⟩ ↦ ⟨hlt, (h (hlt.trans_le hbase)).mp hvalue⟩,
      fun digit ↦ ⟨digit.lt_base, (h (digit.lt_base.trans_le hbase)).mpr digit.eq_char⟩⟩
  intro hd
  rw [← Char.toNat_inj, ← Char.toNat_inj, toNat_digitChar hd, toNat_toUpper_digitChar hd]
  simp only [hrange, Char.reduceToNat]
  split_ifs <;> simp only [Option.some.injEq, false_iff] <;> omega

/-- A character writes one digit only. -/
theorem IsDigit.unique (hbase : base ≤ 16) {d' : Nat} (h : IsDigit base c d)
    (h' : IsDigit base c d') : d = d' :=
  Option.some.inj
    (((digit?_eq_some_iff hbase).mpr h).symm.trans ((digit?_eq_some_iff hbase).mpr h'))

/-! ### Reading -/

/-- Reading goes on from the number that the digits in front make. -/
theorem readDigits_eq_ok_iff (hbase : base ≤ 16) {acc : Nat} (hacc : acc < limit) :
    readDigits base limit acc text = .ok n ↔ ∃ ds, List.Forall₂ (IsDigit base) text ds ∧
      n = Nat.ofDigits base ds.reverse + base ^ ds.length * acc ∧ n < limit := by
  induction text generalizing acc with
  | nil =>
    simp only [readDigits, Except.ok.injEq, List.forall₂_nil_left_iff, exists_eq_left,
      List.reverse_nil, Nat.ofDigits_nil, List.length_nil, pow_zero, one_mul, zero_add]
    constructor
    · rintro rfl
      exact ⟨rfl, hacc⟩
    · exact fun h ↦ h.1.symm
  | cons c rest ih =>
    simp only [List.forall₂_cons_left_iff]
    cases hdigit : digit? base c with
    | none =>
      simp only [readDigits, hdigit, reduceCtorEq, false_iff]
      rintro ⟨_, ⟨d, ds, digit, -, rfl⟩, -⟩
      rw [(digit?_eq_some_iff hbase).mpr digit] at hdigit
      contradiction
    | some d =>
      have digit := (digit?_eq_some_iff hbase).mp hdigit
      have hnext (ds : List Nat) : Nat.ofDigits base (d :: ds).reverse +
          base ^ (d :: ds).length * acc =
            Nat.ofDigits base ds.reverse + base ^ ds.length * (acc * base + d) := by
        rw [Nat.ofDigits_reverse_cons, List.length_cons]
        ring
      simp only [readDigits, hdigit]
      split_ifs with hlimit
      · rw [ih hlimit]
        constructor
        · rintro ⟨ds, hds, hn, hlt⟩
          exact ⟨d :: ds, ⟨d, ds, digit, hds, rfl⟩, hn.trans (hnext ds).symm, hlt⟩
        · rintro ⟨_, ⟨d', ds, digit', hds, rfl⟩, hn, hlt⟩
          obtain rfl : d' = d := digit'.unique hbase digit
          exact ⟨ds, hds, hn.trans (hnext ds), hlt⟩
      -- A number that the first digits make already is not made smaller by the others.
      · simp only [false_iff]
        rintro ⟨_, ⟨d', ds, digit', -, rfl⟩, hn, hlt⟩
        obtain rfl : d' = d := digit'.unique hbase digit
        have hpow : 0 < base ^ ds.length :=
          Nat.pow_pos (Nat.zero_lt_of_lt digit.lt_base)
        have hle := Nat.le_mul_of_pos_left (acc * base + d') hpow
        rw [hnext] at hn
        omega

theorem isNumeral_iff_readDigits (hbase : base ≤ 16) (hlimit : 0 < limit) (hne : text ≠ []) :
    readDigits base limit 0 text = .ok n ↔ IsNumeral base text n ∧ n < limit := by
  simp only [readDigits_eq_ok_iff hbase hlimit, Nat.mul_zero, Nat.add_zero]
  exact ⟨fun ⟨ds, hds, hn, hlt⟩ ↦ ⟨⟨hne, ds, hds, hn⟩, hlt⟩,
    fun ⟨⟨_, ds, hds, hn⟩, hlt⟩ ↦ ⟨ds, hds, hn, hlt⟩⟩

theorem IsNumeral.exists_isDigit (numeral : IsNumeral base text n) (hc : c ∈ text) :
    ∃ d, IsDigit base c d := by
  obtain ⟨ds, hds, -⟩ := numeral.exists_digits
  obtain ⟨i, hi, rfl⟩ := List.getElem_of_mem hc
  exact ⟨_, hds.get hi (hds.length_eq ▸ hi)⟩

theorem IsNumeral.digit?_ne_none (hbase : base ≤ 16) (numeral : IsNumeral base text n)
    (hc : c ∈ text) : digit? base c ≠ none := by
  obtain ⟨d, digit⟩ := numeral.exists_isDigit hc
  rw [(digit?_eq_some_iff hbase).mpr digit]
  exact Option.some_ne_none d

theorem not_isNumeral_plus (hbase : base ≤ 16) : ¬ IsNumeral base ('+' :: text) n :=
  fun numeral ↦ numeral.digit?_ne_none hbase List.mem_cons_self rfl

/-- A text is read exactly if it is a numeral of a number below the limit, with or without a plus
sign in front. -/
theorem read?_eq_ok_iff (hbase : base ≤ 16) (hlimit : 0 < limit) :
    read? base limit text = .ok n ↔ IsSigned base text n ∧ n < limit := by
  have hplain : IsSigned base text n ∧ n < limit ↔ IsNumeral base text n ∧ n < limit ∨
      ∃ digits, text = '+' :: digits ∧ IsNumeral base digits n ∧ n < limit := by
    simp only [IsSigned, or_and_right, exists_or, exists_eq_left', ← exists_and_right, and_assoc]
  rw [hplain]
  fun_cases read? base limit text with
  | case1 =>
    simp only [reduceCtorEq, false_iff]
    rintro (⟨numeral, -⟩ | ⟨_, hnil, -⟩)
    · exact numeral.ne_nil rfl
    · contradiction
  | case2 =>
    simp only [reduceCtorEq, false_iff]
    rintro (⟨numeral, -⟩ | ⟨digits, hplus, numeral, -⟩)
    · exact not_isNumeral_plus hbase numeral
    · exact numeral.ne_nil (List.tail_eq_of_cons_eq hplus).symm
  | case3 cs hne =>
    rw [isNumeral_iff_readDigits hbase hlimit (by simpa using hne)]
    constructor
    · exact fun h ↦ Or.inr ⟨cs, rfl, h⟩
    · rintro (⟨numeral, -⟩ | ⟨digits, hplus, h⟩)
      · exact absurd numeral (not_isNumeral_plus hbase)
      · rwa [List.tail_eq_of_cons_eq hplus]
  | case4 _ hne hplus hsigned =>
    rw [isNumeral_iff_readDigits hbase hlimit (by simpa using hne)]
    refine ⟨Or.inl, ?_⟩
    rintro (h | ⟨digits, rfl, -⟩)
    · exact h
    · exact absurd rfl (hsigned digits)

theorem readHex?_eq_ok_iff {v : UInt64} :
    readHex? text = .ok v ↔ IsSigned 16 text v.toNat := by
  have hbase : 16 ≤ 16 := Nat.le_refl 16
  have hlimit : 0 < UInt64.size := by decide
  have hread : readHex? text = .ok v ↔ read? 16 UInt64.size text = .ok v.toNat := by
    rw [readHex?]
    cases hvalue : read? 16 UInt64.size text with
    | error fault => simp [Functor.map, Except.map]
    | ok n =>
      have hlt := ((read?_eq_ok_iff hbase hlimit).mp hvalue).2
      simp only [Functor.map, Except.map, Except.ok.injEq]
      rw [← UInt64.toNat_inj, UInt64.toNat_ofNat_of_lt' hlt]
  rw [hread, read?_eq_ok_iff hbase hlimit, and_iff_left v.toNat_lt]

/-! ### Printing -/

theorem IsNumeral.zeros_append (zeros : Nat) (numeral : IsNumeral base text n) :
    IsNumeral base (List.replicate zeros '0' ++ text) n := by
  induction zeros with
  | zero => exact numeral
  | succ zeros ih =>
    obtain ⟨hne, ds, hds, hn⟩ := ih
    obtain ⟨c, hc⟩ := List.exists_mem_of_ne_nil text numeral.ne_nil
    obtain ⟨d, digit⟩ := numeral.exists_isDigit hc
    have hbase : 0 < base := Nat.zero_lt_of_lt digit.lt_base
    exact ⟨List.cons_ne_nil _ _, 0 :: ds, .cons ⟨hbase, Or.inl rfl⟩ hds,
      hn.trans (Nat.ofDigits_reverse_zero_cons ds).symm⟩

/-- The characters that a number is printed with write digits that make the number. -/
theorem exists_toDigits (hbase : 1 < base) (n : Nat) : ∃ ds : List Nat,
    Nat.toDigits base n = ds.map Nat.digitChar ∧ (∀ d ∈ ds, d < base) ∧
      n = Nat.ofDigits base ds.reverse := by
  induction n using Nat.strongRecOn with
  | ind n ih =>
    -- The last digit is the remainder, and the digits in front of it print the quotient.
    by_cases hlt : n < base
    · exact ⟨[n], Nat.toDigits_of_lt_base hlt, by simpa using hlt, by simp⟩
    · have hle := Nat.not_lt.mp hlt
      obtain ⟨ds, hchars, hds, hn⟩ :=
        ih (n / base) (Nat.div_lt_self (by omega) hbase)
      refine ⟨ds ++ [n % base], ?_, ?_, ?_⟩
      · rw [Nat.toDigits_of_base_le hbase hle, hchars, List.map_append]
        rfl
      · simpa [or_imp, forall_and] using ⟨hds, Nat.mod_lt n (by omega)⟩
      · rw [List.reverse_append, List.reverse_singleton, List.singleton_append, Nat.ofDigits_cons,
          ← hn]
        exact (Nat.mod_add_div n base).symm

/-- A number that is printed is a numeral, whichever case its digits are written in. -/
theorem isNumeral_map_toDigits (hbase : 1 < base) {recase : Char → Char}
    (hrecase : ∀ d < base, IsDigit base (recase d.digitChar) d) (n : Nat) :
    IsNumeral base ((Nat.toDigits base n).map recase) n := by
  obtain ⟨ds, hchars, hds, hn⟩ := exists_toDigits hbase n
  refine ⟨by simp [Nat.toDigits_ne_nil], ds, ?_, hn⟩
  rw [hchars, List.map_map, List.forall₂_map_left_iff, List.forall₂_same]
  exact fun d hd ↦ hrecase d (hds d hd)

theorem isNumeral_toDigits (hbase : 1 < base) (n : Nat) :
    IsNumeral base (Nat.toDigits base n) n := by
  have numeral : IsNumeral base ((Nat.toDigits base n).map id) n :=
    isNumeral_map_toDigits hbase (fun _ hd ↦ ⟨hd, Or.inl rfl⟩) n
  rwa [List.map_id] at numeral

theorem isNumeral_toDigits_toUpper (hbase : 1 < base) (n : Nat) :
    IsNumeral base ((Nat.toDigits base n).map Char.toUpper) n :=
  isNumeral_map_toDigits hbase (fun _ hd ↦ ⟨hd, Or.inr rfl⟩) n

end BootNote.Text.Number
