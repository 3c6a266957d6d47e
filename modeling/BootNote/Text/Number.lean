/-!
Numbers in text. `read?` takes an optional plus sign and one or more digits of a base, from left to
right, and refuses a value that reaches the limit; `hex` writes a number the way addresses are
shown, in lower case behind `0x`.
-/

set_option autoImplicit false
set_option relaxedAutoImplicit false

namespace BootNote.Text

/-- Why a text is not a number. -/
inductive NumberFault where
  /-- There is no digit to read because there is nothing at all. -/
  | empty
  /-- A character, or a sign that stands alone, is no digit of the base. -/
  | invalidDigit
  /-- The digits so far already make a number at or above the limit. -/
  | tooLarge
  deriving DecidableEq, Repr

namespace NumberFault

/-- The wording of a fault. -/
def message : NumberFault → String
  | empty => "cannot parse integer from empty string"
  | invalidDigit => "invalid digit found in string"
  | tooLarge => "number too large to fit in target type"

end NumberFault

namespace Number

/-- The value of a character as a digit, letters of either case standing for ten and up. -/
def digit? (base : Nat) (c : Char) : Option Nat :=
  let value :=
    if '0' ≤ c ∧ c ≤ '9' then some (c.toNat - '0'.toNat)
    else if 'a' ≤ c ∧ c ≤ 'f' then some (c.toNat - 'a'.toNat + 10)
    else if 'A' ≤ c ∧ c ≤ 'F' then some (c.toNat - 'A'.toNat + 10)
    else none
  value.filter (· < base)

/-- Reads digits onto the number that the digits before them make. A character that is no digit is
reported before the overflow that it would cause. -/
def readDigits (base limit : Nat) : Nat → List Char → Except NumberFault Nat
  | acc, [] => .ok acc
  | acc, c :: cs =>
    match digit? base c with
    | none => .error .invalidDigit
    | some d =>
      if acc * base + d < limit then readDigits base limit (acc * base + d) cs
      else .error .tooLarge

/-- Reads an optional plus sign and at least one digit. -/
def read? (base limit : Nat) : List Char → Except NumberFault Nat
  | [] => .error .empty
  | ['+'] => .error .invalidDigit
  | '+' :: cs => readDigits base limit 0 cs
  | cs => readDigits base limit 0 cs

/-- Reads a 64-bit number in hexadecimal. -/
def readHex? (text : List Char) : Except NumberFault UInt64 :=
  UInt64.ofNat <$> read? 16 UInt64.size text

end Number

/-- A number in lower-case hexadecimal without leading zeros, behind `0x`. -/
def hex (n : Nat) : String := "0x" ++ String.ofList (Nat.toDigits 16 n)

end BootNote.Text
