/-!
# Digits to the base 16
-/

namespace RankedBars.Text

/-- The value of a base-16 digit, in either case. -/
def hexValue? (c : Char) : Option Nat :=
  if '0' ≤ c ∧ c ≤ '9' then some (c.toNat - '0'.toNat)
  else if 'a' ≤ c ∧ c ≤ 'f' then some (c.toNat - 'a'.toNat + 10)
  else if 'A' ≤ c ∧ c ≤ 'F' then some (c.toNat - 'A'.toNat + 10)
  else none

/-- The digit of a value below sixteen, small letters past nine. -/
def hexDigit (n : Nat) : Char := Nat.digitChar n

/-- The digit of a value below sixteen, capital letters past nine. -/
def capitalHexDigit (n : Nat) : Char := (hexDigit n).toUpper

/-- The digits of a number, small letters past nine. -/
def hexDigits (n : Nat) : List Char := Nat.toDigits 16 n

/-- The two digits of a byte, capital letters past nine. -/
def hexByte (b : UInt8) : List Char :=
  [capitalHexDigit (b.toNat / 16), capitalHexDigit (b.toNat % 16)]

theorem hexValue?_hexDigit : ∀ n < 16, hexValue? (hexDigit n) = some n := by decide

theorem hexValue?_capitalHexDigit : ∀ n < 16, hexValue? (capitalHexDigit n) = some n := by decide

theorem capitalHexDigit_ne_plus : ∀ n < 16, capitalHexDigit n ≠ '+' := by decide

end RankedBars.Text
