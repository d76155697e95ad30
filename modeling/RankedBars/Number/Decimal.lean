import RankedBars.Number.Binary

/-!
# Decimal text of numbers

The text of a number is a sign, digits with at most one point among them, and an
exponent, or one of the words for infinity and for what is not a number. Its
value is the binary value nearest to the decimal one, however many digits are
written. The exponent may be of any size: far outside the range of the format
the answer is infinity or zero, and the power of ten is not computed.
-/

namespace RankedBars

def digitValue (c : Char) : Nat := c.toNat - '0'.toNat

/-- The number that a run of decimal digits writes. -/
def ofDigits (digits : List Char) : Nat :=
  digits.foldl (fun n c => 10 * n + digitValue c) 0

/-- How many decimal digits a number has, none for zero. -/
def digitCount (n : Nat) : Nat :=
  if n = 0 then 0 else digitCount (n / 10) + 1

theorem ofDigits_append_singleton (digits : List Char) (c : Char) :
    ofDigits (digits ++ [c]) = 10 * ofDigits digits + digitValue c := by
  simp [ofDigits]

/-- The number `± digits · 10 ^ exponent`. -/
structure Decimal where
  negative : Bool
  digits : Nat
  exponent : Int
deriving DecidableEq

namespace Decimal

/-- The nearest binary value. -/
def toBinary (d : Decimal) : Binary64 :=
  let length : Int := digitCount d.digits + d.exponent
  if d.digits = 0 ∨ length < -330 then .ofRatio d.negative 0 1
  else if 310 < length then { Binary.infinity with negative := d.negative }
  else if 0 ≤ d.exponent then .ofRatio d.negative (d.digits * Nat.pow 10 d.exponent.toNat) 1
  else .ofRatio d.negative d.digits (Nat.pow 10 (-d.exponent).toNat)

end Decimal

/-- Why a text is not a number. -/
inductive NumberTextError
  | empty
  | malformed
deriving DecidableEq

def NumberTextError.message : NumberTextError → String
  | .empty => "cannot parse float from empty string"
  | .malformed => "invalid float literal"

namespace NumberText

/-- Takes the sign off the front: whether it was a minus, and what follows. -/
def takeSign : List Char → Bool × List Char
  | '-' :: rest => (true, rest)
  | '+' :: rest => (false, rest)
  | rest => (false, rest)

/-- The exponent that ends a number: nothing, or a letter, a sign and at least
one digit. -/
def exponent? : List Char → Option Int
  | [] => some 0
  | c :: rest =>
      if c = 'e' ∨ c = 'E' then
        let (minus, digits) := takeSign rest
        if digits.isEmpty ∨ ¬ digits.all Char.isDigit then none
        else some (if minus then -(ofDigits digits : Int) else ofDigits digits)
      else none

/-- Digits with at most one point among them, at least one digit in all, then an
exponent. -/
def decimal? (negative : Bool) (text : List Char) : Option Decimal := do
  let (whole, rest) := text.span Char.isDigit
  let (fraction, rest) := match rest with
    | '.' :: rest => rest.span Char.isDigit
    | _ => ([], rest)
  if whole.isEmpty ∧ fraction.isEmpty then none
  else
    let exponent ← exponent? rest
    return ⟨negative, ofDigits (whole ++ fraction), exponent - fraction.length⟩

/-- The value of a word for infinity or for what is not a number, in any mix of
cases. -/
def word? (negative : Bool) (text : List Char) : Option Binary64 :=
  let lowered := String.ofList (text.map Char.toLower)
  if lowered = "inf" ∨ lowered = "infinity" then some { Binary.infinity with negative }
  else if lowered = "nan" then some ⟨negative, 0x7FF8000000000000, by decide⟩
  else none

/-- Reads the text of a number, which is all of `text`. -/
def read (text : String) : Except NumberTextError Binary64 :=
  if text.isEmpty then .error .empty
  else
    let (negative, rest) := takeSign text.toList
    match decimal? negative rest with
    | some d => .ok d.toBinary
    | none =>
        match word? negative rest with
        | some x => .ok x
        | none => .error .malformed

end NumberText

end RankedBars
