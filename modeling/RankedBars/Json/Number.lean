import RankedBars.Number.Shortest

/-!
# Numbers in JSON text

A literal is either a whole number that fits 64 bits, with or without a sign, or
a floating-point value. Floating-point literals are evaluated the quick way: the
digits are gathered in a 64-bit word as long as they fit, and the word is then
multiplied or divided by a power of ten. The result is the nearest value when
the digits fit 53 bits and the power is exact, and may be a neighbour of it
otherwise.

Written out, a value has its shortest digits. They stand positionally around a
point when the leading digit lies between the fifth place behind the point and
the sixteenth before it, and in scientific form otherwise.
-/

namespace RankedBars.Json

/-- A number as it is spelled. The exponent is absent when none is written; a
point is always followed by a digit. -/
structure NumberLiteral where
  negative : Bool
  whole : List Char
  fraction : List Char
  exponent : Option Int
deriving DecidableEq

/-- What a literal stands for. -/
inductive Number
  | integer (value : Int)
  | float (value : Binary64)
deriving DecidableEq

/-- One more than the largest 64-bit word. -/
def wordLimit : Nat := Nat.pow 2 64

/-- Appends digits to a word for as long as it does not overflow, and returns
the digits left. -/
def gather (word : Nat) : List Char → Nat × List Char
  | [] => (word, [])
  | c :: rest =>
      let next := 10 * word + digitValue c
      if next < wordLimit then gather next rest else (word, c :: rest)

theorem gather_suffix (word : Nat) (digits : List Char) :
    (gather word digits).2 <:+ digits := by
  induction digits generalizing word with
  | nil => exact List.suffix_refl _
  | cons c rest ih =>
      rw [gather]
      split
      · exact (ih _).trans (List.suffix_cons c rest)
      · exact List.suffix_refl _

/-- Multiplies by a power of ten, or divides by one, in steps that the format
can hold. There is no answer when the result is too large. -/
def scale (x : Binary64) (exponent : Int) : Option Binary64 :=
  if 0 ≤ exponent then
    if exponent ≤ 308 then
      let product := x * .ofNat (Nat.pow 10 exponent.toNat)
      if product.isFinite then some product else none
    else if x.magnitude = 0 then some x
    else none
  else if -308 ≤ exponent then some (x / .ofNat (Nat.pow 10 (-exponent).toNat))
  else if x.magnitude = 0 then some x
  else scale (x / .ofNat (Nat.pow 10 308)) (exponent + 308)
termination_by exponent.natAbs
decreasing_by omega

namespace NumberLiteral

/-- The floating-point value of a literal. Digits that overflow the word count
only by their place. -/
def float? (l : NumberLiteral) : Option Binary64 :=
  let (word, wholeLeft) := gather 0 l.whole
  let (word, fractionLeft) := gather word l.fraction
  let places : Int := wholeLeft.length - (l.fraction.length - fractionLeft.length : Nat)
  let magnitude := scale (.ofNat word) (places + l.exponent.getD 0)
  if l.negative then magnitude.map (-·) else magnitude

/-- The value of a literal, unless it is out of range. A minus in front of zero
makes it a floating-point value, since whole numbers have one zero only. -/
def value? (l : NumberLiteral) : Option Number :=
  let n := ofDigits l.whole
  if l.fraction.isEmpty ∧ l.exponent.isNone ∧ n < wordLimit then
    if !l.negative then some (.integer n)
    else if 0 < n ∧ n ≤ Nat.pow 2 63 then some (.integer (-n))
    else some (.float (-(.ofNat n)))
  else l.float?.map .float

end NumberLiteral

/-- The floating-point value of a number. -/
def Number.toBinary : Number → Binary64
  | .integer value => .ofInt value
  | .float value => value

/-- The last place before the point at which a leading digit is still written
positionally. -/
def lastPositional : Int := 15

/-- The last place behind the point at which a leading digit is still written
positionally. -/
def firstPositional : Int := -5

/-- The digits `digits · 10 ^ exponent` with a point, positional or scientific.
-/
def decimalText (digits : Nat) (exponent : Int) : String :=
  let text := (Nat.toDigits 10 digits)
  let leading : Int := text.length - 1 + exponent
  let zeros (n : Int) := List.replicate n.toNat '0'
  String.ofList <|
    if leading < firstPositional ∨ lastPositional < leading then
      let mantissa := match text with
        | first :: next :: rest => first :: '.' :: next :: rest
        | short => short
      let sign := if leading < 0 then '-' else '+'
      mantissa ++ 'e' :: sign :: Nat.toDigits 10 leading.natAbs
    else if 0 ≤ exponent then text ++ zeros exponent ++ ['.', '0']
    else if 0 ≤ leading then
      text.take (leading + 1).toNat ++ '.' :: text.drop (leading + 1).toNat
    else ['0', '.'] ++ zeros (-leading - 1) ++ text

/-- A floating-point value as JSON text. What is not finite has no text of its
own. -/
def floatText (x : Binary64) : String :=
  if !x.isFinite then "null"
  else
    let sign := if x.negative then "-" else ""
    if x.magnitude = 0 then sign ++ "0.0"
    else
      let (digits, exponent) := Format.double.shortest x.magnitude
      sign ++ decimalText digits exponent

end RankedBars.Json
