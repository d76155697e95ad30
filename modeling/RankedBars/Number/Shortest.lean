import RankedBars.Number.Decimal

/-!
# Shortest decimals

The shortest decimal of a binary value has the fewest digits among those that
read back as that value, and among these it is the nearest one. A decimal reads
back when it lies between the two midpoints to the neighbouring values, the
midpoints included when the magnitude is even, because a half is rounded to the
even neighbour.

The search tries one digit, then two, and so on. At each count only the two
decimals on either side of the value have to be looked at: if any decimal of
that count lies between the midpoints, one of these two does. Everything is
compared as whole numbers, so nothing is rounded on the way.
-/

namespace RankedBars

/-- The same number with no zero at the end of its digits. -/
def stripZeros (digits : Nat) (exponent : Int) : Nat × Int :=
  if digits % 10 = 0 ∧ digits ≠ 0 then stripZeros (digits / 10) (exponent + 1)
  else (digits, exponent)
termination_by digits
decreasing_by omega

namespace Format

variable (F : Format)

/-- The exponent of the leading decimal digit of a magnitude other than zero. -/
def leadingExponent (magnitude : Nat) : Int :=
  let places := F.unitExponent / 3 + 1
  (digitCount (F.units magnitude * Nat.pow 10 places / Nat.pow 2 F.unitExponent) : Int) - 1 - places

/-- Whether the number `num / den` reads back as `magnitude`. -/
def readsBack (magnitude num den : Nat) : Bool :=
  let low := F.units (magnitude - 1) + F.units magnitude
  let high := F.units magnitude + F.units (magnitude + 1)
  let twice := 2 * num * Nat.pow 2 F.unitExponent
  if magnitude % 2 = 0 then low * den ≤ twice && twice ≤ high * den
  else low * den < twice && twice < high * den

/-- The nearest decimal `c · 10 ^ exponent` that reads back as `magnitude`, when
there is one on this grid. -/
def decimalOnGrid? (magnitude : Nat) (exponent : Int) : Option Nat :=
  let up := Nat.pow 10 exponent.toNat
  let down := Nat.pow 10 (-exponent).toNat
  let num := F.units magnitude * down
  let den := Nat.pow 2 F.unitExponent * up
  let below := num / den
  let above := below + 1
  match F.readsBack magnitude (below * up) down, F.readsBack magnitude (above * up) down with
  | true, true => some (roundHalfEven num den)
  | true, false => some below
  | false, true => some above
  | false, false => none

/-- The digits and the exponent of the shortest decimal of a finite magnitude
other than zero. As many digits as the format has fraction bits are always
enough. -/
def shortest (magnitude : Nat) : Nat × Int :=
  let top := F.leadingExponent magnitude
  let found := (List.range (F.fractionBits + 2)).findSome? fun (i : Nat) =>
    (F.decimalOnGrid? magnitude (top - i)).map fun digits => (digits, top - i)
  match found with
  | some (digits, exponent) => stripZeros digits exponent
  | none => (0, 0)

end Format

end RankedBars
