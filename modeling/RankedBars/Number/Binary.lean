import RankedBars.Number.Rounding

/-!
# Binary floating point

A value is a sign and a magnitude, where the magnitude is the word without its
sign bit, read as a natural number. This makes the order of finite values the
order of their magnitudes, and it makes rounding one formula: the finite
magnitudes of a format are exactly the multiples of its smallest positive value
that fit its precision, so a magnitude stands for a whole number of those units,
and rounding is a division followed by `roundHalfEven`. There is no special case
for subnormal values and none for a significand that is rounded up into the next
binade, since the carry runs into the exponent by itself.
-/

namespace RankedBars

/-- The widths of a binary interchange format. -/
structure Format where
  fractionBits : Nat
  exponentBits : Nat
deriving DecidableEq

namespace Format

/-- The 64-bit format. -/
def double : Format := ⟨52, 11⟩

/-- The 32-bit format. -/
def single : Format := ⟨23, 8⟩

variable (F : Format)

/-- The unit, which is the smallest positive value, is `2` to the power of minus
this. -/
def unitExponent : Nat := Nat.pow 2 (F.exponentBits - 1) - 2 + F.fractionBits

/-- The first magnitude that is not finite. Magnitudes above it are not numbers.
-/
def infinity : Nat := (Nat.pow 2 F.exponentBits - 1) * Nat.pow 2 F.fractionBits

/-- One more than the last magnitude, which is also the weight of the sign bit.
-/
def signWeight : Nat := Nat.pow 2 F.exponentBits * Nat.pow 2 F.fractionBits

theorem infinity_lt_signWeight : F.infinity < F.signWeight :=
  Nat.mul_lt_mul_of_pos_right (Nat.sub_lt (Nat.two_pow_pos _) Nat.one_pos) (Nat.two_pow_pos _)

/-- How many units a finite magnitude stands for. -/
def units (magnitude : Nat) : Nat :=
  let exponent := magnitude / Nat.pow 2 F.fractionBits
  let fraction := magnitude % Nat.pow 2 F.fractionBits
  if exponent = 0 then fraction
  else (Nat.pow 2 F.fractionBits + fraction) * Nat.pow 2 (exponent - 1)

/-- The magnitude nearest to `num / den` units, a half going to the even one and
everything past the last finite magnitude going to infinity. -/
def nearestUnits (num den : Nat) : Nat :=
  let step := (num / den).log2 - F.fractionBits
  min (step * Nat.pow 2 F.fractionBits + roundHalfEven num (den * Nat.pow 2 step)) F.infinity

/-- The magnitude nearest to the number `num / den`. -/
def nearest (num den : Nat) : Nat :=
  F.nearestUnits (num * Nat.pow 2 F.unitExponent) den

theorem nearestUnits_le (num den : Nat) : F.nearestUnits num den ≤ F.infinity :=
  Nat.min_le_right _ _

end Format

/-- A floating-point value of format `F`. -/
@[ext] structure Binary (F : Format) where
  negative : Bool
  magnitude : Nat
  magnitude_lt : magnitude < F.signWeight
deriving DecidableEq

abbrev Binary64 := Binary .double
abbrev Binary32 := Binary .single

namespace Binary

variable {F : Format}

/-- The value whose word is `bits`, of which only the low bits that the format
has are read. -/
def ofBits (bits : Nat) : Binary F where
  negative := bits / F.signWeight % 2 = 1
  magnitude := bits % F.signWeight
  magnitude_lt := Nat.mod_lt _ (Nat.zero_lt_of_lt F.infinity_lt_signWeight)

/-- The word of a value. -/
def bits (x : Binary F) : Nat :=
  (if x.negative then F.signWeight else 0) + x.magnitude

@[simp] theorem ofBits_bits (x : Binary F) : ofBits x.bits = x := by
  have hlt := x.magnitude_lt
  have hpos : 0 < F.signWeight := Nat.zero_lt_of_lt hlt
  ext
  · rw [ofBits, bits]
    cases x.negative with
    | false => rw [if_neg Bool.false_ne_true, Nat.zero_add, Nat.div_eq_of_lt hlt]; rfl
    | true => rw [if_pos rfl, Nat.add_div_left _ hpos, Nat.div_eq_of_lt hlt]; rfl
  · dsimp only [ofBits, bits]
    split
    · rw [Nat.add_mod_left, Nat.mod_eq_of_lt hlt]
    · rw [Nat.zero_add, Nat.mod_eq_of_lt hlt]

def isNaN (x : Binary F) : Bool := F.infinity < x.magnitude

def isFinite (x : Binary F) : Bool := x.magnitude < F.infinity

def zero : Binary F := ⟨false, 0, Nat.zero_lt_of_lt F.infinity_lt_signWeight⟩

def infinity : Binary F := ⟨false, F.infinity, F.infinity_lt_signWeight⟩

def neg (x : Binary F) : Binary F := { x with negative := !x.negative }

instance : Inhabited (Binary F) := ⟨zero⟩
instance : Neg (Binary F) := ⟨neg⟩

/-- The value nearest to `num / den`, with the given sign. -/
def ofRatio (negative : Bool) (num den : Nat) : Binary F :=
  ⟨negative, F.nearest num den, Nat.lt_of_le_of_lt (F.nearestUnits_le _ _) F.infinity_lt_signWeight⟩

/-- The value nearest to a whole number. -/
def ofNat (n : Nat) : Binary F := ofRatio false n 1

def ofInt (i : Int) : Binary F := ofRatio (i < 0) i.natAbs 1

/-- How many units the magnitude of a finite value is. -/
def units (x : Binary F) : Nat := F.units x.magnitude

/-- A finite value as a signed count of units. -/
def signedUnits (x : Binary F) : Int :=
  if x.negative then -(x.units : Int) else x.units

/-- The product of two finite values, rounded once. -/
def mul (x y : Binary F) : Binary F :=
  ofRatio (x.negative != y.negative) (x.units * y.units) (Nat.pow 2 (2 * F.unitExponent))

/-- The quotient of two finite values with a divisor other than zero, rounded
once. -/
def div (x y : Binary F) : Binary F :=
  ofRatio (x.negative != y.negative) x.units y.units

/-- The sum of two finite values, rounded once. A sum of zero is positive unless
both terms are negative. -/
def add (x y : Binary F) : Binary F :=
  let sum := x.signedUnits + y.signedUnits
  let negative := sum < 0 || (sum == 0 && x.negative && y.negative)
  ofRatio negative sum.natAbs (Nat.pow 2 F.unitExponent)

instance : Mul (Binary F) := ⟨mul⟩
instance : Div (Binary F) := ⟨div⟩
instance : Add (Binary F) := ⟨add⟩
instance : Sub (Binary F) := ⟨fun x y => x + -y⟩

/-- The position of a value in the total order of words, in which negative
values run backwards, `-0` stands just below `+0`, and values that are not
numbers stand outside the infinities on the side of their sign. -/
def rank (x : Binary F) : Int :=
  if x.negative then -(x.magnitude : Int) - 1 else x.magnitude

/-- Different values have different places in the total order. -/
theorem rank_inj {x y : Binary F} : x.rank = y.rank ↔ x = y := by
  refine ⟨fun h => ?_, fun h => h ▸ rfl⟩
  obtain ⟨sx, mx, _⟩ := x
  obtain ⟨sy, my, _⟩ := y
  cases sx <;> cases sy <;> dsimp only [rank] at h <;>
    rw [Binary.mk.injEq] <;> simp only [Bool.false_eq_true, if_false, if_true] at h <;>
    first
      | exact ⟨rfl, by omega⟩
      | omega

/-- Of two finite values the larger one. -/
def max (x y : Binary F) : Binary F := if x.rank ≤ y.rank then y else x

/-- Of two finite values the smaller one. -/
def min (x y : Binary F) : Binary F := if x.rank ≤ y.rank then x else y

/-- A finite value in another format, rounded once. -/
def convert {G : Format} (x : Binary F) : Binary G :=
  ofRatio x.negative x.units (Nat.pow 2 F.unitExponent)

/-- Zero in place of a negative value. -/
def clampNegative (x : Binary F) : Binary F := if x.negative then zero else x

end Binary

end RankedBars
