import Mathlib.Data.Rat.Cast.Order
import Mathlib.Tactic.Linarith
import Mathlib.Tactic.Ring
import RankedBars.Chart.ValueLabel
import RankedBars.Proofs.Number.Order

/-!
# Values as rational numbers

A finite value is a whole number of units, and the unit is a power of two, so
it is a rational number. Beside it stand here the hundredths that its label is
written with. Rounding to hundredths moves a value by half a hundredth at most,
does not move a whole number at all, and keeps the order, also from one side of
zero to the other.
-/

namespace RankedBars

/-! ## Signs -/

/-- A magnitude with its sign. -/
def withSign (negative : Bool) (n : Nat) : Int := if negative then -(n : Int) else n

@[simp] theorem natAbs_withSign (negative : Bool) (n : Nat) : (withSign negative n).natAbs = n := by
  rw [withSign]
  split <;> omega

theorem withSign_mul (negative : Bool) (m n : Nat) :
    withSign negative (m * n) = withSign negative m * n := by
  rw [withSign, withSign]
  split
  · rw [Nat.cast_mul, Int.neg_mul]
  · rw [Nat.cast_mul]

theorem withSign_natAbs {negative : Bool} {n : Int} {d : Nat} (hd : 0 < d)
    (h : withSign negative (n.natAbs * d) = n * d) : withSign negative n.natAbs = n := by
  rw [withSign_mul] at h
  exact Int.eq_of_mul_eq_mul_right (by omega) h

/-- What keeps the order of magnitudes and leaves zero alone keeps the order
with signs. -/
theorem withSign_mono {f : Nat → Nat} (hmono : Monotone f) (hzero : f 0 = 0)
    {negative negative' : Bool} {m n : Nat} (h : withSign negative m ≤ withSign negative' n) :
    withSign negative (f m) ≤ withSign negative' (f n) := by
  cases negative <;> cases negative' <;>
    simp only [withSign, Bool.false_eq_true, if_false, if_true] at h ⊢
  · exact Int.ofNat_le.mpr (hmono (by omega))
  · have hm : m = 0 := by omega
    have hn : n = 0 := by omega
    rw [hm, hn, hzero]
    exact Int.le_refl 0
  · omega
  · exact Int.neg_le_neg (Int.ofNat_le.mpr (hmono (by omega)))

/-! ## Values -/

/-- How many units there are in one. -/
def Format.unitsInOne (F : Format) : Nat := Nat.pow 2 F.unitExponent

theorem Format.unitsInOne_pos (F : Format) : 0 < F.unitsInOne := Nat.two_pow_pos _

namespace Binary

variable {F : Format} {x y : Binary F}

/-- The number that a finite value is. -/
def value (x : Binary F) : ℚ := x.signedUnits / F.unitsInOne

/-- A value without a fraction. -/
def IsWhole (x : Binary F) : Prop := ∃ n : ℤ, x.value = n

theorem signedUnits_eq (x : Binary F) : x.signedUnits = withSign x.negative x.units := rfl

theorem value_le_value_iff : x.value ≤ y.value ↔ x.signedUnits ≤ y.signedUnits := by
  have hunit : (0 : ℚ) < F.unitsInOne := Nat.cast_pos.mpr F.unitsInOne_pos
  rw [value, value, div_le_div_iff_of_pos_right hunit, Int.cast_le]

theorem value_eq_intCast_iff {n : ℤ} : x.value = n ↔ x.signedUnits = n * F.unitsInOne := by
  have hunit : (F.unitsInOne : ℚ) ≠ 0 := Nat.cast_ne_zero.mpr F.unitsInOne_pos.ne'
  rw [value, div_eq_iff hunit]
  norm_cast

/-- A whole value is a whole number of times as many units as one is, and it
has the sign of that number. -/
theorem whole_of_value_eq {n : ℤ} (h : x.value = n) :
    x.units = n.natAbs * F.unitsInOne ∧ withSign x.negative n.natAbs = n := by
  have hsigned := value_eq_intCast_iff.mp h
  have hunits : x.units = n.natAbs * F.unitsInOne := by
    rw [← natAbs_withSign x.negative x.units, ← signedUnits_eq, hsigned, Int.natAbs_mul,
      Int.natAbs_natCast]
  rw [signedUnits_eq, hunits] at hsigned
  exact ⟨hunits, withSign_natAbs F.unitsInOne_pos hsigned⟩

end Binary

/-- The number that is written. -/
def Decimal.value (d : Decimal) : ℚ := withSign d.negative d.digits * 10 ^ d.exponent

/-! ## Hundredths -/

namespace Binary64

variable {x y : Binary64}

/-- The whole number of a value is found whenever it has one that fits a word.
-/
theorem wholeValue?_eq_some_iff (hfinite : x.isFinite = true) {n : ℤ} :
    wholeValue? x = some n ↔ x.value = n ∧ n.natAbs < 2 ^ 63 := by
  rw [wholeValue?, ← Format.unitsInOne]
  constructor
  · intro hsome
    split at hsome
    · next hwhole =>
        obtain ⟨-, hmod, hlt⟩ := hwhole
        have hn : withSign x.negative (x.units / Format.double.unitsInOne) = n :=
          Option.some_inj.mp hsome
        have hunits := Nat.div_mul_cancel (Nat.dvd_of_mod_eq_zero hmod)
        rw [Binary.value_eq_intCast_iff, Binary.signedUnits_eq, ← hn, natAbs_withSign,
          ← withSign_mul, hunits]
        exact ⟨rfl, hlt⟩
    · exact absurd hsome (Option.some_ne_none n).symm
  · rintro ⟨hvalue, hlt⟩
    obtain ⟨hunits, hsign⟩ := Binary.whole_of_value_eq hvalue
    rw [hunits, Nat.mul_mod_left, Nat.mul_div_cancel _ Format.double.unitsInOne_pos,
      if_pos ⟨hfinite, rfl, hlt⟩]
    exact congrArg some hsign

theorem natAbs_lt_iff {n : ℤ} (h : x.value = n) : n.natAbs < 2 ^ 63 ↔ |x.value| < 2 ^ 63 := by
  rw [h, ← Int.cast_abs, Int.abs_eq_natAbs]
  norm_cast

theorem wholeValue?_eq_none (hfinite : x.isFinite = true)
    (h : ¬ (x.IsWhole ∧ |x.value| < 2 ^ 63)) : wholeValue? x = none := by
  refine Option.eq_none_iff_forall_ne_some.mpr fun n hsome => h ?_
  obtain ⟨hvalue, hlt⟩ := (wholeValue?_eq_some_iff hfinite).mp hsome
  exact ⟨⟨n, hvalue⟩, (natAbs_lt_iff hvalue).mp hlt⟩

/-- A finite value rounded to hundredths. -/
def rounded (x : Binary64) : ℚ := withSign x.negative (hundredths x) / 100

theorem hundredths_eq (x : Binary64) :
    hundredths x = roundHalfEven (x.units * 100) Format.double.unitsInOne := by
  rw [hundredths, Format.unitsInOne]

theorem rounded_of_whole {n : ℤ} (h : x.value = n) : rounded x = n := by
  obtain ⟨hunits, hsign⟩ := Binary.whole_of_value_eq h
  have hhundredths : hundredths x = n.natAbs * 100 := by
    rw [hundredths_eq, hunits, Nat.mul_right_comm]
    exact roundHalfEven_mul_right _ _ Format.double.unitsInOne_pos
  rw [rounded, hhundredths, withSign_mul, hsign]
  norm_num

theorem abs_hundredths_sub_units_le (x : Binary64) :
    |(hundredths x / 100 : ℚ) - x.units / Format.double.unitsInOne| ≤ 1 / 200 := by
  have hpos := Format.double.unitsInOne_pos
  have hhigh := two_mul_roundHalfEven_mul_le (x.units * 100) Format.double.unitsInOne
  have hlow := two_mul_le_roundHalfEven_mul (x.units * 100) Format.double.unitsInOne hpos
  rw [← hundredths_eq] at hhigh hlow
  generalize hundredths x = h, x.units = u, Format.double.unitsInOne = d at *
  have hd : (0 : ℚ) < d := Nat.cast_pos.mpr hpos
  have hhigh' : (2 * (h * d) : ℚ) ≤ 2 * (u * 100) + d := by exact_mod_cast hhigh
  have hlow' : (2 * (u * 100) : ℚ) ≤ 2 * (h * d) + d := by exact_mod_cast hlow
  rw [div_sub_div _ _ (by norm_num) hd.ne', abs_le, le_div_iff₀ (by positivity),
    div_le_iff₀ (by positivity)]
  constructor <;> linarith

/-- Rounding to hundredths moves a value by half a hundredth at most. -/
theorem abs_rounded_sub_value_le (x : Binary64) : |rounded x - x.value| ≤ 1 / 200 := by
  have habs := abs_hundredths_sub_units_le x
  rw [rounded, Binary.value, Binary.signedUnits_eq, withSign, withSign]
  split
  · rw [← abs_neg] at habs
    convert habs using 2
    push_cast
    ring
  · exact habs

/-- Rounding to hundredths keeps the order. -/
theorem rounded_mono (h : x.value ≤ y.value) : rounded x ≤ rounded y := by
  have hmono : Monotone fun units => roundHalfEven (units * 100) Format.double.unitsInOne :=
    fun m n hle => roundHalfEven_mono _ (Nat.mul_le_mul_right 100 hle)
  have hzero : roundHalfEven (0 * 100) Format.double.unitsInOne = 0 := by
    have hround := roundHalfEven_mul_right 0 _ Format.double.unitsInOne_pos
    rwa [Nat.zero_mul] at hround ⊢
  rw [Binary.value_le_value_iff, Binary.signedUnits_eq, Binary.signedUnits_eq] at h
  rw [rounded, rounded, hundredths_eq, hundredths_eq]
  have hsigned := Int.cast_le (R := ℚ) |>.mpr (withSign_mono hmono hzero h)
  linarith

end Binary64

end RankedBars
