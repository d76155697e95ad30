import RankedBars.Chart.Drawing
import RankedBars.Proofs.Number.Order

/-!
# How long a bar is

A bar is as long as its share of the largest value says. The share is rounded
once and its product with the room once more, but neither rounding passes a
value that is there: a share of at most one is rounded to at most one, and a
part of the room to at most the room. So no bar leaves its room, and the one
of the largest value, whose share is one without rounding, fills it.

Every step from the value to the pixels keeps the order, therefore lengths are
in the order of the values, where those up to zero have length zero.
-/

namespace RankedBars

theorem roundHalfUp_mul_right (n : Nat) {den : Nat} (h : 0 < den) :
    roundHalfUp (n * den) den = n := by
  have hsum : 2 * (n * den) + den = den + n * (2 * den) := by ring
  rw [roundHalfUp, hsum, Nat.add_mul_div_right _ _ (by omega), Nat.div_eq_of_lt (by omega),
    Nat.zero_add]

namespace Binary

/-! ## Shares -/

theorem lt_units_infinity_double {M : Nat} (hM : M < 2 ^ 53) :
    M * 2 ^ Format.double.unitExponent < Format.double.units Format.double.infinity := by
  have hlt (e : Nat) : M * 2 ^ e < 2 ^ (53 + e) := by
    rw [Nat.pow_add]
    exact Nat.mul_lt_mul_of_pos_right hM (Nat.two_pow_pos e)
  refine Nat.lt_of_lt_of_eq (lt_two_pow_of_le (hlt _) ?_) units_infinity.symm
  rw [unitExponent_double]
  decide

/-- A share of at most one is not rounded up past one. -/
theorem units_div_le {x y : Binary64} (hy : 0 < y.units) (h : x.units ≤ y.units) :
    (x / y).units ≤ 1 * 2 ^ Format.double.unitExponent := by
  rw [units_div]
  refine Format.units_nearestUnits_le_of_le hy (by decide) (lt_units_infinity_double (by decide)) ?_
  rw [Nat.one_mul, Nat.mul_comm]
  exact Nat.mul_le_mul_left _ h

/-- Equal values have the share one. -/
theorem units_div_of_units_eq {x y : Binary64} (hy : 0 < y.units) (h : x.units = y.units) :
    (x / y).units = 1 * 2 ^ Format.double.unitExponent := by
  refine Nat.le_antisymm (units_div_le hy h.le) ?_
  rw [units_div]
  refine Format.le_units_nearestUnits_of_le hy (by decide) (lt_units_infinity_double (by decide)) ?_
  rw [Nat.one_mul, Nat.mul_comm, h]

theorem units_ofNat_of_word {n : Nat} (hn : n < 2 ^ 53) :
    (ofNat n : Binary64).units = n * 2 ^ Format.double.unitExponent := by
  have hexact := units_ofNat_of_lt hn (Nat.zero_le 900)
  rwa [Nat.pow_zero, Nat.mul_one] at hexact

/-- A part of some pixels is not rounded up past them. -/
theorem units_mul_ofNat_le {x : Binary64} {n : Nat} (hn : n < 2 ^ 53)
    (hx : x.units ≤ 1 * 2 ^ Format.double.unitExponent) :
    (x * ofNat n).units ≤ n * 2 ^ Format.double.unitExponent := by
  rw [units_mul, units_ofNat_of_word hn]
  refine Format.units_nearestUnits_le_of_le (Nat.two_pow_pos _) hn (lt_units_infinity_double hn) ?_
  rw [Nat.one_mul] at hx
  rw [Nat.mul_comm]
  exact Nat.mul_le_mul_left _ hx

theorem units_mul_ofNat_of_units_eq {x : Binary64} {n : Nat} (hn : n < 2 ^ 53)
    (hx : x.units = 1 * 2 ^ Format.double.unitExponent) :
    (x * ofNat n).units = n * 2 ^ Format.double.unitExponent := by
  refine Nat.le_antisymm (units_mul_ofNat_le hn hx.le) ?_
  rw [units_mul, units_ofNat_of_word hn]
  refine Format.le_units_nearestUnits_of_le (Nat.two_pow_pos _) hn (lt_units_infinity_double hn) ?_
  rw [Nat.mul_comm x.units, hx, Nat.one_mul]

theorem units_mul_of_units_eq_zero {F : Format} {x y : Binary F} (h : x.units = 0) :
    (x * y).units = 0 := by
  rw [units_mul, h, Nat.zero_mul, Format.nearestUnits_zero _ (Nat.two_pow_pos _), F.units_zero]

theorem units_div_of_units_eq_zero {F : Format} {x y : Binary F} (hy : 0 < y.units)
    (h : x.units = 0) : (x / y).units = 0 := by
  rw [units_div, h, Nat.zero_mul, Format.nearestUnits_zero _ hy, F.units_zero]

/-- What is left of a value without a negative part. -/
theorem units_clampNegative {F : Format} (x : Binary F) :
    x.clampNegative.units = x.signedUnits.toNat := by
  rw [clampNegative, signedUnits]
  split
  · rw [units_zero]
    omega
  · exact (Int.toNat_natCast _).symm

end Binary

namespace Chart

open Binary

variable {values : List Binary64} {largest value other x y : Binary64} {room n : Nat}

/-! ## The largest value -/

theorem largestValue_eq_zero_or_mem (values : List Binary64) :
    largestValue values = .zero ∨
      largestValue values ∈ values ∧ (largestValue values).isFinite :=
  (foldl_max_eq_or_mem _ _).imp_right fun h => List.mem_filter.mp h

theorem signedUnits_largestValue (values : List Binary64) :
    (largestValue values).signedUnits = (largestValue values).units := by
  have hrank : zero.rank ≤ (largestValue values).rank := (rank_foldl_max _ _).1
  have hle := signedUnits_le_of_rank_le hrank
  have hzero : (zero : Binary64).signedUnits = 0 := rfl
  rw [hzero] at hle
  simp only [signedUnits] at hle ⊢
  split
  · next hsign =>
      rw [if_pos hsign] at hle
      omega
  · rfl

theorem signedUnits_le_largestValue (h : value ∈ values) (hfinite : value.isFinite) :
    value.signedUnits ≤ (largestValue values).units := by
  have hmem : value ∈ values.filter (·.isFinite) := List.mem_filter.mpr ⟨h, hfinite⟩
  rw [← signedUnits_largestValue]
  exact signedUnits_le_of_rank_le ((rank_foldl_max _ _).2 value hmem)

/-- A value that no other exceeds is the largest one, if it is above zero. -/
theorem signedUnits_eq_largestValue (h : value ∈ values) (hfinite : value.isFinite)
    (hpos : 0 < value.signedUnits)
    (hall : ∀ other ∈ values, other.isFinite → other.signedUnits ≤ value.signedUnits) :
    value.signedUnits = (largestValue values).units := by
  refine Int.le_antisymm (signedUnits_le_largestValue h hfinite) ?_
  rw [← signedUnits_largestValue]
  rcases largestValue_eq_zero_or_mem values with hzero | ⟨hmem, hlargest⟩
  · rw [hzero]
    exact hpos.le
  · exact hall _ hmem hlargest

/-! ## In whole pixels -/

theorem nearestPixels_eq (x : Binary64) : nearestPixels x =
    min (roundHalfUp x.units (2 ^ Format.double.unitExponent) : Int) 2147483647 := by
  have hlimit : ((Nat.pow 2 31 : Nat) - 1 : Int) = 2147483647 := by decide
  rw [nearestPixels, Nat.pow_eq, hlimit]

theorem nearestPixels_nonneg (x : Binary64) : 0 ≤ nearestPixels x := by
  rw [nearestPixels_eq]
  exact le_min (Int.natCast_nonneg _) (by decide)

theorem nearestPixels_lt (x : Binary64) : nearestPixels x < 2 ^ 31 := by
  rw [nearestPixels_eq]
  exact (min_le_right _ _).trans_lt (by decide)

theorem nearestPixels_mono (h : x.units ≤ y.units) : nearestPixels x ≤ nearestPixels y := by
  have hround := roundHalfUp_mono (2 ^ Format.double.unitExponent) h
  rw [nearestPixels_eq, nearestPixels_eq]
  omega

theorem nearestPixels_of_units_eq (h : x.units = n * 2 ^ Format.double.unitExponent) :
    nearestPixels x = min (n : Int) 2147483647 := by
  rw [nearestPixels_eq, h, roundHalfUp_mul_right _ (Nat.two_pow_pos _)]

theorem nearestPixels_le (h : x.units ≤ n * 2 ^ Format.double.unitExponent) :
    nearestPixels x ≤ n := by
  have hround := roundHalfUp_mono (2 ^ Format.double.unitExponent) h
  rw [roundHalfUp_mul_right _ (Nat.two_pow_pos _)] at hround
  rw [nearestPixels_eq]
  omega

/-! ## Bars -/

theorem barLength_of_isFinite (hpos : 0 < largest.units) (hfinite : value.isFinite) :
    barLength largest room value = nearestPixels (value.clampNegative / largest * .ofNat room) :=
  if_pos ⟨units_pos_iff.mp hpos, hfinite⟩

theorem barLength_eq_zero (h : ¬ (0 < largest.units ∧ value.isFinite)) :
    barLength largest room value = 0 := by
  rw [units_pos_iff] at h
  exact if_neg h

theorem barLength_nonneg (largest : Binary64) (room : Nat) (value : Binary64) :
    0 ≤ barLength largest room value := by
  rw [barLength]
  split
  · exact nearestPixels_nonneg _
  · exact Int.le_refl 0

theorem barLength_lt (largest : Binary64) (room : Nat) (value : Binary64) :
    barLength largest room value < 2 ^ 31 := by
  rw [barLength]
  split
  · exact nearestPixels_lt _
  · decide

/-- A bar is not longer than the room, whatever is rounded. -/
theorem barLength_le (hroom : room < 2 ^ 53) (h : value.signedUnits ≤ largest.units) :
    barLength largest room value ≤ room := by
  by_cases hdrawn : 0 < largest.units ∧ value.isFinite
  · have hclamped : value.clampNegative.units ≤ largest.units := by
      rw [units_clampNegative]
      omega
    rw [barLength_of_isFinite hdrawn.1 hdrawn.2]
    exact nearestPixels_le (units_mul_ofNat_le hroom (units_div_le hdrawn.1 hclamped))
  · rw [barLength_eq_zero hdrawn]
    exact Int.natCast_nonneg room

theorem barLength_mono (hfinite : other.isFinite) (h : value.signedUnits ≤ other.signedUnits) :
    barLength largest room value ≤ barLength largest room other := by
  by_cases hdrawn : 0 < largest.units ∧ value.isFinite
  · have hclamped : value.clampNegative.units ≤ other.clampNegative.units := by
      rw [units_clampNegative, units_clampNegative]
      omega
    rw [barLength_of_isFinite hdrawn.1 hdrawn.2, barLength_of_isFinite hdrawn.1 hfinite]
    exact nearestPixels_mono (units_mul_mono (units_div_mono hdrawn.1 hclamped) (Nat.le_refl _))
  · rw [barLength_eq_zero hdrawn]
    exact barLength_nonneg _ _ _

theorem barLength_of_nonpos (h : value.signedUnits ≤ 0) : barLength largest room value = 0 := by
  by_cases hdrawn : 0 < largest.units ∧ value.isFinite
  · have hclamped : value.clampNegative.units = 0 := by
      rw [units_clampNegative]
      omega
    have hshare := units_div_of_units_eq_zero hdrawn.1 hclamped
    have hnone : (value.clampNegative / largest * .ofNat room).units
        = 0 * 2 ^ Format.double.unitExponent := by
      rw [units_mul_of_units_eq_zero hshare, Nat.zero_mul]
    rw [barLength_of_isFinite hdrawn.1 hdrawn.2, nearestPixels_of_units_eq hnone]
    rfl
  · exact barLength_eq_zero hdrawn

/-- The bar of the largest value takes all the room, as far as a word can hold
it. -/
theorem barLength_of_largest (hroom : room < 2 ^ 53) (hpos : 0 < value.signedUnits)
    (hfinite : value.isFinite) (h : value.signedUnits = largest.units) :
    barLength largest room value = min (room : Int) 2147483647 := by
  have hlargest : 0 < largest.units := by omega
  have hclamped : value.clampNegative.units = largest.units := by
    rw [units_clampNegative]
    omega
  rw [barLength_of_isFinite hlargest hfinite]
  exact nearestPixels_of_units_eq
    (units_mul_ofNat_of_units_eq hroom (units_div_of_units_eq hlargest hclamped))

end Chart

end RankedBars
