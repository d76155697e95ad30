import RankedBars.Number.Binary
import RankedBars.Proofs.Number.Nearest

/-!
# Arithmetic that is not rounded

A whole number with few significant bits is a value, and so is a small power
of ten, because five to the twenty-second power still fits the significand.
The product or quotient of two such values is rounded once, from the exact
one. Where the values are larger all that is needed is that a product stays
finite, and for this it is enough that rounding never passes a power of two.
-/

namespace RankedBars

namespace Binary

variable {F : Format}

theorem negative_ofRatio (negative : Bool) (num den : Nat) :
    (ofRatio negative num den : Binary F).negative = negative := rfl

theorem magnitude_ofRatio (negative : Bool) (num den : Nat) :
    (ofRatio negative num den : Binary F).magnitude = F.nearest num den := rfl

theorem ofRatio_mul_right (negative : Bool) (num den : Nat) {k : Nat} (hk : 0 < k) :
    (ofRatio negative (num * k) (den * k) : Binary F) = ofRatio negative num den := by
  ext
  · rfl
  · rw [magnitude_ofRatio, magnitude_ofRatio, Format.nearest_eq, Format.nearest_eq,
      Nat.mul_right_comm, Format.nearestUnits_mul_right _ _ hk]

/-- A power of two in a whole number costs no significant bits. -/
theorem units_ofNat {M t : Nat} (hM : M < 2 ^ (F.fractionBits + 1))
    (hfinite : M * 2 ^ t * 2 ^ F.unitExponent < F.units F.infinity) :
    (ofNat (M * 2 ^ t) : Binary F).units = M * 2 ^ t * 2 ^ F.unitExponent := by
  rw [Nat.mul_assoc, ← Nat.pow_add] at hfinite
  have hexact := Format.units_nearestUnits hM hfinite
  rw [units, ofNat, magnitude_ofRatio, Format.nearest_eq, Nat.mul_assoc, ← Nat.pow_add, hexact]

theorem mul_ofNat {m n : Nat} (hm : (ofNat m : Binary F).units = m * 2 ^ F.unitExponent)
    (hn : (ofNat n : Binary F).units = n * 2 ^ F.unitExponent) :
    (ofNat m * ofNat n : Binary F) = ofNat (m * n) := by
  have hden : Nat.pow 2 (2 * F.unitExponent) = 1 * (2 ^ F.unitExponent * 2 ^ F.unitExponent) := by
    rw [Nat.pow_eq, Nat.one_mul, ← Nat.pow_add, Nat.two_mul]
  change ofRatio _ ((ofNat m : Binary F).units * (ofNat n : Binary F).units) _ = _
  rw [hm, hn, Nat.mul_mul_mul_comm, hden,
    ofRatio_mul_right _ _ _ (Nat.mul_pos (Nat.two_pow_pos _) (Nat.two_pow_pos _))]
  rfl

theorem div_ofNat {m n : Nat} (hm : (ofNat m : Binary F).units = m * 2 ^ F.unitExponent)
    (hn : (ofNat n : Binary F).units = n * 2 ^ F.unitExponent) :
    (ofNat m / ofNat n : Binary F) = ofRatio false m n := by
  change ofRatio _ (ofNat m : Binary F).units (ofNat n : Binary F).units = _
  rw [hm, hn, ofRatio_mul_right _ _ _ (Nat.two_pow_pos _)]
  rfl

/-! ## In the 64-bit format -/

theorem unitExponent_double : Format.double.unitExponent = 1074 := by decide

theorem units_infinity : Format.double.units Format.double.infinity = 2 ^ 2098 := by
  decide +kernel

theorem lt_two_pow_of_le {n i j : Nat} (h : n < 2 ^ i) (hij : i ≤ j) : n < 2 ^ j :=
  h.trans_le (Nat.pow_le_pow_right Nat.two_pos hij)

theorem units_ofNat_of_lt {M t : Nat} (hM : M < 2 ^ 53) (ht : t ≤ 900) :
    (ofNat (M * 2 ^ t) : Binary64).units = M * 2 ^ t * 2 ^ Format.double.unitExponent := by
  have hlt : M * 2 ^ t * 2 ^ Format.double.unitExponent
      < 2 ^ (53 + t + Format.double.unitExponent) := by
    rw [Nat.pow_add, Nat.pow_add]
    exact Nat.mul_lt_mul_of_pos_right (Nat.mul_lt_mul_of_pos_right hM (Nat.two_pow_pos _))
      (Nat.two_pow_pos _)
  refine units_ofNat hM (Nat.lt_of_lt_of_eq (lt_two_pow_of_le hlt ?_) units_infinity.symm)
  rw [unitExponent_double]
  omega

theorem units_ofNat_pow_ten {k : Nat} (hk : k ≤ 22) :
    (ofNat (10 ^ k) : Binary64).units = 10 ^ k * 2 ^ Format.double.unitExponent := by
  have hfive : 5 ^ k < 2 ^ 53 :=
    Nat.lt_of_le_of_lt (Nat.pow_le_pow_right (by omega) hk) (by decide)
  have hten : 10 ^ k = 5 ^ k * 2 ^ k := by rw [← Nat.mul_pow]
  rw [hten]
  exact units_ofNat_of_lt hfive (by omega)

/-- A quotient below a power of two, on the scale of the units. -/
theorem mul_two_pow_unitExponent_lt {num den k : Nat} (h : num < 2 ^ k * den) :
    num * 2 ^ Format.double.unitExponent
      < 2 ^ (Format.double.fractionBits + (k + 1021) + 1) * den := by
  have hexponent : Format.double.fractionBits + (k + 1021) + 1
      = k + Format.double.unitExponent := by
    rw [unitExponent_double]
    change 52 + _ + 1 = _
    omega
  rw [hexponent, Nat.pow_add, Nat.mul_right_comm]
  exact Nat.mul_lt_mul_of_pos_right h (Nat.two_pow_pos _)

theorem isFinite_ofRatio {negative : Bool} {num den k : Nat} (hden : 0 < den)
    (h : num < 2 ^ k * den) (hk : k ≤ 1023) : (ofRatio negative num den : Binary64).isFinite := by
  have hle := Format.nearestUnits_le_of_lt hden (mul_two_pow_unitExponent_lt h)
  have hlast : 2046 * 2 ^ Format.double.fractionBits < Format.double.infinity := by
    decide +kernel
  rw [isFinite, decide_eq_true_iff, magnitude_ofRatio, Format.nearest_eq]
  exact hle.trans_lt ((Nat.mul_le_mul_right _ (by omega)).trans_lt hlast)

theorem units_ofNat_le {n k : Nat} (h : n < 2 ^ k) :
    (ofNat n : Binary64).units ≤ 2 ^ (k + Format.double.unitExponent) := by
  have hle := Format.units_nearestUnits_le Nat.one_pos
    (mul_two_pow_unitExponent_lt (h.trans_eq (Nat.mul_one _).symm : n < 2 ^ k * 1))
  rw [units, ofNat, magnitude_ofRatio, Format.nearest_eq]
  refine hle.trans_eq (congrArg (2 ^ ·) ?_)
  rw [unitExponent_double]
  change 52 + _ + 1 = _
  omega

theorem negative_mul_ofNat (x : Binary F) (n : Nat) : (x * ofNat n).negative = x.negative := by
  change (ofRatio (x.negative != (ofNat n : Binary F).negative) _ _ : Binary F).negative = _
  rw [negative_ofRatio, ofNat, negative_ofRatio, Bool.bne_false]

theorem negative_div_ofNat (x : Binary F) (n : Nat) : (x / ofNat n).negative = x.negative := by
  change (ofRatio (x.negative != (ofNat n : Binary F).negative) _ _ : Binary F).negative = _
  rw [negative_ofRatio, ofNat, negative_ofRatio, Bool.bne_false]

/-- Values of one sign are told apart by their units. -/
theorem signedUnits_inj {x y : Binary F} (h : x.negative = y.negative) :
    x.signedUnits = y.signedUnits ↔ x = y := by
  refine ⟨fun hunits => ?_, fun heq => heq ▸ rfl⟩
  rw [signedUnits, signedUnits, h] at hunits
  have hmagnitude : F.units x.magnitude = F.units y.magnitude := by
    cases hy : y.negative <;> rw [hy] at hunits <;>
      simp only [Bool.false_eq_true, if_true, if_false, units] at hunits <;> omega
  exact Binary.ext h ((F.units_inj).mp hmagnitude)

/-- The values are the same number, whatever the sign of zero. -/
def SameNumber (x y : Binary F) : Prop := x.signedUnits = y.signedUnits

theorem rel_sameNumber_iff {x y : Option (Binary F)} :
    Option.Rel SameNumber x y ↔ x.map signedUnits = y.map signedUnits := by
  cases x <;> cases y <;> simp [SameNumber]

/-- A product of whole numbers far inside the range of the format is finite. -/
theorem isFinite_mul_ofNat {m n j k : Nat} (hm : m < 2 ^ j) (hn : n < 2 ^ k)
    (hjk : j + k < 1023) : (ofNat m * ofNat n : Binary64).isFinite := by
  have hden : Nat.pow 2 (2 * Format.double.unitExponent)
      = 2 ^ Format.double.unitExponent * 2 ^ Format.double.unitExponent := by
    rw [Nat.pow_eq, Nat.two_mul, Nat.pow_add]
  have hpos : 0 < 2 ^ Format.double.unitExponent * 2 ^ Format.double.unitExponent :=
    Nat.mul_pos (Nat.two_pow_pos _) (Nat.two_pow_pos _)
  have hpow : 2 ^ (j + Format.double.unitExponent) * 2 ^ (k + Format.double.unitExponent)
      = 2 ^ (j + k) * (2 ^ Format.double.unitExponent * 2 ^ Format.double.unitExponent) := by
    rw [Nat.pow_add, Nat.pow_add, Nat.pow_add, Nat.mul_mul_mul_comm]
  change (ofRatio _ ((ofNat m : Binary64).units * (ofNat n : Binary64).units) _ : Binary64).isFinite
  rw [hden]
  refine isFinite_ofRatio (k := j + k + 1) hpos ?_ (by omega)
  refine ((Nat.mul_le_mul (units_ofNat_le hm) (units_ofNat_le hn)).trans_eq hpow).trans_lt ?_
  exact Nat.mul_lt_mul_of_pos_right (Nat.pow_lt_pow_succ (by omega)) hpos

end Binary

end RankedBars
