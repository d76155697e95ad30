import RankedBars.Proofs.Number.Exact

/-!
# Rounding keeps the order

A larger quotient does not round to a smaller magnitude. Inside a binade that
is a property of the division, and between two binades it is enough that
rounding stays within the one it is in, its two ends included.

What is not rounded then bounds what is: a quotient on one side of a value
rounds to that side or to the value. Where no such value is at hand there is
the relative bound. One rounding takes a quotient up by at most one part in
`2 ^ (p + 1)`, with `p` fraction bits, and a product of rounded factors adds
one rounding to theirs (`AtMost`).
-/

namespace RankedBars

namespace Format

variable {F : Format} {num num' den : Nat}

theorem units_zero (F : Format) : F.units 0 = 0 := by simp [units]

theorem nearestUnits_zero (F : Format) (hden : 0 < den) : F.nearestUnits 0 den = 0 := by
  simp [nearestUnits, roundHalfEven, hden]

/-- What a quotient is rounded to on its grid is a magnitude. -/
theorem units_step (F : Format) (num : Nat) (hden : 0 < den) :
    F.units (((num / den).log2 - F.fractionBits) * 2 ^ F.fractionBits
      + roundHalfEven num (den * 2 ^ ((num / den).log2 - F.fractionBits)))
    = roundHalfEven num (den * 2 ^ ((num / den).log2 - F.fractionBits))
      * 2 ^ ((num / den).log2 - F.fractionBits) := by
  have hlow := div_le_roundHalfEven num (den * 2 ^ ((num / den).log2 - F.fractionBits))
  have hhigh := roundHalfEven_le_div_succ num (den * 2 ^ ((num / den).log2 - F.fractionBits))
  have hlt := F.div_step_lt num den
  refine units_eq' (by omega) ?_
  by_cases hzero : (num / den).log2 - F.fractionBits = 0
  · exact .inl hzero
  · have hne : num / den ≠ 0 := by
      intro h
      rw [h, Nat.log2_zero] at hzero
      omega
    have hnormal : 2 ^ F.fractionBits * den ≤ num := by
      rw [← Nat.le_div_iff_mul_le hden]
      exact (Nat.pow_le_pow_right Nat.two_pos (by omega)).trans (Nat.log2_self_le hne)
    exact .inr ((two_pow_le_div_step hden hnormal).trans hlow)

/-- Rounding goes at least to the start of the binade. -/
theorem le_nearestUnits_of_le {s : Nat} (hden : 0 < den)
    (h : 2 ^ (F.fractionBits + s) * den ≤ num) :
    min ((s + 1) * 2 ^ F.fractionBits) F.infinity ≤ F.nearestUnits num den := by
  have hlog := le_log2_div hden h
  have hquot : 2 ^ F.fractionBits ≤ num / (den * 2 ^ ((num / den).log2 - F.fractionBits)) :=
    two_pow_le_div_step hden ((Nat.mul_le_mul_right _
      (Nat.pow_le_pow_right Nat.two_pos (Nat.le_add_right _ _))).trans h)
  have hround := div_le_roundHalfEven num (den * 2 ^ ((num / den).log2 - F.fractionBits))
  have hstep : s * 2 ^ F.fractionBits
      ≤ ((num / den).log2 - F.fractionBits) * 2 ^ F.fractionBits :=
    Nat.mul_le_mul_right _ (by omega)
  rw [nearestUnits_eq_min, Nat.add_one_mul]
  omega

theorem nearestUnits_mono_left (hden : 0 < den) (h : num ≤ num') :
    F.nearestUnits num den ≤ F.nearestUnits num' den := by
  obtain ⟨t, ht⟩ : ∃ t, (num / den).log2 - F.fractionBits = t := ⟨_, rfl⟩
  obtain ⟨t', ht'⟩ : ∃ t', (num' / den).log2 - F.fractionBits = t' := ⟨_, rfl⟩
  have hdiv : num / den ≤ num' / den := Nat.div_le_div_right h
  have hlog : (num / den).log2 ≤ (num' / den).log2 := by
    by_cases hzero : num / den = 0
    · rw [hzero, Nat.log2_zero]
      exact Nat.zero_le _
    · have hne : num' / den ≠ 0 := ((Nat.pos_of_ne_zero hzero).trans_le hdiv).ne'
      exact (Nat.le_log2 hne).mpr ((Nat.log2_self_le hzero).trans hdiv)
  have hstep : t ≤ t' := by
    rw [← ht, ← ht']
    exact Nat.sub_le_sub_right hlog _
  rcases Nat.lt_or_eq_of_le hstep with hlt | rfl
  · have hend : num < 2 ^ (F.fractionBits + t + 1) * den := by
      rw [← Nat.div_lt_iff_lt_mul hden]
      exact Nat.lt_log2_self.trans_le (Nat.pow_le_pow_right Nat.two_pos (by omega))
    have hstart : 2 ^ (F.fractionBits + (t + 1)) * den ≤ num' := by
      rw [← Nat.le_div_iff_mul_le hden]
      refine (Nat.pow_le_pow_right Nat.two_pos ?_).trans (Nat.log2_self_le (n := num' / den) ?_)
      · omega
      · rintro hzero
        rw [hzero, Nat.log2_zero] at ht'
        omega
    exact (Nat.le_min.mpr ⟨nearestUnits_le_of_lt hden hend, F.nearestUnits_le _ _⟩).trans
      (le_nearestUnits_of_le hden hstart)
  · rw [nearestUnits_eq_min, nearestUnits_eq_min, ht, ht']
    exact min_le_min (Nat.add_le_add_left (roundHalfEven_mono _ h) _) (Nat.le_refl _)

/-- Rounding is monotone in the quotient. -/
theorem nearestUnits_mono {a b c d : Nat} (hb : 0 < b) (hd : 0 < d) (h : a * d ≤ c * b) :
    F.nearestUnits a b ≤ F.nearestUnits c d := calc
  _ = F.nearestUnits (a * d) (b * d) := (nearestUnits_mul_right a b hd).symm
  _ ≤ F.nearestUnits (c * b) (b * d) := nearestUnits_mono_left (Nat.mul_pos hb hd) h
  _ = F.nearestUnits (c * b) (d * b) := by rw [Nat.mul_comm b d]
  _ = _ := nearestUnits_mul_right c d hb

/-- A quotient up to a value rounds to no more than the value. -/
theorem units_nearestUnits_le_of_le {M t : Nat} (hden : 0 < den)
    (hM : M < 2 ^ (F.fractionBits + 1)) (hfinite : M * 2 ^ t < F.units F.infinity)
    (h : num ≤ M * 2 ^ t * den) : F.units (F.nearestUnits num den) ≤ M * 2 ^ t := by
  rw [← units_nearestUnits hM hfinite]
  exact F.units_mono (nearestUnits_mono hden Nat.one_pos (by rwa [Nat.mul_one]))

/-- A quotient from a value on rounds to no less than the value. -/
theorem le_units_nearestUnits_of_le {M t : Nat} (hden : 0 < den)
    (hM : M < 2 ^ (F.fractionBits + 1)) (hfinite : M * 2 ^ t < F.units F.infinity)
    (h : M * 2 ^ t * den ≤ num) : M * 2 ^ t ≤ F.units (F.nearestUnits num den) := by
  rw [← units_nearestUnits hM hfinite]
  exact F.units_mono (nearestUnits_mono Nat.one_pos hden (by rwa [Nat.mul_one]))

/-- A quotient in the range of the normal values is rounded up by at most half
a unit in the last place. -/
theorem two_pow_mul_units_nearestUnits_le (hden : 0 < den) (h : 2 ^ F.fractionBits * den ≤ num) :
    2 ^ (F.fractionBits + 1) * (F.units (F.nearestUnits num den) * den)
      ≤ (2 ^ (F.fractionBits + 1) + 1) * num := by
  have hnormal := two_pow_le_div_step hden h
  have hstep := F.units_step num hden
  have hmin := Nat.min_le_left (((num / den).log2 - F.fractionBits) * 2 ^ F.fractionBits
    + roundHalfEven num (den * 2 ^ ((num / den).log2 - F.fractionBits))) F.infinity
  rw [← nearestUnits_eq_min] at hmin
  generalize (num / den).log2 - F.fractionBits = t at hnormal hstep hmin
  have hround := two_mul_roundHalfEven_mul_le num (den * 2 ^ t)
  have hunit := (Nat.le_div_iff_mul_le (Nat.mul_pos hden (Nat.two_pow_pos t))).mp hnormal
  generalize roundHalfEven num (den * 2 ^ t) = M at hstep hmin hround
  calc
    _ ≤ 2 ^ (F.fractionBits + 1) * (M * 2 ^ t * den) :=
      Nat.mul_le_mul_left _ (Nat.mul_le_mul_right _ ((F.units_mono hmin).trans_eq hstep))
    _ = 2 ^ F.fractionBits * (2 * (M * (den * 2 ^ t))) := by ring
    _ ≤ 2 ^ F.fractionBits * (2 * num + den * 2 ^ t) := Nat.mul_le_mul_left _ hround
    _ = 2 ^ (F.fractionBits + 1) * num + 2 ^ F.fractionBits * (den * 2 ^ t) := by ring
    _ ≤ 2 ^ (F.fractionBits + 1) * num + num := Nat.add_le_add_left hunit _
    _ = _ := by ring

/-- A quotient is rounded down by at most half a unit in the last place of a
binade that it has not passed. -/
theorem two_mul_le_two_mul_units_nearestUnits {t : Nat} (hden : 0 < den)
    (hfinite : (t + 2) * 2 ^ F.fractionBits ≤ F.infinity)
    (h : num < 2 ^ (F.fractionBits + t + 1) * den) :
    2 * num ≤ 2 * (F.units (F.nearestUnits num den) * den) + den * 2 ^ t := by
  have hlog := log2_div_le hden h
  have hlt := F.div_step_lt num den
  have hstep := F.units_step num hden
  have hle : (num / den).log2 - F.fractionBits ≤ t := by omega
  rw [nearestUnits_eq_min]
  generalize (num / den).log2 - F.fractionBits = r at hlt hstep hle ⊢
  have hround := two_mul_le_roundHalfEven_mul num (den * 2 ^ r)
    (Nat.mul_pos hden (Nat.two_pow_pos r))
  have hhigh := roundHalfEven_le_div_succ num (den * 2 ^ r)
  generalize roundHalfEven num (den * 2 ^ r) = M at hstep hround hhigh ⊢
  have hgrid : r * 2 ^ F.fractionBits ≤ t * 2 ^ F.fractionBits := Nat.mul_le_mul_right _ hle
  rw [pow_succ] at hlt
  rw [Nat.add_mul] at hfinite
  rw [Nat.min_eq_left (by omega), hstep]
  calc
    _ ≤ 2 * (M * (den * 2 ^ r)) + den * 2 ^ r := hround
    _ ≤ 2 * (M * (den * 2 ^ r)) + den * 2 ^ t :=
      Nat.add_le_add_left (Nat.mul_le_mul_left _ (Nat.pow_le_pow_right Nat.two_pos hle)) _
    _ = _ := by ring

end Format

namespace Binary

variable {F : Format} {x y x' y' : Binary F}

theorem units_ofRatio (negative : Bool) (num den : Nat) :
    (ofRatio negative num den : Binary F).units
      = F.units (F.nearestUnits (num * 2 ^ F.unitExponent) den) := by
  rw [units, magnitude_ofRatio, Format.nearest_eq]

theorem units_mul (x y : Binary F) : (x * y).units = F.units
    (F.nearestUnits (x.units * y.units) (2 ^ F.unitExponent)) := by
  have hden : Nat.pow 2 (2 * F.unitExponent) = 2 ^ F.unitExponent * 2 ^ F.unitExponent := by
    rw [Nat.pow_eq, Nat.two_mul, Nat.pow_add]
  change (ofRatio _ (x.units * y.units) _ : Binary F).units = _
  rw [units_ofRatio, hden, Format.nearestUnits_mul_right _ _ (Nat.two_pow_pos _)]

theorem units_div (x y : Binary F) : (x / y).units = F.units
    (F.nearestUnits (x.units * 2 ^ F.unitExponent) y.units) := by
  change (ofRatio _ x.units y.units : Binary F).units = _
  rw [units_ofRatio]

theorem units_ofNat_mono {m n : Nat} (h : m ≤ n) :
    (ofNat m : Binary F).units ≤ (ofNat n : Binary F).units := by
  rw [ofNat, ofNat, units_ofRatio, units_ofRatio]
  exact F.units_mono (Format.nearestUnits_mono_left Nat.one_pos (Nat.mul_le_mul_right _ h))

theorem units_mul_mono (hx : x.units ≤ x'.units) (hy : y.units ≤ y'.units) :
    (x * y).units ≤ (x' * y').units := by
  rw [units_mul, units_mul]
  exact F.units_mono (Format.nearestUnits_mono_left (Nat.two_pow_pos _) (Nat.mul_le_mul hx hy))

theorem units_div_mono (hy : 0 < y.units) (hx : x.units ≤ x'.units) :
    (x / y).units ≤ (x' / y).units := by
  rw [units_div, units_div]
  exact F.units_mono (Format.nearestUnits_mono_left hy (Nat.mul_le_mul_right _ hx))

/-! ## How much roundings add -/

/-- A value is not above `num / den` by more than this many roundings can add.
-/
def AtMost (roundings : Nat) (x : Binary F) (num den : Nat) : Prop :=
  (2 ^ (F.fractionBits + 1)) ^ roundings * (x.units * den)
    ≤ (2 ^ (F.fractionBits + 1) + 1) ^ roundings * (num * 2 ^ F.unitExponent)

namespace AtMost

theorem ofRatio (negative : Bool) {num den : Nat} (hden : 0 < den)
    (hnormal : 2 ^ F.fractionBits * den ≤ num * 2 ^ F.unitExponent) :
    AtMost 1 (ofRatio negative num den : Binary F) num den := by
  rw [AtMost, Nat.pow_one, Nat.pow_one, units_ofRatio]
  exact Format.two_pow_mul_units_nearestUnits_le hden hnormal

theorem mul {i j a b c d : Nat} (hx : AtMost i x a b) (hy : AtMost j y c d)
    (hnormal : 2 ^ F.fractionBits * 2 ^ F.unitExponent ≤ x.units * y.units) :
    AtMost (i + j + 1) (x * y) (a * c) (b * d) := by
  have hround := Format.two_pow_mul_units_nearestUnits_le (Nat.two_pow_pos _) hnormal
  have hpos := Nat.two_pow_pos F.unitExponent
  rw [← units_mul] at hround
  rw [AtMost] at hx hy ⊢
  generalize 2 ^ (F.fractionBits + 1) = k, 2 ^ F.unitExponent = e at hx hy hround hpos ⊢
  refine Nat.le_of_mul_le_mul_right ?_ hpos
  calc
    _ = k * ((x * y).units * e) * (k ^ i * b * (k ^ j * d)) := by ring
    _ ≤ (k + 1) * (x.units * y.units) * (k ^ i * b * (k ^ j * d)) := Nat.mul_le_mul_right _ hround
    _ = (k + 1) * (k ^ i * (x.units * b) * (k ^ j * (y.units * d))) := by ring
    _ ≤ (k + 1) * ((k + 1) ^ i * (a * e) * ((k + 1) ^ j * (c * e))) :=
      Nat.mul_le_mul_left _ (Nat.mul_le_mul hx hy)
    _ = _ := by ring

end AtMost

end Binary

end RankedBars
