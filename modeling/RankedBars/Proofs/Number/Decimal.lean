import Mathlib.Tactic.Ring
import RankedBars.Proofs.Number.Exact

/-!
# Decimals and their binary values

A decimal has many spellings: digits can be moved across the point, with the
exponent making up for it. `Decimal.toBinary` asks for the place of the
leading digit before it computes a power of ten, so that this does not change
its answer is a statement about that place too (`toBinary_shift`).
-/

namespace RankedBars

/-! ## Digits -/

theorem ofDigits_eq (digits : List Char) : ofDigits digits = Nat.ofDigitChars 10 digits 0 :=
  Nat.ofDigitChars_eq_foldl.symm

theorem ofDigits_append (high low : List Char) :
    ofDigits (high ++ low) = ofDigits high * 10 ^ low.length + ofDigits low := by
  rw [ofDigits_eq, Nat.ofDigitChars_append, Nat.ofDigitChars_eq_ofDigitChars_zero, ofDigits_eq,
    ofDigits_eq, Nat.mul_comm]

theorem ofDigits_toDigits (n : Nat) : ofDigits (Nat.toDigits 10 n) = n := by
  rw [ofDigits_eq, Nat.ofDigitChars_ten_toDigits]

theorem ofDigits_zeros (k : Nat) : ofDigits (List.replicate k '0') = 0 := by
  rw [ofDigits_eq, Nat.ofDigitChars_replicate_zero, Nat.mul_zero]

/-- The digits of a number start with none that it could do without. -/
theorem head?_toDigits {n : Nat} (hn : n ≠ 0) : (Nat.toDigits 10 n).head? ≠ some '0' := by
  induction n using Nat.strong_induction_on with
  | h n ih =>
      by_cases hlt : n < 10
      · have hdigit : ∀ m < 10, m ≠ 0 → [Nat.digitChar m].head? ≠ some '0' := by decide
        rw [Nat.toDigits_of_lt_base hlt]
        exact hdigit n hlt hn
      · obtain ⟨c, digits, hcons⟩ := List.exists_cons_of_ne_nil
          (Nat.toDigits_ne_nil : Nat.toDigits 10 (n / 10) ≠ [])
        have hhead := ih (n / 10) (Nat.div_lt_self (by omega) (by omega)) (by omega)
        rw [Nat.toDigits_of_base_le (by omega) (Nat.le_of_not_lt hlt), hcons]
        rwa [hcons] at hhead

theorem digitCount_le_iff {n k : Nat} : digitCount n ≤ k ↔ n < 10 ^ k := by
  fun_induction digitCount n generalizing k with
  | case1 => exact iff_of_true (Nat.zero_le k) (Nat.pow_pos (by omega))
  | case2 n hn ih =>
      cases k with
      | zero => rw [Nat.pow_zero]; omega
      | succ k => rw [Nat.add_le_add_iff_right, ih, Nat.div_lt_iff_lt_mul (by omega), pow_succ]

/-- The leading digit is not zero. -/
theorem ten_pow_digitCount_le {n : Nat} (hn : n ≠ 0) :
    0 < digitCount n ∧ 10 ^ (digitCount n - 1) ≤ n := by
  have hpos : 0 < digitCount n := by
    by_contra hzero
    have := digitCount_le_iff.mp (Nat.le_of_not_lt hzero)
    omega
  refine ⟨hpos, ?_⟩
  by_contra hlt
  have := digitCount_le_iff.mpr (Nat.lt_of_not_le hlt)
  omega

theorem digitCount_mul_ten_pow {n : Nat} (hn : n ≠ 0) (k : Nat) :
    digitCount (n * 10 ^ k) = digitCount n + k := by
  induction k with
  | zero => rw [Nat.pow_zero, Nat.mul_one, Nat.add_zero]
  | succ k ih =>
      have hpos : n * 10 ^ (k + 1) ≠ 0 := Nat.mul_ne_zero hn (Nat.pow_pos (by omega)).ne'
      rw [digitCount, if_neg hpos, pow_succ, ← Nat.mul_assoc, Nat.mul_div_cancel _ (by omega), ih,
        Nat.add_assoc]

/-! ## Values -/

theorem Binary.ofRatio_congr {F : Format} {negative : Bool} {num den num' den' : Nat}
    (hden : 0 < den) (hden' : 0 < den') (h : num * den' = num' * den) :
    (ofRatio negative num den : Binary F) = ofRatio negative num' den' := by
  rw [← ofRatio_mul_right negative num den hden', h, Nat.mul_comm den den',
    ofRatio_mul_right negative num' den' hden]

namespace Decimal

theorem toBinary_zero (negative : Bool) (exponent : Int) :
    (⟨negative, 0, exponent⟩ : Decimal).toBinary = .ofRatio negative 0 1 := by
  rw [toBinary]
  exact if_pos (.inl rfl)

theorem negative_toBinary (d : Decimal) : d.toBinary.negative = d.negative := by
  rw [toBinary]
  dsimp only
  split
  · exact Binary.negative_ofRatio _ _ _
  · split
    · rfl
    · split <;> exact Binary.negative_ofRatio _ _ _

/-- Within the range of the format the power of ten is computed, as the
numerator or as the denominator. -/
theorem toBinary_eq {negative : Bool} {digits : Nat} {exponent : Int} (hdigits : digits ≠ 0)
    (hlow : -330 ≤ (digitCount digits : Int) + exponent)
    (hhigh : (digitCount digits : Int) + exponent ≤ 310) :
    (⟨negative, digits, exponent⟩ : Decimal).toBinary
      = .ofRatio negative (digits * 10 ^ exponent.toNat) (10 ^ (-exponent).toNat) := by
  dsimp only [toBinary]
  rw [if_neg (by omega), if_neg (by omega)]
  by_cases hup : 0 ≤ exponent
  · have hden : (-exponent).toNat = 0 := by omega
    rw [if_pos hup, hden, Nat.pow_zero, Nat.pow_eq]
  · have hnum : exponent.toNat = 0 := by omega
    rw [if_neg hup, hnum, Nat.pow_zero, Nat.mul_one, Nat.pow_eq]

/-- Digits may be moved across the point. -/
theorem toBinary_shift (negative : Bool) (digits : Nat) (exponent : Int) (k : Nat) :
    (⟨negative, digits * 10 ^ k, exponent - k⟩ : Decimal).toBinary
      = (⟨negative, digits, exponent⟩ : Decimal).toBinary := by
  by_cases hzero : digits = 0
  · rw [hzero, Nat.zero_mul, toBinary_zero, toBinary_zero]
  have hpos : digits * 10 ^ k ≠ 0 := Nat.mul_ne_zero hzero (Nat.pow_pos (by omega)).ne'
  have hplace : (digitCount (digits * 10 ^ k) : Int) + (exponent - k)
      = digitCount digits + exponent := by
    rw [digitCount_mul_ten_pow hzero]
    omega
  by_cases hlow : (digitCount digits : Int) + exponent < -330
  · rw [toBinary, toBinary, hplace]
    dsimp only
    rw [if_pos (.inr hlow), if_pos (.inr hlow)]
  by_cases hhigh : 310 < (digitCount digits : Int) + exponent
  · rw [toBinary, toBinary, hplace]
    dsimp only
    rw [if_neg (by omega), if_pos hhigh, if_neg (by omega), if_pos hhigh]
  rw [toBinary_eq hpos (by omega) (by omega), toBinary_eq hzero (by omega) (by omega)]
  refine Binary.ofRatio_congr (Nat.pow_pos (by omega)) (Nat.pow_pos (by omega)) ?_
  have hexponents : k + (exponent - k).toNat + (-exponent).toNat
      = exponent.toNat + (-(exponent - k)).toNat := by omega
  calc digits * 10 ^ k * 10 ^ (exponent - k).toNat * 10 ^ (-exponent).toNat
      = digits * 10 ^ (k + (exponent - k).toNat + (-exponent).toNat) := by ring
    _ = digits * 10 ^ exponent.toNat * 10 ^ (-(exponent - k)).toNat := by rw [hexponents]; ring

theorem neg_toBinary (digits : Nat) (exponent : Int) :
    -(⟨false, digits, exponent⟩ : Decimal).toBinary
      = (⟨true, digits, exponent⟩ : Decimal).toBinary := by
  dsimp only [toBinary]
  split
  · rfl
  · split
    · rfl
    · split <;> rfl

/-- A decimal that is zero or has few digits and a small exponent is far
inside the range. -/
theorem toBinary_of_short {negative : Bool} {digits : Nat} {exponent : Int}
    (hdigits : digits < 2 ^ 53) (hexponent : exponent.natAbs ≤ 22) :
    (⟨negative, digits, exponent⟩ : Decimal).toBinary
      = .ofRatio negative (digits * 10 ^ exponent.toNat) (10 ^ (-exponent).toNat) := by
  by_cases hzero : digits = 0
  · rw [hzero, toBinary_zero, Nat.zero_mul]
    exact Binary.ofRatio_congr Nat.one_pos (Nat.pow_pos (by omega)) (by omega)
  · have hcount : digitCount digits ≤ 16 := digitCount_le_iff.mpr (hdigits.trans (by decide))
    exact toBinary_eq hzero (by omega) (by omega)

end Decimal

end RankedBars
