/-!
# Rounding exact quotients

Every rounding in this library is applied once, to an exact quotient of natural
numbers. Binary floating point and fixed decimals round to the nearest whole
number and send a half to the even neighbour; a bar's length sends a half up.
Nothing is ever rounded from a rounded value unless the arithmetic it stands for
does the same.
-/

namespace RankedBars

/-- The whole number nearest to `num / den`, a half going to the even neighbour.
-/
def roundHalfEven (num den : Nat) : Nat :=
  let whole := num / den
  let twice := 2 * (num % den)
  if twice < den ∨ twice = den ∧ whole % 2 = 0 then whole else whole + 1

/-- The whole number nearest to `num / den`, a half going up. -/
def roundHalfUp (num den : Nat) : Nat :=
  (2 * num + den) / (2 * den)

/-- The least whole number that is not below `num / den`. -/
def roundUp (num den : Nat) : Nat :=
  (num + (den - 1)) / den

theorem roundHalfEven_mul_right (n den : Nat) (h : 0 < den) : roundHalfEven (n * den) den = n := by
  simp [roundHalfEven, Nat.mul_div_cancel _ h, h]

theorem div_le_roundHalfEven (num den : Nat) : num / den ≤ roundHalfEven num den := by
  dsimp only [roundHalfEven]
  split <;> omega

theorem roundHalfEven_le_div_succ (num den : Nat) : roundHalfEven num den ≤ num / den + 1 := by
  dsimp only [roundHalfEven]
  split <;> omega

/-- A rounded quotient is at most half a unit too large. -/
theorem two_mul_roundHalfEven_mul_le (num den : Nat) :
    2 * (roundHalfEven num den * den) ≤ 2 * num + den := by
  have hsum := Nat.div_add_mod' num den
  have hsucc := Nat.add_one_mul (num / den) den
  dsimp only [roundHalfEven]
  split <;> omega

/-- A rounded quotient is at most half a unit too small. -/
theorem two_mul_le_roundHalfEven_mul (num den : Nat) (h : 0 < den) :
    2 * num ≤ 2 * (roundHalfEven num den * den) + den := by
  have hmod := Nat.mod_lt num h
  have hsum := Nat.div_add_mod' num den
  have hsucc := Nat.add_one_mul (num / den) den
  dsimp only [roundHalfEven]
  split <;> omega

theorem roundHalfEven_mono {a b : Nat} (den : Nat) (h : a ≤ b) :
    roundHalfEven a den ≤ roundHalfEven b den := by
  have hdiv := Nat.div_le_div_right (c := den) h
  rcases Nat.lt_or_eq_of_le hdiv with hlt | heq
  · exact Nat.le_trans (roundHalfEven_le_div_succ a den)
      (Nat.le_trans hlt (div_le_roundHalfEven b den))
  · have ha := Nat.div_add_mod' a den
    have hb := Nat.div_add_mod' b den
    rw [heq] at ha
    dsimp only [roundHalfEven]
    rw [heq]
    split <;> split <;> omega

theorem roundHalfUp_mono {a b : Nat} (den : Nat) (h : a ≤ b) :
    roundHalfUp a den ≤ roundHalfUp b den :=
  Nat.div_le_div_right (by omega)

theorem roundUp_le_iff {num den k : Nat} (h : 0 < den) : roundUp num den ≤ k ↔ num ≤ k * den := by
  rw [roundUp, Nat.div_le_iff_le_mul_add_pred h, Nat.mul_comm]
  omega

theorem roundUp_mono {a b : Nat} (den : Nat) (h : a ≤ b) : roundUp a den ≤ roundUp b den :=
  Nat.div_le_div_right (by omega)

end RankedBars
