import Mathlib.Tactic.Ring
import RankedBars.Number.Shortest

/-!
# What rounds to a magnitude

A finite magnitude is `t * 2 ^ p + M`, where `p` is the number of fraction
bits and `M * 2 ^ t` is how many units it stands for. Written like this, the
rounding of a quotient to a magnitude and the definition of a magnitude are
the same sum, so what remains is which `t` the rounding picks.

It picks the right one, with a single exception, and that is the case to look
at: just below a power of two the values lie twice as close, so a quotient
between the last midpoint and the power is rounded on the finer grid. There it
is rounded up to the first point past the end, which is the same magnitude,
because that power of two is even and takes the tie.
-/

namespace RankedBars

/-- A quotient rounds to a number if it lies within half a unit of it, and a
number that is odd has to be nearer than that. -/
theorem roundHalfEven_eq {num den n : Nat} (hden : 0 < den)
    (hlow : 2 * (n * den) ≤ 2 * num + den) (hhigh : 2 * num ≤ 2 * (n * den) + den)
    (hodd : n % 2 = 1 → 2 * (n * den) < 2 * num + den ∧ 2 * num < 2 * (n * den) + den) :
    roundHalfEven num den = n := by
  have hmod := Nat.mod_lt num hden
  have hsum := Nat.div_add_mod' num den
  have hle : num / den ≤ n := by
    by_contra hlt
    have := Nat.mul_le_mul_right den (show n + 1 ≤ num / den by omega)
    rw [Nat.add_one_mul n] at this
    omega
  have hge : n ≤ num / den + 1 := by
    by_contra hlt
    have := Nat.mul_le_mul_right den (show num / den + 2 ≤ n by omega)
    rw [Nat.add_mul] at this
    omega
  rcases Nat.lt_or_eq_of_le hle with hlt | heq
  · have hn : n = num / den + 1 := by omega
    rw [hn, Nat.add_one_mul (num / den)] at hlow hodd
    dsimp only [roundHalfEven]
    rw [if_neg (by omega)]
    exact hn.symm
  · rw [← heq] at hhigh hodd
    dsimp only [roundHalfEven]
    rw [if_pos (by omega)]
    exact heq

theorem roundHalfEven_mul_mul_right (num den k : Nat) (hk : 0 < k) :
    roundHalfEven (num * k) (den * k) = roundHalfEven num den := by
  have hiff (a b : Nat) : a * k < b * k ↔ a < b := Nat.mul_lt_mul_right hk
  have heq (a b : Nat) : a * k = b * k ↔ a = b := Nat.mul_left_inj (by omega)
  dsimp only [roundHalfEven]
  rw [Nat.mul_div_mul_right _ _ hk, Nat.mul_mod_mul_right, ← Nat.mul_assoc]
  simp only [hiff, heq]

namespace Format

variable {F : Format}

/-! ## Units -/

theorem units_eq {t M : Nat} (hM : M < 2 ^ (F.fractionBits + 1))
    (hnormal : t = 0 ∨ 2 ^ F.fractionBits ≤ M) :
    F.units (t * 2 ^ F.fractionBits + M) = M * 2 ^ t := by
  have hpos := Nat.two_pow_pos F.fractionBits
  rw [pow_succ] at hM
  simp only [units, Nat.pow_eq]
  by_cases hlt : M < 2 ^ F.fractionBits
  · obtain rfl : t = 0 := by omega
    rw [Nat.zero_mul, Nat.zero_add, Nat.div_eq_of_lt hlt, if_pos rfl, Nat.mod_eq_of_lt hlt,
      Nat.pow_zero, Nat.mul_one]
  · obtain ⟨f, rfl⟩ : ∃ f, M = 2 ^ F.fractionBits + f := ⟨M - 2 ^ F.fractionBits, by omega⟩
    have hf : f < 2 ^ F.fractionBits := by omega
    have hsum : t * 2 ^ F.fractionBits + (2 ^ F.fractionBits + f)
        = f + 2 ^ F.fractionBits * (t + 1) := by ring
    rw [hsum, Nat.add_mul_div_left _ _ hpos, Nat.add_mul_mod_self_left, Nat.div_eq_of_lt hf,
      Nat.mod_eq_of_lt hf, Nat.zero_add, if_neg (Nat.succ_ne_zero t), Nat.add_sub_cancel]

/-- The end of a binade is the start of the next one. -/
theorem units_eq' {t M : Nat} (hM : M ≤ 2 ^ (F.fractionBits + 1))
    (hnormal : t = 0 ∨ 2 ^ F.fractionBits ≤ M) :
    F.units (t * 2 ^ F.fractionBits + M) = M * 2 ^ t := by
  rcases Nat.lt_or_eq_of_le hM with hlt | rfl
  · exact units_eq hlt hnormal
  · have hlt : 2 ^ F.fractionBits < 2 ^ (F.fractionBits + 1) :=
      Nat.pow_lt_pow_succ (by omega)
    have hnext := units_eq (F := F) (t := t + 1) hlt (.inr (Nat.le_refl _))
    have hsum : (t + 1) * 2 ^ F.fractionBits + 2 ^ F.fractionBits
        = t * 2 ^ F.fractionBits + 2 ^ (F.fractionBits + 1) := by ring
    rw [hsum] at hnext
    rw [hnext]
    ring

/-- Every magnitude is a whole number of units of some binade. -/
theorem exists_binade (F : Format) (m : Nat) : ∃ t M, m = t * 2 ^ F.fractionBits + M ∧
    M < 2 ^ (F.fractionBits + 1) ∧ (t = 0 ∨ 2 ^ F.fractionBits ≤ M) := by
  have hpos := Nat.two_pow_pos F.fractionBits
  have hmod := Nat.mod_lt m hpos
  have hsum := Nat.div_add_mod' m (2 ^ F.fractionBits)
  by_cases hzero : m / 2 ^ F.fractionBits = 0
  · rw [hzero] at hsum
    refine ⟨0, m, by omega, ?_, .inl rfl⟩
    rw [pow_succ]
    omega
  · obtain ⟨t, ht⟩ := Nat.exists_eq_succ_of_ne_zero hzero
    rw [ht, Nat.succ_mul] at hsum
    refine ⟨t, 2 ^ F.fractionBits + m % 2 ^ F.fractionBits, by omega, ?_, .inr (by omega)⟩
    rw [pow_succ]
    omega

/-- The magnitude below is in the same binade, or it is the last one of the
binade before. -/
theorem units_pred {t M : Nat} (hM : M < 2 ^ (F.fractionBits + 1))
    (hnormal : t = 0 ∨ 2 ^ F.fractionBits ≤ M) (hpos : 0 < t * 2 ^ F.fractionBits + M) :
    (∃ k, M = k + 1 ∧ (t = 0 ∨ 2 ^ F.fractionBits ≤ k) ∧
      F.units (t * 2 ^ F.fractionBits + M - 1) = k * 2 ^ t) ∨
    (∃ s, t = s + 1 ∧ M = 2 ^ F.fractionBits ∧
      F.units (t * 2 ^ F.fractionBits + M - 1) + 2 ^ s = M * 2 ^ t) := by
  have hposp := Nat.two_pow_pos F.fractionBits
  by_cases hsame : t = 0 ∨ 2 ^ F.fractionBits < M
  · have hMpos : 0 < M := by
      rcases hsame with rfl | hlt
      · omega
      · omega
    obtain ⟨k, rfl⟩ := Nat.exists_eq_succ_of_ne_zero hMpos.ne'
    refine .inl ⟨k, rfl, by omega, ?_⟩
    rw [Nat.succ_eq_add_one, ← Nat.add_assoc, Nat.add_sub_cancel]
    exact units_eq (by omega) (by omega)
  · obtain ⟨s, rfl⟩ := Nat.exists_eq_succ_of_ne_zero (show t ≠ 0 by omega)
    obtain rfl : M = 2 ^ F.fractionBits := by omega
    refine .inr ⟨s, rfl, rfl, ?_⟩
    obtain ⟨L, hL⟩ : ∃ L, 2 ^ (F.fractionBits + 1) = L + 1 :=
      ⟨2 ^ (F.fractionBits + 1) - 1, by omega⟩
    have hlast := units_eq (F := F) (t := s) (M := L) (by omega) (by rw [pow_succ] at hL; omega)
    have hindex : (s + 1) * 2 ^ F.fractionBits + 2 ^ F.fractionBits - 1
        = s * 2 ^ F.fractionBits + L := by
      rw [pow_succ] at hL
      rw [Nat.add_one_mul]
      omega
    rw [Nat.succ_eq_add_one, hindex, hlast, ← Nat.add_one_mul, ← hL]
    ring

theorem units_lt_succ (F : Format) (m : Nat) : F.units m < F.units (m + 1) := by
  obtain ⟨t, M, rfl, hM, hnormal⟩ := F.exists_binade m
  rw [Nat.add_assoc, units_eq' hM.le hnormal, units_eq' hM (by omega)]
  exact Nat.mul_lt_mul_of_pos_right (Nat.lt_succ_self M) (Nat.two_pow_pos t)

theorem units_strictMono (F : Format) {m n : Nat} (h : m < n) : F.units m < F.units n := by
  induction n, h using Nat.le_induction with
  | base => exact F.units_lt_succ m
  | succ n _ ih => exact Nat.lt_trans ih (F.units_lt_succ n)

theorem units_mono (F : Format) {m n : Nat} (h : m ≤ n) : F.units m ≤ F.units n := by
  rcases Nat.lt_or_eq_of_le h with hlt | heq
  · exact (F.units_strictMono hlt).le
  · rw [heq]

theorem units_inj (F : Format) {m n : Nat} : F.units m = F.units n ↔ m = n := by
  refine ⟨fun h => ?_, fun h => h ▸ rfl⟩
  rcases Nat.lt_trichotomy m n with hlt | heq | hgt
  · exact absurd h (F.units_strictMono hlt).ne
  · exact heq
  · exact absurd h (F.units_strictMono hgt).ne'

/-! ## Rounding to a magnitude -/

theorem nearestUnits_eq_min (num den : Nat) : F.nearestUnits num den =
    min (((num / den).log2 - F.fractionBits) * 2 ^ F.fractionBits
      + roundHalfEven num (den * 2 ^ ((num / den).log2 - F.fractionBits))) F.infinity := by
  simp only [nearestUnits, Nat.pow_eq]

theorem nearest_eq (num den : Nat) :
    F.nearest num den = F.nearestUnits (num * 2 ^ F.unitExponent) den := by
  rw [nearest, Nat.pow_eq]

/-- The exponent of a quotient below a power of two. -/
theorem log2_div_le {num den k : Nat} (hden : 0 < den) (h : num < 2 ^ (k + 1) * den) :
    (num / den).log2 ≤ k := by
  have hlt : num / den < 2 ^ (k + 1) := (Nat.div_lt_iff_lt_mul hden).mpr h
  by_cases hzero : num / den = 0
  · rw [hzero, Nat.log2_zero]
    omega
  · exact Nat.lt_succ_iff.mp ((Nat.log2_lt hzero).mpr hlt)

theorem le_log2_div {num den k : Nat} (hden : 0 < den) (h : 2 ^ k * den ≤ num) :
    k ≤ (num / den).log2 := by
  have hle : 2 ^ k ≤ num / den := (Nat.le_div_iff_mul_le hden).mpr h
  have hzero : num / den ≠ 0 := by
    have := Nat.two_pow_pos k
    omega
  exact (Nat.le_log2 hzero).mpr hle

/-- A quotient below the midpoint above `M` steps is not in a later binade. -/
theorem log2_div_le_of_midpoint {num den t M : Nat} (hden : 0 < den)
    (hM : M < 2 ^ (F.fractionBits + 1))
    (h : 2 * num ≤ 2 * (M * (den * 2 ^ t)) + den * 2 ^ t) :
    (num / den).log2 ≤ F.fractionBits + t := by
  refine log2_div_le hden ?_
  obtain ⟨D, hD⟩ : ∃ D, den * 2 ^ t = D := ⟨_, rfl⟩
  have hDpos : 0 < D := hD ▸ Nat.mul_pos hden (Nat.two_pow_pos t)
  have hend := Nat.mul_le_mul_right D (show M + 1 ≤ 2 ^ (F.fractionBits + 1) from hM)
  have hpow : 2 ^ (F.fractionBits + t + 1) * den = 2 ^ (F.fractionBits + 1) * D := by
    rw [← hD]
    ring
  rw [Nat.add_one_mul] at hend
  rw [hD] at h
  omega

theorem nearestUnits_of_step {num den t n : Nat}
    (hstep : (num / den).log2 - F.fractionBits = t)
    (hround : roundHalfEven num (den * 2 ^ t) = n)
    (hfinite : t * 2 ^ F.fractionBits + n ≤ F.infinity) :
    F.nearestUnits num den = t * 2 ^ F.fractionBits + n := by
  rw [nearestUnits_eq_min, hstep, hround]
  exact Nat.min_eq_left hfinite

/-- Between the midpoints around a magnitude whose neighbour below is in the
same binade. -/
theorem nearestUnits_inside {num den t k : Nat} (hden : 0 < den)
    (hk : t = 0 ∨ 2 ^ F.fractionBits ≤ k) (hM : k + 1 < 2 ^ (F.fractionBits + 1))
    (hfinite : t * 2 ^ F.fractionBits + (k + 1) ≤ F.infinity)
    (hlow : 2 * (k * (den * 2 ^ t)) + den * 2 ^ t ≤ 2 * num)
    (hhigh : 2 * num ≤ 2 * ((k + 1) * (den * 2 ^ t)) + den * 2 ^ t)
    (hodd : (k + 1) % 2 = 1 → 2 * (k * (den * 2 ^ t)) + den * 2 ^ t < 2 * num ∧
      2 * num < 2 * ((k + 1) * (den * 2 ^ t)) + den * 2 ^ t) :
    F.nearestUnits num den = t * 2 ^ F.fractionBits + (k + 1) := by
  have hlast := log2_div_le_of_midpoint hden hM hhigh
  have hfirst : 2 ^ (F.fractionBits + t) * den = 2 ^ F.fractionBits * (den * 2 ^ t) := by ring
  obtain ⟨D, hD⟩ : ∃ D, den * 2 ^ t = D := ⟨_, rfl⟩
  have hDpos : 0 < D := hD ▸ Nat.mul_pos hden (Nat.two_pow_pos t)
  rw [hD] at hlow hhigh hodd hfirst
  have hstep : (num / den).log2 - F.fractionBits = t := by
    rcases hk with rfl | hk
    · omega
    · have hle := Nat.mul_le_mul_right D hk
      have hlog : F.fractionBits + t ≤ (num / den).log2 := le_log2_div hden (by omega)
      omega
  refine nearestUnits_of_step hstep ?_ hfinite
  rw [Nat.add_one_mul k] at hhigh hodd
  rw [hD]
  refine roundHalfEven_eq hDpos ?_ ?_ fun hoddk => ?_
  all_goals rw [Nat.add_one_mul k]
  · omega
  · omega
  · have hstrict := hodd hoddk
    omega

/-- Between the midpoints around a power of two, below which the grid is finer.
-/
theorem nearestUnits_at_power {num den s : Nat} (hp : 0 < F.fractionBits) (hden : 0 < den)
    (hfinite : (s + 1) * 2 ^ F.fractionBits + 2 ^ F.fractionBits ≤ F.infinity)
    (hlow : 2 * (2 ^ F.fractionBits * (den * 2 ^ (s + 1))) ≤ 2 * num + den * 2 ^ s)
    (hhigh : 2 * num ≤ 2 * (2 ^ F.fractionBits * (den * 2 ^ (s + 1))) + den * 2 ^ (s + 1)) :
    F.nearestUnits num den = (s + 1) * 2 ^ F.fractionBits + 2 ^ F.fractionBits := by
  have hlast := log2_div_le_of_midpoint hden (Nat.pow_lt_pow_succ (by omega)) hhigh
  have hfirst : 2 ^ (F.fractionBits + (s + 1)) * den
      = 2 ^ F.fractionBits * (den * 2 ^ (s + 1)) := by ring
  have hfiner : 2 ^ (F.fractionBits + s) * den = 2 ^ F.fractionBits * (den * 2 ^ s) := by ring
  have heven : 2 ^ F.fractionBits % 2 = 0 :=
    Nat.mod_eq_zero_of_dvd (dvd_pow_self 2 hp.ne')
  have hpower := Nat.two_pow_pos F.fractionBits
  have hhalf : den * 2 ^ (s + 1) = 2 * (den * 2 ^ s) := by ring
  have hmiddle : 2 ^ F.fractionBits * (den * 2 ^ (s + 1))
      = 2 * (2 ^ F.fractionBits * (den * 2 ^ s)) := by ring
  have hle : den * 2 ^ s ≤ 2 ^ F.fractionBits * (den * 2 ^ s) :=
    Nat.le_mul_of_pos_left _ hpower
  have hEpos : 0 < den * 2 ^ s := Nat.mul_pos hden (Nat.two_pow_pos s)
  by_cases hin : 2 ^ F.fractionBits * (den * 2 ^ (s + 1)) ≤ num
  · have hlog : F.fractionBits + (s + 1) ≤ (num / den).log2 := le_log2_div hden (by omega)
    refine nearestUnits_of_step (by omega) ?_ hfinite
    exact roundHalfEven_eq (by omega) (by omega) hhigh fun h => absurd h (by omega)
  · -- On the finer grid the power of two is the end of the binade.
    have hlog : F.fractionBits + s ≤ (num / den).log2 := le_log2_div hden (by omega)
    have hlog' : (num / den).log2 ≤ F.fractionBits + s := by
      refine log2_div_le hden ?_
      rw [Nat.add_assoc]
      omega
    have hsame : s * 2 ^ F.fractionBits + 2 * 2 ^ F.fractionBits
        = (s + 1) * 2 ^ F.fractionBits + 2 ^ F.fractionBits := by ring
    rw [← hsame] at hfinite ⊢
    refine nearestUnits_of_step (by omega) ?_ hfinite
    refine roundHalfEven_eq hEpos ?_ ?_ fun h => absurd h (by omega)
    all_goals rw [Nat.mul_assoc]
    all_goals omega

/-- A magnitude is the nearest one to every quotient between the midpoints to
its neighbours. -/
theorem nearestUnits_eq {m num den : Nat} (hp : 0 < F.fractionBits) (hm : 0 < m)
    (hfinite : m < F.infinity) (hden : 0 < den)
    (hlow : (F.units (m - 1) + F.units m) * den ≤ 2 * num)
    (hhigh : 2 * num ≤ (F.units m + F.units (m + 1)) * den)
    (hodd : m % 2 = 1 → (F.units (m - 1) + F.units m) * den < 2 * num ∧
      2 * num < (F.units m + F.units (m + 1)) * den) :
    F.nearestUnits num den = m := by
  obtain ⟨t, M, rfl, hM, hnormal⟩ := F.exists_binade m
  have hparity : (t * 2 ^ F.fractionBits + M) % 2 = M % 2 := by
    obtain ⟨P, hP⟩ := (dvd_pow_self 2 hp.ne').mul_left t
    rw [hP]
    omega
  have hself := units_eq hM hnormal
  have hnext := units_eq' (F := F) (t := t) (M := M + 1) hM (by omega)
  have habove : (M * 2 ^ t + (M + 1) * 2 ^ t) * den = 2 * (M * (den * 2 ^ t)) + den * 2 ^ t := by
    ring
  rw [hself, Nat.add_assoc, hnext, habove] at hhigh hodd
  rw [hself] at hlow
  rw [hparity] at hodd
  rcases units_pred hM hnormal hm with ⟨k, rfl, hk, hpred⟩ | ⟨s, rfl, rfl, hpred⟩
  · have hbelow : (F.units (t * 2 ^ F.fractionBits + (k + 1) - 1) + (k + 1) * 2 ^ t) * den
        = 2 * (k * (den * 2 ^ t)) + den * 2 ^ t := by
      rw [hpred]
      ring
    rw [hbelow] at hlow hodd
    exact nearestUnits_inside hden hk hM hfinite.le hlow hhigh hodd
  · have hbelow : (F.units ((s + 1) * 2 ^ F.fractionBits + 2 ^ F.fractionBits - 1)
        + 2 ^ F.fractionBits * 2 ^ (s + 1)) * den + den * 2 ^ s
        = 2 * (2 ^ F.fractionBits * (den * 2 ^ (s + 1))) := calc
      _ = (F.units ((s + 1) * 2 ^ F.fractionBits + 2 ^ F.fractionBits - 1) + 2 ^ s
            + 2 ^ F.fractionBits * 2 ^ (s + 1)) * den := by ring
      _ = _ := by
        rw [hpred]
        ring
    exact nearestUnits_at_power hp hden hfinite.le (by omega) hhigh

theorem nearestUnits_mul_right (num den : Nat) {k : Nat} (hk : 0 < k) :
    F.nearestUnits (num * k) (den * k) = F.nearestUnits num den := by
  rw [nearestUnits_eq_min, nearestUnits_eq_min, Nat.mul_div_mul_right _ _ hk,
    Nat.mul_right_comm, roundHalfEven_mul_mul_right _ _ _ hk]

/-- A number of units with few significant bits is not rounded. -/
theorem units_nearestUnits {M t : Nat} (hM : M < 2 ^ (F.fractionBits + 1))
    (hfinite : M * 2 ^ t < F.units F.infinity) :
    F.units (F.nearestUnits (M * 2 ^ t) 1) = M * 2 ^ t := by
  obtain ⟨n, hn⟩ : ∃ n, M * 2 ^ t = n := ⟨_, rfl⟩
  obtain ⟨s, hs⟩ : ∃ s, n.log2 - F.fractionBits = s := ⟨_, rfl⟩
  have hlog : n.log2 ≤ F.fractionBits + t := by
    rw [← Nat.div_one n]
    refine log2_div_le Nat.one_pos ?_
    have hlt := Nat.mul_lt_mul_of_pos_right hM (Nat.two_pow_pos t)
    rw [← hn, Nat.mul_one, Nat.add_right_comm, Nat.pow_add]
    exact hlt
  -- The step divides what is rounded, so nothing is.
  obtain ⟨k, hk⟩ : ∃ k, n = k * 2 ^ s := by
    refine ⟨M * 2 ^ (t - s), ?_⟩
    rw [Nat.mul_assoc, ← Nat.pow_add, Nat.sub_add_cancel (by omega), hn]
  have htop : k < 2 ^ (F.fractionBits + 1) := by
    refine Nat.lt_of_mul_lt_mul_right (a := 2 ^ s) ?_
    rw [← hk, ← Nat.pow_add]
    exact Nat.lt_log2_self.trans_le (Nat.pow_le_pow_right Nat.two_pos (by omega))
  have hnormal : s = 0 ∨ 2 ^ F.fractionBits ≤ k := by
    by_cases hzero : s = 0
    · exact .inl hzero
    · have hne : n ≠ 0 := by
        rintro rfl
        rw [Nat.log2_zero] at hs
        omega
      have hle : 2 ^ F.fractionBits * 2 ^ s ≤ k * 2 ^ s := by
        rw [← hk, ← Nat.pow_add]
        exact (Nat.pow_le_pow_right Nat.two_pos (by omega)).trans (Nat.log2_self_le hne)
      exact .inr (Nat.le_of_mul_le_mul_right hle (Nat.two_pow_pos s))
  have hunits := units_eq htop hnormal
  rw [← hk] at hunits
  have hlt : s * 2 ^ F.fractionBits + k < F.infinity := by
    by_contra hge
    rw [hn] at hfinite
    rcases Nat.lt_or_eq_of_le (Nat.le_of_not_lt hge) with hgt | heq
    · have := F.units_strictMono hgt
      omega
    · rw [heq] at hfinite
      omega
  rw [hn, nearestUnits_eq_min, Nat.div_one, hs, Nat.one_mul]
  nth_rewrite 1 [hk]
  rw [roundHalfEven_mul_right _ _ (Nat.two_pow_pos s), Nat.min_eq_left hlt.le, hunits]

/-- On the grid that rounding picks, a quotient takes at most all the bits of
the significand. -/
theorem div_step_lt (F : Format) (num den : Nat) :
    num / (den * 2 ^ ((num / den).log2 - F.fractionBits)) < 2 ^ (F.fractionBits + 1) := by
  rw [← Nat.div_div_eq_div_mul, Nat.div_lt_iff_lt_mul (Nat.two_pow_pos _), ← Nat.pow_add]
  exact Nat.lt_log2_self.trans_le (Nat.pow_le_pow_right Nat.two_pos (by omega))

/-- Unless it is subnormal it takes all of them. -/
theorem two_pow_le_div_step {num den : Nat} (hden : 0 < den)
    (h : 2 ^ F.fractionBits * den ≤ num) :
    2 ^ F.fractionBits ≤ num / (den * 2 ^ ((num / den).log2 - F.fractionBits)) := by
  have hlog : F.fractionBits ≤ (num / den).log2 := le_log2_div hden h
  have hne : num / den ≠ 0 := by
    have hpos := Nat.two_pow_pos F.fractionBits
    have hle := (Nat.le_div_iff_mul_le hden).mpr h
    omega
  rw [← Nat.div_div_eq_div_mul, Nat.le_div_iff_mul_le (Nat.two_pow_pos _), ← Nat.pow_add,
    Nat.add_sub_cancel' hlog]
  exact Nat.log2_self_le hne

/-- Rounding goes at most to the end of the binade. -/
theorem nearestUnits_le_of_lt {num den s : Nat} (hden : 0 < den)
    (h : num < 2 ^ (F.fractionBits + s + 1) * den) :
    F.nearestUnits num den ≤ (s + 2) * 2 ^ F.fractionBits := by
  have hlog := log2_div_le hden h
  have hquot := F.div_step_lt num den
  obtain ⟨r, hr⟩ : ∃ r, (num / den).log2 - F.fractionBits = r := ⟨_, rfl⟩
  rw [hr] at hquot
  rw [nearestUnits_eq_min, hr]
  refine (Nat.min_le_left _ _).trans ?_
  have hround := roundHalfEven_le_div_succ num (den * 2 ^ r)
  have hstep : r * 2 ^ F.fractionBits ≤ s * 2 ^ F.fractionBits :=
    Nat.mul_le_mul_right _ (by omega)
  rw [pow_succ] at hquot
  rw [Nat.add_mul]
  omega

/-- Rounding never passes a power of two. -/
theorem units_nearestUnits_le {num den s : Nat} (hden : 0 < den)
    (h : num < 2 ^ (F.fractionBits + s + 1) * den) :
    F.units (F.nearestUnits num den) ≤ 2 ^ (F.fractionBits + s + 1) := by
  have hlt : 2 ^ F.fractionBits < 2 ^ (F.fractionBits + 1) := Nat.pow_lt_pow_succ (by omega)
  have hend := units_eq (F := F) (t := s + 1) hlt (.inr (Nat.le_refl _))
  rw [← Nat.add_one_mul, ← Nat.pow_add] at hend
  exact (F.units_mono (nearestUnits_le_of_lt hden h)).trans_eq hend

end Format

end RankedBars
