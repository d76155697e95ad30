import RankedBars.Proofs.Number.Decimal

/-!
# Shortest decimals read back

The search for the shortest decimal asks of each candidate whether it lies
between the midpoints to the neighbouring values, which by `nearestUnits_eq`
is to ask whether it reads back. What is left is that the search finds one.
On the last grid that it tries, a step is less than half the distance to the
value below, so the grid point just below the value is past the midpoint; the
distance in question is at least a `2 ^ (p + 1)`-th of the value, where `p` is
the number of fraction bits, and the grid is `10 ^ (p + 1)` times finer than
the leading digit.
-/

namespace RankedBars

theorem stripZeros_ne_zero {digits : Nat} {exponent : Int} (h : digits ≠ 0) :
    (stripZeros digits exponent).1 ≠ 0 := by
  fun_induction stripZeros digits exponent with
  | case1 digits exponent hzero ih => exact ih (by omega)
  | case2 digits exponent _ => exact h

theorem toBinary_stripZeros (negative : Bool) (digits : Nat) (exponent : Int) :
    (⟨negative, (stripZeros digits exponent).1, (stripZeros digits exponent).2⟩ :
      Decimal).toBinary = (⟨negative, digits, exponent⟩ : Decimal).toBinary := by
  fun_induction stripZeros digits exponent with
  | case1 digits exponent hzero ih =>
      have hshift := Decimal.toBinary_shift negative (digits / 10) (exponent + 1) 1
      have hdigits : digits / 10 * 10 ^ 1 = digits := by omega
      have hexponent : exponent + 1 - (1 : Nat) = exponent := by omega
      rw [hdigits, hexponent] at hshift
      rw [ih, hshift]
  | case2 => rfl

theorem stripZeros_whole {digits : Nat} {exponent : Int} (h : 0 ≤ exponent) :
    0 ≤ (stripZeros digits exponent).2 ∧
      (stripZeros digits exponent).1 * 10 ^ (stripZeros digits exponent).2.toNat
        = digits * 10 ^ exponent.toNat := by
  fun_induction stripZeros digits exponent with
  | case1 digits exponent hzero ih =>
      have hdigits : digits / 10 * 10 = digits := by omega
      have hexponent : (exponent + 1).toNat = exponent.toNat + 1 := by omega
      obtain ⟨hsign, hproduct⟩ := ih (by omega)
      refine ⟨hsign, hproduct.trans ?_⟩
      rw [hexponent, Nat.pow_succ', ← Nat.mul_assoc, hdigits]
  | case2 digits exponent _ => exact ⟨h, rfl⟩

namespace Format

variable {F : Format} {m : Nat}

theorem units_pos (hm : 0 < m) : 0 < F.units m :=
  (Nat.zero_le _).trans_lt (F.units_strictMono (Nat.sub_lt hm Nat.one_pos))

theorem readsBack_iff {num den : Nat} : F.readsBack m num den = true ↔
    (F.units (m - 1) + F.units m) * den ≤ 2 * (num * 2 ^ F.unitExponent) ∧
    2 * (num * 2 ^ F.unitExponent) ≤ (F.units m + F.units (m + 1)) * den ∧
    (m % 2 = 1 → (F.units (m - 1) + F.units m) * den < 2 * (num * 2 ^ F.unitExponent) ∧
      2 * (num * 2 ^ F.unitExponent) < (F.units m + F.units (m + 1)) * den) := by
  rw [readsBack, Nat.pow_eq, Nat.mul_assoc 2 num]
  split
  · rw [Bool.and_eq_true, decide_eq_true_iff, decide_eq_true_iff]
    omega
  · rw [Bool.and_eq_true, decide_eq_true_iff, decide_eq_true_iff]
    omega

theorem nearest_of_readsBack {num den : Nat} (hp : 0 < F.fractionBits) (hm : 0 < m)
    (hfinite : m < F.infinity) (hden : 0 < den) (h : F.readsBack m num den = true) :
    F.nearest num den = m := by
  obtain ⟨hlow, hhigh, hodd⟩ := readsBack_iff.mp h
  rw [nearest_eq]
  exact nearestUnits_eq hp hm hfinite hden hlow hhigh hodd

theorem ne_zero_of_readsBack {num den : Nat} (hm : 0 < m) (hden : 0 < den)
    (h : F.readsBack m num den = true) : num ≠ 0 := by
  rintro rfl
  have hlow := (readsBack_iff.mp h).1
  have hpos := Nat.mul_pos (Nat.add_pos_right (F.units (m - 1)) (units_pos (F := F) hm)) hden
  omega

/-! ## The search -/

theorem readsBack_of_decimalOnGrid? {exponent : Int} {digits : Nat}
    (h : F.decimalOnGrid? m exponent = some digits) :
    F.readsBack m (digits * 10 ^ exponent.toNat) (10 ^ (-exponent).toNat) = true := by
  simp only [decimalOnGrid?, Nat.pow_eq] at h
  split at h
  · next hbelow habove =>
      -- The nearest of the two neighbours is one of them.
      have hge := div_le_roundHalfEven (F.units m * 10 ^ (-exponent).toNat)
        (2 ^ F.unitExponent * 10 ^ exponent.toNat)
      have hle := roundHalfEven_le_div_succ (F.units m * 10 ^ (-exponent).toNat)
        (2 ^ F.unitExponent * 10 ^ exponent.toNat)
      rw [Option.some.injEq] at h
      rcases Nat.lt_or_eq_of_le hge with hlt | heq
      · obtain rfl : _ = digits := (Nat.le_antisymm hle hlt).symm.trans h
        exact habove
      · obtain rfl := heq.trans h
        exact hbelow
  · next hbelow _ => exact Option.some.inj h ▸ hbelow
  · next _ habove => exact Option.some.inj h ▸ habove
  · exact absurd h (Option.some_ne_none _).symm

theorem decimalOnGrid?_isSome_of_below {exponent : Int}
    (h : F.readsBack m (F.units m * 10 ^ (-exponent).toNat
      / (2 ^ F.unitExponent * 10 ^ exponent.toNat) * 10 ^ exponent.toNat)
      (10 ^ (-exponent).toNat) = true) : (F.decimalOnGrid? m exponent).isSome := by
  rw [decimalOnGrid?]
  simp only [Nat.pow_eq]
  rw [h]
  split <;> simp_all

/-- The value is at most `2 ^ (p + 1)` times its distance to the one below. -/
theorem units_le_gap (hm : 0 < m) :
    F.units m ≤ (F.units m - F.units (m - 1)) * 2 ^ (F.fractionBits + 1) := by
  obtain ⟨t, M, rfl, hM, hnormal⟩ := F.exists_binade m
  have hself := units_eq hM hnormal
  rcases units_pred hM hnormal hm with ⟨k, rfl, -, hpred⟩ | ⟨s, rfl, rfl, hpred⟩
  · have hgap : (k + 1) * 2 ^ t - k * 2 ^ t = 2 ^ t := by
      rw [← Nat.sub_mul, Nat.add_sub_cancel_left, Nat.one_mul]
    rw [hself, hpred, hgap, Nat.mul_comm]
    exact Nat.mul_le_mul_left _ hM.le
  · have hgap : 2 ^ F.fractionBits * 2 ^ (s + 1)
        - F.units ((s + 1) * 2 ^ F.fractionBits + 2 ^ F.fractionBits - 1) = 2 ^ s := by
      rw [← hpred, Nat.add_sub_cancel_left]
    rw [hself, hgap, ← Nat.pow_add, ← Nat.pow_add]
    exact Nat.pow_le_pow_right Nat.two_pos (by omega)

/-- The leading digit of a value is not above it. -/
theorem ten_pow_leadingExponent_le (hm : 0 < m) : ∃ lead places : Nat,
    F.leadingExponent m = lead - places ∧ 2 ^ F.unitExponent * 10 ^ lead
      ≤ F.units m * 10 ^ places := by
  obtain ⟨places, hplaces⟩ : ∃ places, F.unitExponent / 3 + 1 = places := ⟨_, rfl⟩
  have hone : 2 ^ F.unitExponent ≤ F.units m * 10 ^ places := calc
    2 ^ F.unitExponent ≤ 2 ^ (3 * places) := Nat.pow_le_pow_right Nat.two_pos (by omega)
    _ = 8 ^ places := Nat.pow_mul 2 3 places
    _ ≤ 10 ^ places := Nat.pow_le_pow_left (by omega) places
    _ ≤ F.units m * 10 ^ places := Nat.le_mul_of_pos_left _ (units_pos hm)
  obtain ⟨N, hN⟩ : ∃ N, F.units m * 10 ^ places / 2 ^ F.unitExponent = N := ⟨_, rfl⟩
  have hNpos : 1 ≤ N := by
    rw [← hN, Nat.le_div_iff_mul_le (Nat.two_pow_pos _), Nat.one_mul]
    exact hone
  obtain ⟨hcount, hlead⟩ := ten_pow_digitCount_le (show N ≠ 0 by omega)
  refine ⟨digitCount N - 1, places, ?_, ?_⟩
  · rw [leadingExponent]
    simp only [Nat.pow_eq]
    rw [hplaces, hN]
    omega
  · rw [Nat.mul_comm]
    exact (Nat.mul_le_mul_right _ hlead).trans (hN ▸ Nat.div_mul_le_self _ _)

/-- On the last grid that the search tries, two steps are at most the distance
to the value below. -/
theorem two_steps_le_gap (hm : 0 < m) {exponent : Int}
    (hlast : F.leadingExponent m - (F.fractionBits + 1 : Nat) = exponent) :
    2 * (2 ^ F.unitExponent * 10 ^ exponent.toNat)
      ≤ (F.units m - F.units (m - 1)) * 10 ^ (-exponent).toNat := by
  obtain ⟨lead, places, hleading, hlead⟩ := ten_pow_leadingExponent_le (F := F) hm
  obtain ⟨up, hup⟩ : ∃ up, 10 ^ exponent.toNat = up := ⟨_, rfl⟩
  obtain ⟨down, hdown⟩ : ∃ down, 10 ^ (-exponent).toNat = down := ⟨_, rfl⟩
  have hupdown : up * 10 ^ (places + (F.fractionBits + 1)) = down * 10 ^ lead := by
    rw [← hup, ← hdown, ← Nat.pow_add, ← Nat.pow_add]
    congr 1
    omega
  have hfine : 2 * 2 ^ (F.fractionBits + 1) ≤ 10 ^ (F.fractionBits + 1) := by
    have hfive : 2 ≤ 5 ^ (F.fractionBits + 1) :=
      (show 2 ≤ 5 ^ 1 by omega).trans (Nat.pow_le_pow_right (by omega) (by omega))
    calc 2 * 2 ^ (F.fractionBits + 1) ≤ 5 ^ (F.fractionBits + 1) * 2 ^ (F.fractionBits + 1) :=
          Nat.mul_le_mul_right _ hfive
      _ = 10 ^ (F.fractionBits + 1) := by rw [← Nat.mul_pow]
  rw [hup, hdown]
  refine Nat.le_of_mul_le_mul_right (c := 10 ^ (places + (F.fractionBits + 1))) ?_
    (Nat.pow_pos (by omega))
  calc 2 * (2 ^ F.unitExponent * up) * 10 ^ (places + (F.fractionBits + 1))
      = 2 * (2 ^ F.unitExponent * 10 ^ lead) * down := by
        rw [Nat.mul_assoc, Nat.mul_assoc, hupdown]
        ring
    _ ≤ 2 * (F.units m * 10 ^ places) * down :=
        Nat.mul_le_mul_right _ (Nat.mul_le_mul_left _ hlead)
    _ ≤ 2 * ((F.units m - F.units (m - 1)) * 2 ^ (F.fractionBits + 1) * 10 ^ places) * down :=
        Nat.mul_le_mul_right _ (Nat.mul_le_mul_left _
          (Nat.mul_le_mul_right _ (units_le_gap hm)))
    _ = (F.units m - F.units (m - 1)) * down * 10 ^ places * (2 * 2 ^ (F.fractionBits + 1)) := by
        ring
    _ ≤ (F.units m - F.units (m - 1)) * down * 10 ^ places * 10 ^ (F.fractionBits + 1) :=
        Nat.mul_le_mul_left _ hfine
    _ = (F.units m - F.units (m - 1)) * down * 10 ^ (places + (F.fractionBits + 1)) := by ring

/-- On that grid the point below the value reads back. -/
theorem decimalOnGrid?_isSome (hm : 0 < m) :
    (F.decimalOnGrid? m (F.leadingExponent m - (F.fractionBits + 1 : Nat))).isSome := by
  obtain ⟨exponent, hlast⟩ : ∃ exponent, F.leadingExponent m - (F.fractionBits + 1 : Nat)
    = exponent := ⟨_, rfl⟩
  have hsteps := two_steps_le_gap hm hlast
  rw [hlast]
  refine decimalOnGrid?_isSome_of_below ?_
  obtain ⟨up, hup⟩ : ∃ up, 10 ^ exponent.toNat = up := ⟨_, rfl⟩
  obtain ⟨down, hdown⟩ : ∃ down, 10 ^ (-exponent).toNat = down := ⟨_, rfl⟩
  obtain ⟨step, hstep⟩ : ∃ step, 2 ^ F.unitExponent * up = step := ⟨_, rfl⟩
  have hdownpos : 0 < down := hdown ▸ Nat.pow_pos (by omega)
  have hsteppos : 0 < step := by
    rw [← hstep, ← hup]
    exact Nat.mul_pos (Nat.two_pow_pos _) (Nat.pow_pos (by omega))
  have hfloor := Nat.div_add_mod' (F.units m * down) step
  have hrest := Nat.mod_lt (F.units m * down) hsteppos
  have htwice : F.units m * down / step * up * 2 ^ F.unitExponent
      = F.units m * down / step * step := by
    rw [← hstep]
    ring
  have hless : F.units (m - 1) * down ≤ F.units m * down :=
    Nat.mul_le_mul_right _ (F.units_strictMono (Nat.sub_lt hm Nat.one_pos)).le
  have hmore : F.units m * down < F.units (m + 1) * down :=
    Nat.mul_lt_mul_of_pos_right (F.units_lt_succ m) hdownpos
  rw [hup, hdown, hstep, Nat.sub_mul] at hsteps
  rw [hup, hdown, hstep, readsBack_iff, htwice, Nat.add_mul, Nat.add_mul]
  omega

/-- The search stops at the first grid with a decimal on it, so no later than at
any. -/
theorem exists_shortest_le {k : Nat} (hm : 0 < m) (hk : k ≤ F.fractionBits + 1)
    (hgrid : (F.decimalOnGrid? m (F.leadingExponent m - k)).isSome) :
    ∃ (digits : Nat) (exponent : Int), F.leadingExponent m - k ≤ exponent ∧ digits ≠ 0 ∧
      F.readsBack m (digits * 10 ^ exponent.toNat) (10 ^ (-exponent).toNat) = true ∧
      F.shortest m = stripZeros digits exponent := by
  obtain ⟨found, hfound⟩ : ∃ found, ((List.range (F.fractionBits + 2)).findSome? fun (i : Nat) =>
      (F.decimalOnGrid? m (F.leadingExponent m - i)).map
        fun digits => (digits, F.leadingExponent m - i)) = some found := by
    rw [← Option.isSome_iff_exists, List.findSome?_isSome_iff]
    exact ⟨k, List.mem_range.mpr (by omega), by rwa [Option.isSome_map]⟩
  obtain ⟨tried, i, rest, hrange, hi, htried⟩ := List.findSome?_eq_some_iff.mp hfound
  obtain ⟨digits, hdigits, rfl⟩ := Option.map_eq_some_iff.mp hi
  have hreads := readsBack_of_decimalOnGrid? hdigits
  have hle : i ≤ k := by
    by_contra hlt
    have hsorted : (tried ++ i :: rest).Pairwise (· < ·) := hrange ▸ List.pairwise_lt_range
    have hmem : k ∈ tried ++ i :: rest := hrange ▸ List.mem_range.mpr (by omega)
    rcases List.mem_append.mp hmem with hbefore | hafter
    · rw [Option.map_eq_none_iff.mp (htried k hbefore)] at hgrid
      cases hgrid
    · have hgreater := (List.pairwise_cons.mp (List.pairwise_append.mp hsorted).2.1).1
      rcases List.mem_cons.mp hafter with rfl | hrest
      · exact hlt (Nat.le_refl _)
      · exact hlt (hgreater k hrest).le
  refine ⟨digits, F.leadingExponent m - i, by omega, fun hzero => ?_, hreads, ?_⟩
  · rw [hzero, Nat.zero_mul] at hreads
    exact ne_zero_of_readsBack hm (Nat.pow_pos (by omega)) hreads rfl
  · dsimp only [shortest]
    rw [hfound]

theorem exists_shortest (hm : 0 < m) : ∃ digits exponent, digits ≠ 0 ∧
    F.readsBack m (digits * 10 ^ exponent.toNat) (10 ^ (-exponent).toNat) = true ∧
    F.shortest m = stripZeros digits exponent := by
  obtain ⟨digits, exponent, -, h⟩ := exists_shortest_le hm (Nat.le_refl _)
    (decimalOnGrid?_isSome hm)
  exact ⟨digits, exponent, h⟩

theorem shortest_ne_zero (hm : 0 < m) : (F.shortest m).1 ≠ 0 := by
  obtain ⟨digits, exponent, hdigits, -, heq⟩ := exists_shortest (F := F) hm
  rw [heq]
  exact stripZeros_ne_zero hdigits

/-! ## Whole numbers

A whole number lies on the grid of the ones, so the search stops there at the
latest, and what it finds is a whole number. -/

section Whole

variable {n : Nat}

theorem leadingExponent_whole (hn : n ≠ 0) (h : F.units m = n * 2 ^ F.unitExponent) :
    F.leadingExponent m = (digitCount n : Int) - 1 := by
  rw [leadingExponent]
  simp only [Nat.pow_eq]
  rw [h, Nat.mul_right_comm, Nat.mul_div_cancel _ (Nat.two_pow_pos _), digitCount_mul_ten_pow hn]
  omega

theorem decimalOnGrid?_whole (hm : 0 < m) (h : F.units m = n * 2 ^ F.unitExponent) :
    (F.decimalOnGrid? m 0).isSome := by
  refine decimalOnGrid?_isSome_of_below ?_
  have hless := F.units_strictMono (Nat.sub_lt hm Nat.one_pos)
  have hmore := F.units_lt_succ m
  rw [Int.neg_zero, Int.toNat_zero, Nat.pow_zero, Nat.mul_one, Nat.mul_one, Nat.mul_one, h,
    Nat.mul_div_cancel _ (Nat.two_pow_pos _), readsBack_iff, ← h]
  omega

theorem exists_shortest_whole (hm : 0 < m) (hn : n ≠ 0)
    (hcount : digitCount n ≤ F.fractionBits + 2) (h : F.units m = n * 2 ^ F.unitExponent) :
    ∃ found : Nat, F.readsBack m found 1 = true ∧
      0 ≤ (F.shortest m).2 ∧ (F.shortest m).1 * 10 ^ (F.shortest m).2.toNat = found := by
  have hpos := (ten_pow_digitCount_le hn).1
  have hleading : F.leadingExponent m - (digitCount n - 1 : Nat) = 0 := by
    rw [leadingExponent_whole hn h]
    omega
  obtain ⟨digits, exponent, hexponent, -, hreads, heq⟩ := exists_shortest_le hm
    (k := digitCount n - 1) (by omega) (hleading ▸ decimalOnGrid?_whole hm h)
  rw [hleading] at hexponent
  have hdown : (-exponent).toNat = 0 := by omega
  rw [hdown] at hreads
  rw [heq]
  exact ⟨_, hreads, stripZeros_whole hexponent⟩

/-- What reads back as a whole number is no nearer to a larger one. -/
theorem two_mul_le_of_readsBack {found larger top : Nat} (h : F.units m = n * 2 ^ F.unitExponent)
    (htop : F.units top = larger * 2 ^ F.unitExponent) (hlarger : n < larger)
    (hreads : F.readsBack m found 1 = true) : 2 * found ≤ n + larger := by
  have hhigh := (readsBack_iff.mp hreads).2.1
  have hlt : F.units m < F.units top := by
    rw [h, htop]
    exact Nat.mul_lt_mul_of_pos_right hlarger (Nat.two_pow_pos _)
  have hnext : F.units (m + 1) ≤ F.units top := F.units_mono <| by
    by_contra hge
    exact absurd (F.units_mono (Nat.le_of_lt_succ (Nat.lt_of_not_le hge))) (Nat.not_le_of_lt hlt)
  refine Nat.le_of_mul_le_mul_right (c := 2 ^ F.unitExponent) ?_ (Nat.two_pow_pos _)
  rw [Nat.mul_one] at hhigh
  rw [Nat.mul_assoc, Nat.add_mul, ← h, ← htop]
  omega

end Whole

end Format

/-! ## In the 64-bit format -/

open Format

/-- What reads back is not too small for its power of ten to be computed. -/
theorem le_place_of_readsBack {m digits : Nat} {exponent : Int} (hm : 0 < m)
    (h : double.readsBack m (digits * 10 ^ exponent.toNat) (10 ^ (-exponent).toNat) = true) :
    -330 ≤ (digitCount digits : Int) + exponent := by
  by_contra hsmall
  have hlow := (readsBack_iff.mp h).1
  have hup : exponent.toNat = 0 := by omega
  rw [hup, Nat.pow_zero, Nat.mul_one] at hlow
  obtain ⟨U, hU⟩ : ∃ U, 2 ^ double.unitExponent = U := ⟨_, rfl⟩
  rw [hU] at hlow
  have hU' : 2 * U < 10 ^ 331 := by
    rw [← hU]
    decide +kernel
  have hone : 10 ^ (-exponent).toNat ≤ 2 * (digits * U) :=
    (Nat.le_mul_of_pos_left _ (Nat.add_pos_right _ (units_pos hm))).trans hlow
  have hten : 10 ^ (digitCount digits + 331) ≤ 10 ^ (-exponent).toNat :=
    Nat.pow_le_pow_right (by omega) (by omega)
  have hless : 2 * (digits * U) < 10 ^ (digitCount digits + 331) := calc
    2 * (digits * U) = digits * (2 * U) := by ring
    _ < 10 ^ digitCount digits * 10 ^ 331 :=
      Nat.mul_lt_mul'' (digitCount_le_iff.mp (Nat.le_refl _)) hU'
    _ = 10 ^ (digitCount digits + 331) := by rw [Nat.pow_add]
  omega

/-- What reads back is not too large for its power of ten to be computed. -/
theorem place_le_of_readsBack {m digits : Nat} {exponent : Int} (hfinite : m < double.infinity)
    (hdigits : digits ≠ 0)
    (h : double.readsBack m (digits * 10 ^ exponent.toNat) (10 ^ (-exponent).toNat) = true) :
    (digitCount digits : Int) + exponent ≤ 310 := by
  by_contra hlarge
  have hhigh := (readsBack_iff.mp h).2.1
  obtain ⟨-, hcount⟩ := ten_pow_digitCount_le hdigits
  obtain ⟨U, hU⟩ : ∃ U, 2 ^ double.unitExponent = U := ⟨_, rfl⟩
  obtain ⟨down, hdown⟩ : ∃ down, 10 ^ (-exponent).toNat = down := ⟨_, rfl⟩
  obtain ⟨top, htop⟩ : ∃ top, 10 ^ 310 = top := ⟨_, rfl⟩
  rw [hU, hdown] at hhigh
  have hbig : double.units double.infinity < top * U := by
    rw [← htop, ← hU]
    decide +kernel
  have hpower : top * down ≤ digits * 10 ^ exponent.toNat := calc
    top * down = 10 ^ (310 + (-exponent).toNat) := by rw [← htop, ← hdown, Nat.pow_add]
    _ ≤ 10 ^ (digitCount digits - 1 + exponent.toNat) :=
      Nat.pow_le_pow_right (by omega) (by omega)
    _ = 10 ^ (digitCount digits - 1) * 10 ^ exponent.toNat := Nat.pow_add ..
    _ ≤ digits * 10 ^ exponent.toNat := Nat.mul_le_mul_right _ hcount
  have hself := double.units_mono hfinite.le
  have hnext := double.units_mono (show m + 1 ≤ double.infinity from hfinite)
  have hle : 2 * (top * U) * down ≤ 2 * double.units double.infinity * down := calc
    2 * (top * U) * down = 2 * (top * down * U) := by ring
    _ ≤ 2 * (digits * 10 ^ exponent.toNat * U) :=
      Nat.mul_le_mul_left _ (Nat.mul_le_mul_right _ hpower)
    _ ≤ 2 * double.units double.infinity * down :=
      hhigh.trans (Nat.mul_le_mul_right _ (by omega))
  have hcancel := Nat.le_of_mul_le_mul_right hle (hdown ▸ Nat.pow_pos (by omega))
  omega

/-- The shortest decimal of a value reads back as the value. -/
theorem toBinary_shortest {x : Binary64} (hfinite : x.isFinite) (hm : 0 < x.magnitude) :
    (⟨x.negative, (double.shortest x.magnitude).1, (double.shortest x.magnitude).2⟩ :
      Decimal).toBinary = x := by
  have hfinite : x.magnitude < double.infinity := of_decide_eq_true hfinite
  obtain ⟨digits, exponent, hdigits, hreads, heq⟩ := exists_shortest (F := double) hm
  rw [heq, toBinary_stripZeros, Decimal.toBinary_eq hdigits (le_place_of_readsBack hm hreads)
    (place_le_of_readsBack hfinite hdigits hreads)]
  ext
  · exact Binary.negative_ofRatio ..
  · rw [Binary.magnitude_ofRatio]
    exact nearest_of_readsBack (by decide) hm hfinite (Nat.pow_pos (by omega)) hreads

/-- The shortest decimal of a whole number within the precision is the number
itself. -/
theorem shortest_ofNat {n : Nat} (hn : n ≠ 0) (h : n < 2 ^ 53) :
    0 ≤ (double.shortest (Binary.ofNat n : Binary64).magnitude).2 ∧
      (double.shortest (Binary.ofNat n : Binary64).magnitude).1
        * 10 ^ (double.shortest (Binary.ofNat n : Binary64).magnitude).2.toNat = n := by
  have hunits {k : Nat} (hk : k < 2 ^ 53) : double.units (Binary.ofNat k : Binary64).magnitude
      = k * 2 ^ double.unitExponent := by
    have hunits := Binary.units_ofNat_of_lt (t := 0) hk (Nat.zero_le _)
    rwa [Nat.pow_zero, Nat.mul_one] at hunits
  have hself := hunits h
  have hfinite : (Binary.ofNat n : Binary64).magnitude < double.infinity :=
    of_decide_eq_true (Binary.isFinite_ofRatio (k := 53) Nat.one_pos (by omega) (by decide))
  obtain ⟨m, hm⟩ : ∃ m, (Binary.ofNat n : Binary64).magnitude = m := ⟨_, rfl⟩
  rw [hm] at hself hfinite ⊢
  have hpos : 0 < m := by
    have hzero : double.units 0 = 0 := by decide
    have hunits := Nat.mul_ne_zero hn (Nat.two_pow_pos double.unitExponent).ne'
    rw [← hself] at hunits
    exact Nat.pos_of_ne_zero fun heq => hunits (heq ▸ hzero)
  obtain ⟨found, hreads, hsign, hproduct⟩ := exists_shortest_whole hpos hn
    ((digitCount_le_iff (k := 16)).mpr (by omega) |>.trans (by decide)) hself
  -- So the number found is within the precision too, and then it is its own
  -- value.
  have hfound := two_mul_le_of_readsBack hself
    (Binary.units_ofNat_of_lt (M := 2 ^ 52) (t := 1) (by decide) (by decide)) h hreads
  have hnearest := nearest_of_readsBack (by decide) hpos hfinite Nat.one_pos hreads
  have hequal := hunits (k := found) (by omega)
  rw [Binary.ofNat, Binary.magnitude_ofRatio, hnearest, hself] at hequal
  exact ⟨hsign, hproduct.trans (Nat.eq_of_mul_eq_mul_right (Nat.two_pow_pos _) hequal).symm⟩

end RankedBars
