import RankedBars.Proofs.Json.Numeral

/-!
# What a numeral is read as

A numeral that stands as a JSON number is evaluated the quick way, one that
stands in a text the exact way. Whole numbers of up to 64 bits come out the
same, because they are not evaluated the quick way at all. So do numerals
whose digits fit the significand and whose power of ten is exact: the quick
way then rounds once. Past that the two may differ, and they do.
-/

namespace RankedBars.Json

/-! ## The quick way -/

theorem le_foldl_digits (word : Nat) (digits : List Char) :
    word ≤ digits.foldl (fun n c => 10 * n + digitValue c) word := by
  induction digits generalizing word with
  | nil => exact Nat.le_refl word
  | cons c rest ih =>
      rw [List.foldl_cons]
      have hrest := ih (10 * word + digitValue c)
      omega

/-- Digits are gathered as long as the word does not overflow. -/
theorem gather_eq {word : Nat} {digits : List Char}
    (h : digits.foldl (fun n c => 10 * n + digitValue c) word < wordLimit) :
    gather word digits = (digits.foldl (fun n c => 10 * n + digitValue c) word, []) := by
  induction digits generalizing word with
  | nil => rfl
  | cons c rest ih =>
      rw [List.foldl_cons] at h ⊢
      have hnext := (le_foldl_digits (10 * word + digitValue c) rest).trans_lt h
      rw [gather, if_pos hnext]
      exact ih h

theorem wordLimit_eq : wordLimit = 2 ^ 64 := by decide

theorem gather_lt {word : Nat} (h : word < wordLimit) (digits : List Char) :
    (gather word digits).1 < wordLimit := by
  induction digits generalizing word with
  | nil => exact h
  | cons c rest ih =>
      rw [gather]
      split
      · next hnext => exact ih hnext
      · exact h

open Binary

/-- A word that fits the significand is multiplied and divided by small powers
of ten as if nothing were rounded on the way. -/
theorem scale_ofNat {word : Nat} {exponent : Int} (hword : word < 2 ^ 53)
    (hexponent : exponent.natAbs ≤ 22) :
    scale (.ofNat word) exponent = some (⟨false, word, exponent⟩ : Decimal).toBinary := by
  rw [Decimal.toBinary_of_short hword hexponent]
  have hunits : (ofNat word : Binary64).units = word * 2 ^ Format.double.unitExponent := by
    have h := units_ofNat_of_lt (t := 0) hword (Nat.zero_le _)
    rwa [Nat.pow_zero, Nat.mul_one] at h
  rw [scale]
  by_cases hup : 0 ≤ exponent
  · have hten := units_ofNat_pow_ten (k := exponent.toNat) (by omega)
    have hproduct : (ofNat (word * 10 ^ exponent.toNat) : Binary64).isFinite := by
      refine isFinite_ofRatio (k := 127) Nat.one_pos ?_ (by decide)
      calc word * 10 ^ exponent.toNat ≤ 2 ^ 53 * 10 ^ 22 :=
            Nat.mul_le_mul hword.le (Nat.pow_le_pow_right (by omega) (by omega))
        _ < 2 ^ 127 * 1 := by decide
    have hden : (-exponent).toNat = 0 := by omega
    rw [if_pos hup, if_pos (by omega), Nat.pow_eq, mul_ofNat hunits hten, if_pos hproduct, hden]
    rfl
  · have hten := units_ofNat_pow_ten (k := (-exponent).toNat) (by omega)
    have hnum : exponent.toNat = 0 := by omega
    rw [if_neg hup, if_pos (by omega), Nat.pow_eq, div_ofNat hunits hten, hnum, Nat.pow_zero,
      Nat.mul_one]

theorem negative_scale {x y : Binary64} {exponent : Int} (h : scale x exponent = some y) :
    y.negative = x.negative := by
  fun_induction scale x exponent with
  | case1 x exponent _ _ product hfinite => exact Option.some.inj h ▸ negative_mul_ofNat x _
  | case2 => exact absurd h (Option.some_ne_none y).symm
  | case3 => exact Option.some.inj h ▸ rfl
  | case4 => exact absurd h (Option.some_ne_none y).symm
  | case5 x exponent => exact Option.some.inj h ▸ negative_div_ofNat x _
  | case6 => exact Option.some.inj h ▸ rfl
  | case7 x exponent _ _ _ ih => exact (ih h).trans (negative_div_ofNat x _)

theorem NumberLiteral.negative_float? {l : NumberLiteral} {x : Binary64} (h : l.float? = some x) :
    x.negative = l.negative := by
  rw [float?] at h
  dsimp only at h
  cases hl : l.negative with
  | false =>
      rw [hl, if_neg Bool.false_ne_true] at h
      exact (negative_scale h).trans (negative_ofRatio _ _ _)
  | true =>
      rw [hl, if_pos rfl, Option.map_eq_some_iff] at h
      obtain ⟨y, hy, rfl⟩ := h
      change (!y.negative) = true
      rw [negative_scale hy, ofNat, negative_ofRatio]
      rfl

namespace Numeral

variable {n : Numeral}

/-- No point and no exponent. -/
def IsWhole (n : Numeral) : Prop := n.fraction = [] ∧ n.exponent = none

/-- The digits fit the significand, and the power of ten is exact. -/
def IsShort (n : Numeral) : Prop :=
  n.decimal.digits < 2 ^ 53 ∧ n.decimal.exponent.natAbs ≤ 22

instance : Decidable n.IsWhole := inferInstanceAs (Decidable (_ ∧ _))

instance : Decidable n.IsShort := inferInstanceAs (Decidable (_ ∧ _))

theorem float?_of_isShort (h : n.IsShort) : n.literal.float? = some n.exact := by
  obtain ⟨hdigits, hexponent⟩ := h
  have hall : n.fraction.foldl (fun n c => 10 * n + digitValue c) (ofDigits n.whole)
      = n.decimal.digits := by
    rw [decimal, ofDigits, ofDigits, List.foldl_append]
  have hword : n.decimal.digits < wordLimit := by
    rw [wordLimit_eq]
    omega
  have hwhole : gather 0 n.whole = (ofDigits n.whole, []) :=
    gather_eq ((le_foldl_digits _ n.fraction).trans_lt (hall ▸ hword))
  have hfraction : gather (ofDigits n.whole) n.fraction = (n.decimal.digits, []) := by
    rw [gather_eq (hall ▸ hword), hall]
  -- No digit is left out, so the power of ten is the decimal's own.
  have hscale := scale_ofNat hdigits hexponent
  have hplaces : ((0 : Nat) : Int) - (n.fraction.length - 0 : Nat)
      + (n.exponent.map (·.value)).getD 0 = n.decimal.exponent := by
    rw [exponent_decimal]
    omega
  rw [NumberLiteral.float?, literal]
  dsimp only
  rw [hwhole]
  dsimp only
  rw [hfraction]
  dsimp only [List.length_nil]
  rw [hplaces, hscale, exact]
  cases hsign : n.negative with
  | true =>
      rw [if_pos rfl, Option.map_some, Decimal.neg_toBinary, decimal, hsign]
  | false => rw [if_neg Bool.false_ne_true, decimal, hsign]

theorem exact_of_isWhole (hwhole : n.IsWhole) (h : ofDigits n.whole < 10 ^ 40) :
    n.exact = .ofRatio n.negative (ofDigits n.whole) 1 := by
  have hdecimal : n.decimal = ⟨n.negative, ofDigits n.whole, 0⟩ := by
    rw [decimal, hwhole.1, hwhole.2, List.append_nil]
    rfl
  have hcount := digitCount_le_iff.mpr h
  rw [exact, hdecimal]
  by_cases hzero : ofDigits n.whole = 0
  · rw [hzero, Decimal.toBinary_zero]
  · rw [Decimal.toBinary_eq hzero (by omega) (by omega), Int.neg_zero, Int.toNat_zero,
      Nat.pow_zero, Nat.mul_one]

/-- What a numeral that stands as a number is read as. -/
def value? (n : Numeral) : Option Binary64 := n.literal.value?.map (·.toBinary)

theorem value?_of_isWhole (hwhole : n.IsWhole) (h : ofDigits n.whole < 2 ^ 64) :
    n.value? = some n.exact := by
  have hliteral : n.literal.fraction.isEmpty = true ∧ n.literal.exponent.isNone = true ∧
      ofDigits n.literal.whole < wordLimit := by
    rw [literal, hwhole.1, hwhole.2, wordLimit_eq]
    exact ⟨rfl, rfl, h⟩
  rw [value?, NumberLiteral.value?, if_pos hliteral,
    exact_of_isWhole hwhole (h.trans (by decide))]
  have hnegative : n.literal.negative = n.negative := rfl
  have hdigits : n.literal.whole = n.whole := rfl
  rw [hnegative, hdigits]
  cases n.negative with
  | false => rfl
  | true =>
      rw [if_neg (by decide)]
      split
      · next hpos =>
          rw [Option.map_some, Number.toBinary, Binary.ofInt, Int.natAbs_neg, Int.natAbs_natCast]
          have hneg : decide (-(ofDigits n.whole : Int) < 0) = true := decide_eq_true (by omega)
          rw [hneg]
      · rfl

/-- Whole numbers that fit 64 bits, with or without a sign, are read as they
are. -/
theorem value?_literal_ofInt {i : Int} (hlow : -2 ^ 63 ≤ i) (hhigh : i < 2 ^ 64) :
    (ofInt i).literal.value? = some (.integer i) := by
  have hdigits : ofDigits (ofInt i).literal.whole = i.natAbs := ofDigits_whole_ofInt i
  have hnegative : (ofInt i).literal.negative = decide (i < 0) := rfl
  have hliteral : (ofInt i).literal.fraction.isEmpty = true ∧
      (ofInt i).literal.exponent.isNone = true ∧
      ofDigits (ofInt i).literal.whole < wordLimit := by
    rw [wordLimit_eq, hdigits]
    exact ⟨rfl, rfl, by omega⟩
  rw [NumberLiteral.value?, if_pos hliteral, hnegative, hdigits]
  by_cases hneg : i < 0
  · rw [decide_eq_true hneg, if_neg (by decide), if_pos ⟨by omega, by rw [Nat.pow_eq]; omega⟩,
      Int.ofNat_natAbs_of_nonpos hneg.le, Int.neg_neg]
  · rw [decide_eq_false hneg, if_pos Bool.not_false, Int.natAbs_of_nonneg (not_lt.mp hneg)]

theorem value?_of_isShort (h : n.IsShort) : n.value? = some n.exact := by
  by_cases hwhole : n.IsWhole
  · refine value?_of_isWhole hwhole (lt_two_pow_of_le (i := 53) ?_ (by decide))
    have hdigits := h.1
    rw [digits_decimal, hwhole.1, List.append_nil] at hdigits
    exact hdigits
  · have hliteral : ¬ (n.literal.fraction.isEmpty = true ∧ n.literal.exponent.isNone = true ∧
        ofDigits n.literal.whole < wordLimit) := by
      rw [literal, List.isEmpty_iff, Option.isNone_iff_eq_none, Option.map_eq_none_iff]
      exact fun hall => hwhole ⟨hall.1, hall.2.1⟩
    rw [value?, NumberLiteral.value?, if_neg hliteral, float?_of_isShort h]
    rfl

/-- Without a leading zero there are no more digits than the number needs. -/
theorem length_whole_le (n : Numeral) {k : Nat} (hk : 1 ≤ k) (h : ofDigits n.whole < 10 ^ k) :
    n.whole.length ≤ k := by
  obtain ⟨c, rest, hwhole⟩ := List.exists_cons_of_ne_nil n.whole_ne_nil
  have hc := n.whole_isDigit c (hwhole ▸ List.mem_cons_self)
  have hzero := n.no_leading_zero
  rw [hwhole, List.length_cons, List.head?_cons] at hzero
  rw [hwhole, ← List.singleton_append, ofDigits_append] at h
  rw [hwhole, List.length_cons]
  by_cases hrest : rest.length = 0
  · omega
  · have hne : c ≠ '0' := fun heq => hzero ⟨by omega, by rw [heq]⟩
    have hpos : 1 ≤ ofDigits [c] := by
      have hval : c.toNat ≠ 48 := fun heq => hne (Char.toNat_inj.mp heq)
      rw [Char.isDigit, Bool.and_eq_true, decide_eq_true_iff, decide_eq_true_iff] at hc
      have hlow : 48 ≤ c.toNat := hc.1
      change 1 ≤ 10 * 0 + (c.toNat - 48)
      omega
    have hle := Nat.mul_le_mul_right (10 ^ rest.length) hpos
    have hlt : 10 ^ rest.length < 10 ^ k := by omega
    exact (Nat.pow_lt_pow_iff_right (by omega)).mp hlt

/-- A whole number of moderate length is always read. -/
theorem exists_value?_of_isWhole (hwhole : n.IsWhole) (h : ofDigits n.whole < 2 ^ 128) :
    ∃ x, n.value? = some x ∧ x.isFinite := by
  by_cases hlt : ofDigits n.whole < 2 ^ 64
  · refine ⟨n.exact, value?_of_isWhole hwhole hlt, ?_⟩
    rw [exact_of_isWhole hwhole (hlt.trans (by decide))]
    exact isFinite_ofRatio (k := 64) Nat.one_pos (by omega) (by decide)
  have hliteral : ¬ (n.literal.fraction.isEmpty = true ∧ n.literal.exponent.isNone = true ∧
      ofDigits n.literal.whole < wordLimit) := by
    rw [wordLimit_eq]
    exact fun hall => hlt hall.2.2
  obtain ⟨word, left, hgather⟩ : ∃ word left, gather 0 n.whole = (word, left) := ⟨_, _, rfl⟩
  have hword : word < 2 ^ 64 := by
    have : (gather 0 n.whole).1 < wordLimit := gather_lt (by decide) n.whole
    rwa [hgather, wordLimit_eq] at this
  have hleft : left.length ≤ 39 := by
    have := (gather_suffix 0 n.whole).length_le
    rw [hgather] at this
    exact this.trans (n.length_whole_le (by decide) (h.trans (by decide)))
  have hten : 10 ^ left.length < 2 ^ 130 :=
    (Nat.pow_le_pow_right (by omega) hleft).trans_lt (by decide)
  have hproduct := isFinite_mul_ofNat hword hten (by decide)
  have hscale : scale (.ofNat word) left.length
      = some (.ofNat word * .ofNat (10 ^ left.length)) := by
    rw [scale, if_pos (by omega), if_pos (by omega), Nat.pow_eq, Int.toNat_natCast, if_pos hproduct]
  have hfloat : n.literal.float? = some (if n.negative then
      -(.ofNat word * .ofNat (10 ^ left.length)) else .ofNat word * .ofNat (10 ^ left.length)) := by
    have hplaces : (left.length : Int) - (0 - 0 : Nat) + (0 : Int) = left.length := by omega
    rw [NumberLiteral.float?, literal, hwhole.1, hwhole.2]
    dsimp only
    rw [hgather]
    dsimp only [gather, List.length_nil, Option.map_none, Option.getD_none]
    rw [hplaces, hscale]
    split <;> rfl
  rw [value?, NumberLiteral.value?, if_neg hliteral, hfloat]
  refine ⟨_, rfl, ?_⟩
  dsimp only [Number.toBinary]
  split
  · exact hproduct
  · exact hproduct

theorem negative_exact : n.exact.negative = n.negative := Decimal.negative_toBinary n.decimal

theorem negative_value? {x : Binary64} (h : n.value? = some x) : x.negative = n.negative := by
  by_cases hshort : n.IsWhole ∧ ofDigits n.whole < 2 ^ 64
  · rw [value?_of_isWhole hshort.1 hshort.2] at h
    exact Option.some.inj h ▸ negative_exact
  · have hliteral : ¬ (n.literal.fraction.isEmpty = true ∧ n.literal.exponent.isNone = true ∧
        ofDigits n.literal.whole < wordLimit) := by
      rw [literal, List.isEmpty_iff, Option.isNone_iff_eq_none, Option.map_eq_none_iff,
        wordLimit_eq]
      exact fun hall => hshort ⟨⟨hall.1, hall.2.1⟩, hall.2.2⟩
    rw [value?, NumberLiteral.value?, if_neg hliteral, Option.map_map] at h
    obtain ⟨y, hy, rfl⟩ := Option.map_eq_some_iff.mp h
    exact NumberLiteral.negative_float? hy

/-! ## Values that can be charted -/

/-- What a numeral that stands as a number is charted as. -/
def asNumber (n : Numeral) : Option Binary64 := n.value?.filter (·.isFinite)

/-- What a numeral that stands in a text is charted as. -/
def asText (n : Numeral) : Option Binary64 := (some n.exact).filter (·.isFinite)

/-- The two ways of reading a numeral agree. -/
def ReadsAlike (n : Numeral) : Prop := n.asNumber = n.asText

instance : Decidable n.ReadsAlike := inferInstanceAs (Decidable (_ = _))

/-- The readings have the same sign, so it is enough that they are the same
number. -/
theorem readsAlike_iff : n.ReadsAlike ↔ Option.Rel SameNumber n.asText n.asNumber := by
  have hsign {x y : Binary64} (hx : n.asText = some x) (hy : n.asNumber = some y) :
      x.negative = y.negative := by
    rw [← (Option.filter_eq_some_iff.mp hx).1 |> Option.some.inj, negative_exact,
      negative_value? (Option.filter_eq_some_iff.mp hy).1]
  rw [ReadsAlike]
  cases hx : n.asText with
  | none => cases n.asNumber <;> simp
  | some x =>
      cases hy : n.asNumber with
      | none => simp
      | some y =>
          rw [Option.rel_some_some, SameNumber, signedUnits_inj (hsign hx hy), Option.some_inj]
          exact eq_comm

theorem readsAlike_of_isWhole (hwhole : n.IsWhole) (h : ofDigits n.whole < 2 ^ 64) :
    n.ReadsAlike := by
  rw [ReadsAlike, asNumber, value?_of_isWhole hwhole h, asText]

theorem readsAlike_of_isShort (h : n.IsShort) : n.ReadsAlike := by
  rw [ReadsAlike, asNumber, value?_of_isShort h, asText]

/-- Seventeen digits, which do not fit the precision: as a number their tenth
part is rounded twice. -/
def belowTwoPow53 : Numeral where
  negative := false
  whole := ['9', '0', '0', '7', '1', '9', '9', '2', '5', '4', '7', '4', '0', '9', '9', '1']
  fraction := ['0']
  exponent := none
  whole_ne_nil := List.cons_ne_nil _ _
  no_leading_zero := by decide
  whole_isDigit := List.all_eq_true.mp rfl
  fraction_isDigit := isDigit_of_mem_zero

theorem readings_belowTwoPow53 :
    belowTwoPow53.asNumber = some (.ofBits 0x433ffffffffffffe) ∧
      belowTwoPow53.asText = some (.ofBits 0x433fffffffffffff) := by
  decide +kernel

end Numeral

end RankedBars.Json
