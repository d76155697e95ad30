import Mathlib.Data.List.MinMax
import RankedBars.Chart.LabelWidth
import RankedBars.Proofs.Number.Monotone

/-!
# How wide a label is estimated to be

The estimate is meant to be three fifths of the font size a character, rounded
up. It is made of three factors, each of them rounded, and it is rounded twice
more on the way. What is true of it whatever the sizes is that it grows with
the count and with the font size, and that it stays below 61 parts in 100 and
one pixel.

For labels that fit a screen it is nearly what it is meant to be. The product
of count and font size is exact there, and the factor is above three fifths by
so little that the whole number of pixels is the right one, except that a
length which is a whole number already may come out one pixel longer.
-/

namespace RankedBars

open Binary

theorem unitExponent_single : Format.single.unitExponent = 149 := by decide

/-- A number with few significant bits is small enough to be finite. -/
theorem lt_units_infinity_single {M t : Nat} (hM : M < 2 ^ 24) (ht : t ≤ 176) :
    M * 2 ^ t < Format.single.units Format.single.infinity := calc
  _ < 2 ^ 24 * 2 ^ t := Nat.mul_lt_mul_of_pos_right hM (Nat.two_pow_pos t)
  _ = 2 ^ (24 + t) := (Nat.pow_add ..).symm
  _ ≤ 2 ^ 200 := Nat.pow_le_pow_right Nat.two_pos (by omega)
  _ ≤ _ := by decide

theorem units_ofNat_single {n : Nat} (hn : n < 2 ^ 24) :
    (ofNat n : Binary32).units = n * 2 ^ Format.single.unitExponent := by
  have hexact := units_ofNat (F := .single) (M := n) (t := 0) hn (by
    rw [Nat.pow_zero, Nat.mul_one]
    exact lt_units_infinity_single hn (by decide))
  rwa [Nat.pow_zero, Nat.mul_one] at hexact

/-- A whole number other than zero does not round to less than one. -/
theorem le_units_ofNat_single {n : Nat} (hn : n ≠ 0) :
    2 ^ Format.single.unitExponent ≤ (ofNat n : Binary32).units := by
  have hone := units_ofNat_single (n := 1) (by decide)
  rw [Nat.one_mul] at hone
  rw [← hone]
  exact units_ofNat_mono (Nat.one_le_iff_ne_zero.mpr hn)

namespace Chart

/-! ## In whole pixels -/

theorem wholePixels_le_iff {x : Binary32} {k : Nat} : wholePixels x ≤ k ↔
    x.units ≤ k * 2 ^ Format.single.unitExponent ∨ mostPixels ≤ k := by
  rw [wholePixels, Nat.pow_eq, min_le_iff, roundUp_le_iff (Nat.two_pow_pos _)]

theorem wholePixels_mono {x y : Binary32} (h : x.units ≤ y.units) :
    wholePixels x ≤ wholePixels y :=
  min_le_min (roundUp_mono _ h) (Nat.le_refl _)

theorem widthOfCount_mono {m n f g : Nat} (hcount : m ≤ n) (hfont : f ≤ g) :
    widthOfCount m f ≤ widthOfCount n g :=
  wholePixels_mono (units_mul_mono
    (units_mul_mono (units_ofNat_mono hcount) (units_ofNat_mono hfont)) (Nat.le_refl _))

theorem widestLabel_le_iff {labels : List String} {f k : Nat} :
    widestLabel labels f ≤ k ↔ ∀ l ∈ labels, textWidth l f ≤ k := by
  rw [widestLabel]
  cases hmax : (labels.map fun l => textWidth l f).max? with
  | none =>
      obtain rfl := List.map_eq_nil_iff.mp (List.max?_eq_none_iff.mp hmax)
      exact iff_of_true (Nat.zero_le k) fun l hl => absurd hl List.not_mem_nil
  | some w =>
      rw [List.foldl_max, hmax, Option.getD_some, Nat.zero_max, List.max?_le_iff hmax,
        List.forall_mem_map]

theorem textWidth_le_widestLabel {labels : List String} {l : String} (f : Nat) (h : l ∈ labels) :
    textWidth l f ≤ widestLabel labels f :=
  widestLabel_le_iff.mp (Nat.le_refl _) l h

theorem textWidth_mono {s t : String} {f g : Nat} (hlength : s.length ≤ t.length)
    (hfont : f ≤ g) : textWidth s f ≤ textWidth t g :=
  widthOfCount_mono hlength hfont

/-- A label with the most characters is as wide as any. -/
theorem widestLabel_eq {labels : List String} {l : String} (f : Nat) (h : l ∈ labels)
    (hmost : ∀ l' ∈ labels, l'.length ≤ l.length) : widestLabel labels f = textWidth l f :=
  le_antisymm
    (widestLabel_le_iff.mpr fun l' hl' => textWidth_mono (hmost l' hl') (Nat.le_refl f))
    (textWidth_le_widestLabel f h)

theorem exists_longest {labels : List String} (h : labels ≠ []) :
    ∃ l ∈ labels, ∀ l' ∈ labels, l'.length ≤ l.length := by
  obtain ⟨l, hl⟩ : ∃ l, labels.argmax String.length = some l :=
    Option.ne_none_iff_exists'.mp (mt List.argmax_eq_none.mp h)
  exact ⟨l, List.argmax_mem hl, fun l' hl' => List.le_of_mem_argmax hl' hl⟩

/-- More characters or a larger font never make a text narrower, whatever is
rounded or cut off on the way, so the room for some labels is what the longest
of them needs. -/
theorem widest_label_is_longest :
    (∀ (s t : String) (f g : Nat), s.length ≤ t.length → f ≤ g →
      textWidth s f ≤ textWidth t g) ∧
    (∀ (labels : List String) (l : String) (f : Nat), l ∈ labels →
      (∀ l' ∈ labels, l'.length ≤ l.length) → widestLabel labels f = textWidth l f) ∧
    (∀ (labels : List String) (f : Nat), labels ≠ [] →
      ∃ l ∈ labels, (∀ l' ∈ labels, l'.length ≤ l.length) ∧
        widestLabel labels f = textWidth l f) := by
  refine ⟨fun s t f g => textWidth_mono, fun labels l f => widestLabel_eq f, fun labels f h => ?_⟩
  obtain ⟨l, hl, hmost⟩ := exists_longest h
  exact ⟨l, hl, hmost, widestLabel_eq f hl hmost⟩

/-- Past the largest count that is exact one character more is not seen, and
where pixels run out neither the text nor the font can grow any further. -/
theorem widest_label_past_precision :
    let short := String.ofList (List.replicate (2 ^ 24) 'm')
    let long := String.ofList (List.replicate (2 ^ 24 + 1) 'm')
    textWidth short 11 ≤ textWidth long 12 ∧ textWidth short 11 = 110729632 ∧
    textWidth short 12 = 120795960 ∧ textWidth long 12 = 120795960 ∧
    textWidth long 427 ≤ textWidth long 4294967295 ∧
    textWidth long 427 = mostPixels ∧ textWidth long 4294967295 = mostPixels ∧
    widestLabel ["", long, short] 12 = textWidth long 12 := by
  intro short long
  have hlength (n : Nat) : (String.ofList (List.replicate n 'm')).length = n := by simp
  have hshort : short.length = 2 ^ 24 := hlength _
  have hlong : long.length = 2 ^ 24 + 1 := hlength _
  obtain ⟨hmono, hwidest, -⟩ := widest_label_is_longest
  refine ⟨hmono short long 11 12 (by omega) (by decide), ?_, ?_, ?_,
    hmono long long 427 4294967295 (Nat.le_refl _) (by decide), ?_, ?_,
    hwidest ["", long, short] long 12 (by simp) ?_⟩
  case refine_6 =>
    intro l hl
    simp only [List.mem_cons, List.not_mem_nil, or_false] at hl
    rcases hl with rfl | rfl | rfl
    · exact Nat.zero_le _
    · exact Nat.le_refl _
    · omega
  all_goals
    rw [textWidth]
    first | rw [hshort] | rw [hlong]
    decide +kernel

/-! ## Products that are exact -/

theorem units_characterWidth : characterWidth.units = 10066330 * 2 ^ 125 := by decide

theorem units_ofNat_mul_ofNat {n f : Nat} (hp : n * f < 2 ^ 24) :
    (ofNat n * ofNat f : Binary32).units = n * f * 2 ^ Format.single.unitExponent := by
  by_cases hzero : n * f = 0
  · have hunits : (ofNat n : Binary32).units * (ofNat f : Binary32).units = 0 := by
      rcases Nat.mul_eq_zero.mp hzero with rfl | rfl
      · rw [units_ofNat_single (n := 0) (by decide), Nat.zero_mul, Nat.zero_mul]
      · rw [units_ofNat_single (n := 0) (by decide), Nat.zero_mul, Nat.mul_zero]
    rw [units_mul, hunits, hzero, Nat.zero_mul, Format.nearestUnits_zero _ (Nat.two_pow_pos _),
      Format.units_zero]
  · obtain ⟨hnzero, hfzero⟩ := Nat.mul_ne_zero_iff.mp hzero
    have hn : n ≤ n * f := Nat.le_mul_of_pos_right n (Nat.pos_of_ne_zero hfzero)
    have hf : f ≤ n * f := Nat.le_mul_of_pos_left f (Nat.pos_of_ne_zero hnzero)
    rw [mul_ofNat (units_ofNat_single (by omega)) (units_ofNat_single (by omega)),
      units_ofNat_single hp]

/-- The only rounding of a short width is the last one. -/
theorem widthOfCount_eq {n f : Nat} (hp : n * f < 2 ^ 24) : ∃ x : Binary32,
    widthOfCount n f = wholePixels x ∧
    x.units = Format.single.units (Format.single.nearestUnits (n * f * 10066330 * 2 ^ 125) 1) := by
  refine ⟨_, rfl, ?_⟩
  have hproduct : n * f * 2 ^ Format.single.unitExponent * (10066330 * 2 ^ 125)
      = n * f * 10066330 * 2 ^ 125 * 2 ^ Format.single.unitExponent := by ring
  have hone := Nat.one_mul (2 ^ Format.single.unitExponent)
  rw [units_mul, units_ofNat_mul_ofNat hp, units_characterWidth, hproduct, ← hone]
  nth_rewrite 1 [hone]
  rw [Format.nearestUnits_mul_right _ _ (Nat.two_pow_pos _)]

theorem widthOfCount_of_mul_eq_zero {n f : Nat} (h : n * f = 0) : widthOfCount n f = 0 := by
  obtain ⟨x, hwidth, hunits⟩ := widthOfCount_eq (n := n) (f := f) (by omega)
  rw [h, Nat.zero_mul, Format.nearestUnits_zero _ Nat.one_pos, Format.units_zero] at hunits
  rw [hwidth, ← Nat.le_zero, wholePixels_le_iff, hunits]
  exact .inl (Nat.zero_le _)

@[simp] theorem widthOfCount_zero (f : Nat) : widthOfCount 0 f = 0 :=
  widthOfCount_of_mul_eq_zero (Nat.zero_mul f)

/-- A short width is three fifths of the product, rounded up, or one pixel
more where that is a whole number. -/
theorem widthOfCount_near {n f : Nat} (hp : n * f ≤ 2 ^ 21) :
    3 * (n * f) ≤ 5 * widthOfCount n f ∧ 5 * widthOfCount n f ≤ 3 * (n * f) + 5 := by
  obtain ⟨x, hwidth, hunits⟩ := widthOfCount_eq (n := n) (f := f) (by omega)
  rw [hwidth]
  generalize n * f = p at hp hunits ⊢
  have hscale (a : Nat) : a * 2 ^ 149 = a * 2 ^ 24 * 2 ^ 125 := by
    rw [Nat.mul_assoc, ← Nat.pow_add]
  have hscale' (a : Nat) : a * 2 ^ 146 = a * 2 ^ 21 * 2 ^ 125 := by
    rw [Nat.mul_assoc, ← Nat.pow_add]
  constructor
  · by_contra hshort
    -- The width would be at most a whole number that the product has passed by
    -- an eighth.
    obtain ⟨k, hk⟩ : ∃ k, (3 * p - 1) / 5 = k := ⟨_, rfl⟩
    have hpassed : (8 * k + 1) * 2 ^ 146 ≤ x.units := by
      rw [hunits]
      refine Format.le_units_nearestUnits_of_le Nat.one_pos ?_ ?_ ?_
      · change 8 * k + 1 < 2 ^ 24
        omega
      · exact lt_units_infinity_single (by omega) (by decide)
      · rw [hscale', Nat.mul_one]
        exact Nat.mul_le_mul_right _ (by omega)
    have hle : wholePixels x ≤ k := by omega
    rw [wholePixels_le_iff, unitExponent_single] at hle
    have hmost : mostPixels = 4294967295 := rfl
    omega
  · obtain ⟨k, hk⟩ : ∃ k, (3 * p + 5) / 5 = k := ⟨_, rfl⟩
    have hle : x.units ≤ k * 2 ^ 149 := by
      rw [hunits]
      refine Format.units_nearestUnits_le_of_le Nat.one_pos ?_ ?_ ?_
      · change k < 2 ^ 24
        omega
      · exact lt_units_infinity_single (by omega) (by decide)
      · rw [hscale, Nat.mul_one]
        exact Nat.mul_le_mul_right _ (by omega)
    have := wholePixels_le_iff.mpr (.inl (unitExponent_single ▸ hle))
    omega

/-- In the upper part of a binade the factor is too large by more than what
rounding takes away. A length that is a whole number comes out too long there.
-/
theorem lt_widthOfCount {n f : Nat} (hlow : 5 * 2 ^ 18 < n * f) (hhigh : n * f ≤ 6 * 2 ^ 18) :
    3 * (n * f) < 5 * widthOfCount n f := by
  obtain ⟨x, hwidth, hunits⟩ := widthOfCount_eq (n := n) (f := f) (by omega)
  rw [hwidth]
  generalize n * f = p at hlow hhigh hunits ⊢
  replace hlow : 1310720 < p := hlow
  have hbinade : p * 10066330 * 2 ^ 125 < 2 ^ (Format.single.fractionBits + 145 + 1) * 1 :=
    (Nat.mul_lt_mul_of_pos_right (show p * 10066330 < 2 ^ 44 by omega)
      (Nat.two_pow_pos 125)).trans_eq (by decide)
  by_contra hshort
  obtain ⟨k, hk⟩ : ∃ k, wholePixels x = k := ⟨_, rfl⟩
  have hle := hk.le
  rw [wholePixels_le_iff, unitExponent_single] at hle
  have hround := Format.two_mul_le_two_mul_units_nearestUnits Nat.one_pos (by decide)
    hbinade
  rw [← hunits] at hround
  have hmost : mostPixels = 4294967295 := rfl
  omega

/-- One character more takes at most one pixel more than the parts do, and
not even that if the width of a single one has air in it. -/
theorem widthOfCount_succ_le {n f : Nat} (hp : (n + 1) * f ≤ 2 ^ 21) :
    widthOfCount (n + 1) f ≤ widthOfCount n f + widthOfCount 1 f + 1 ∧
    (5 * widthOfCount 1 f ≠ 3 * f →
      widthOfCount (n + 1) f ≤ widthOfCount n f + widthOfCount 1 f) := by
  have hwhole := widthOfCount_near hp
  have hsum := Nat.add_one_mul n f
  have hpart := widthOfCount_near (n := n) (f := f) (by omega)
  have hone := widthOfCount_near (n := 1) (f := f) (by omega)
  rw [Nat.one_mul] at hone
  refine ⟨by omega, fun hair => by omega⟩

/-! ## Sums that do not overflow -/

/-- Each factor is rounded up at most as far as one rounding can, and two more
are made on the way. -/
theorem atMost_product {n f : Nat} (hn : n ≠ 0) (hf : f ≠ 0) :
    AtMost 5 (ofNat n * ofNat f * characterWidth) (n * f * 6) 10 := by
  have hone (a : Nat) (ha : a ≠ 0) : AtMost 1 (ofNat a : Binary32) a 1 := by
    refine AtMost.ofRatio false Nat.one_pos ?_
    have hle := Nat.mul_le_mul_right (2 ^ Format.single.unitExponent)
      (Nat.one_le_iff_ne_zero.mpr ha)
    exact Nat.le_trans (by decide) hle
  have hfactor : AtMost 1 characterWidth 6 10 :=
    AtMost.ofRatio false (by decide) (by decide)
  have hfactors := Nat.mul_le_mul (le_units_ofNat_single hn) (le_units_ofNat_single hf)
  have hproduct := (hone n hn).mul (hone f hf) (Nat.le_trans (by decide) hfactors)
  have hunits : 1 * 1 * 2 ^ Format.single.unitExponent ≤ (ofNat n * ofNat f : Binary32).units := by
    rw [← units_ofNat_mul_ofNat (by decide)]
    exact units_mul_mono (units_ofNat_mono (Nat.one_le_iff_ne_zero.mpr hn))
      (units_ofNat_mono (Nat.one_le_iff_ne_zero.mpr hf))
  have hlast := Nat.mul_le_mul_right characterWidth.units hunits
  have hrounded := hproduct.mul hfactor (Nat.le_trans (by decide) hlast)
  exact hrounded

theorem widthOfCount_le_of_le {n f k : Nat} (h : 61 * (n * f) ≤ 100 * k) :
    widthOfCount n f ≤ k := by
  by_cases hzero : n * f = 0
  · rw [widthOfCount_of_mul_eq_zero hzero]
    exact Nat.zero_le _
  · obtain ⟨hn, hf⟩ : n ≠ 0 ∧ f ≠ 0 := Nat.mul_ne_zero_iff.mp hzero
    have hmost := atMost_product hn hf
    have hscaled := Nat.mul_le_mul_right (2 ^ Format.single.unitExponent) h
    rw [AtMost, Nat.mul_right_comm] at hmost
    rw [Nat.mul_assoc 61, Nat.mul_assoc 100] at hscaled
    refine wholePixels_le_iff.mpr (.inl ?_)
    generalize 2 ^ Format.single.unitExponent = e, n * f = p at hscaled hmost ⊢
    change (2 ^ 24) ^ 5 * _ ≤ (2 ^ 24 + 1) ^ 5 * _ at hmost
    omega

/-- What a cut label takes by its parts is a word, as long as the whole text
with an ellipsis is a word of pixels at full width. -/
theorem widthOfCount_add_lt {n f : Nat} (h : (n + 1) * f ≤ 2 ^ 32) :
    widthOfCount n f + widthOfCount 1 f < 2 ^ 32 := by
  have hn := widthOfCount_le_of_le (n := n) (f := f) (k := (61 * (n * f) + 99) / 100) (by omega)
  have hone := widthOfCount_le_of_le (n := 1) (f := f) (k := (61 * f + 99) / 100) (by omega)
  rw [Nat.add_one_mul] at h
  omega

end Chart

end RankedBars
