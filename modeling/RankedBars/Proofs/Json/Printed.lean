import RankedBars.Proofs.Json.Literal
import RankedBars.Proofs.Number.Shortest

/-!
# Printed numbers

A floating-point value is printed as a numeral (`printed`), laid out in one of
four ways by where its leading digit stands. Each layout stands for the same
decimal, so the numeral is exact for the value whatever its size
(`exact_printed`). What JSON makes of it again is another matter, and a
question for each value. For whole numbers with a digit to spare it has an
answer (`isShort_printed_ofInt`).
-/

namespace RankedBars.Json

namespace Numeral

/-! ## Layouts -/

theorem isDigit_of_mem_zeros {k : Nat} {c : Char} (hc : c ∈ List.replicate k '0') : c.isDigit := by
  rw [List.eq_of_mem_replicate hc]
  rfl

section

variable (negative : Bool) (digits : Nat)

/-- One digit in front of the point, and an exponent. -/
def scientific (leading : Int) : Numeral where
  negative := negative
  whole := (Nat.toDigits 10 digits).take 1
  fraction := (Nat.toDigits 10 digits).drop 1
  exponent := some (.ofInt leading)
  whole_ne_nil := mt List.take_eq_nil_iff.mp (not_or.mpr ⟨Nat.one_ne_zero, Nat.toDigits_ne_nil⟩)
  no_leading_zero := fun h => absurd (h.1.trans_le (List.length_take_le 1 _)) (Nat.lt_irrefl 1)
  whole_isDigit := fun _ hc => isDigit_of_mem_toDigits (List.mem_of_mem_take hc)
  fraction_isDigit := fun _ hc => isDigit_of_mem_toDigits (List.mem_of_mem_drop hc)

/-- All digits and some zeros in front of the point. -/
def wholeWithZeros (hdigits : digits ≠ 0) (k : Nat) : Numeral where
  negative := negative
  whole := Nat.toDigits 10 digits ++ List.replicate k '0'
  fraction := ['0']
  exponent := none
  whole_ne_nil := List.append_ne_nil_of_left_ne_nil Nat.toDigits_ne_nil _
  no_leading_zero := by
    obtain ⟨c, rest, hcons⟩ := List.exists_cons_of_ne_nil
      (Nat.toDigits_ne_nil : Nat.toDigits 10 digits ≠ [])
    have hhead := head?_toDigits hdigits
    rw [hcons] at hhead ⊢
    exact fun h => hhead h.2
  whole_isDigit := fun _ hc =>
    (List.mem_append.mp hc).elim isDigit_of_mem_toDigits isDigit_of_mem_zeros
  fraction_isDigit := isDigit_of_mem_zero

/-- The point between the digits. -/
def pointed (hdigits : digits ≠ 0) (k : Nat) (hk : k ≠ 0) : Numeral where
  negative := negative
  whole := (Nat.toDigits 10 digits).take k
  fraction := (Nat.toDigits 10 digits).drop k
  exponent := none
  whole_ne_nil := mt List.take_eq_nil_iff.mp (not_or.mpr ⟨hk, Nat.toDigits_ne_nil⟩)
  no_leading_zero := by
    rw [List.head?_take, if_neg hk]
    exact fun h => head?_toDigits hdigits h.2
  whole_isDigit := fun _ hc => isDigit_of_mem_toDigits (List.mem_of_mem_take hc)
  fraction_isDigit := fun _ hc => isDigit_of_mem_toDigits (List.mem_of_mem_drop hc)

/-- Nothing but a zero in front of the point. -/
def belowOne (k : Nat) : Numeral where
  negative := negative
  whole := ['0']
  fraction := List.replicate k '0' ++ Nat.toDigits 10 digits
  exponent := none
  whole_ne_nil := List.cons_ne_nil _ _
  no_leading_zero := by decide
  whole_isDigit := isDigit_of_mem_zero
  fraction_isDigit := fun _ hc =>
    (List.mem_append.mp hc).elim isDigit_of_mem_zeros isDigit_of_mem_toDigits

def ofDecimal (hdigits : digits ≠ 0) (exponent : Int) : Numeral :=
  let leading : Int := (Nat.toDigits 10 digits).length - 1 + exponent
  if leading < firstPositional ∨ lastPositional < leading then scientific negative digits leading
  else if 0 ≤ exponent then wholeWithZeros negative digits hdigits exponent.toNat
  else if hpoint : 0 ≤ leading then
    pointed negative digits hdigits (leading + 1).toNat (by omega)
  else belowOne negative digits (-leading - 1).toNat

end

/-! ## What the layouts stand for -/

theorem decimal_wholeWithZeros (negative : Bool) {digits : Nat} (hdigits : digits ≠ 0) (k : Nat) :
    (wholeWithZeros negative digits hdigits k).decimal
      = ⟨negative, digits * 10 ^ (k + 1), -1⟩ := by
  rw [decimal, wholeWithZeros]
  dsimp only
  rw [List.append_assoc, ← List.replicate_succ', ofDigits_append, ofDigits_toDigits,
    ofDigits_zeros, List.length_replicate, Nat.add_zero]
  rfl

theorem exact_ofDecimal (negative : Bool) {digits : Nat} (hdigits : digits ≠ 0) (exponent : Int) :
    (ofDecimal negative digits hdigits exponent).exact
      = (⟨negative, digits, exponent⟩ : Decimal).toBinary := by
  have hlength : 0 < (Nat.toDigits 10 digits).length := Nat.length_toDigits_pos
  rw [ofDecimal]
  split
  · rw [exact, decimal, scientific]
    dsimp only
    rw [List.take_append_drop, ofDigits_toDigits, Option.map_some, Option.getD_some,
      Exponent.value_ofInt, List.length_drop]
    congr 2
    omega
  · split
    · next hup =>
        rw [exact, decimal_wholeWithZeros,
          ← Decimal.toBinary_shift negative digits exponent (exponent.toNat + 1)]
        congr 2
        omega
    · split
      · rw [exact, decimal, pointed]
        dsimp only
        rw [List.take_append_drop, ofDigits_toDigits, List.length_drop]
        congr 2
        simp
        omega
      · rw [exact, decimal, belowOne]
        dsimp only
        rw [List.singleton_append, ← List.cons_append, ← List.replicate_succ, ofDigits_append,
          ofDigits_zeros, Nat.zero_mul, Nat.zero_add, ofDigits_toDigits, List.length_append,
          List.length_replicate]
        congr 2
        simp
        omega

/-! ## How the layouts look -/

theorem unsigned_scientific (negative : Bool) (digits : Nat) (leading : Int) :
    (scientific negative digits leading).unsigned =
      (match Nat.toDigits 10 digits with
        | first :: next :: rest => first :: '.' :: next :: rest
        | short => short) ++ 'e' :: (if leading < 0 then '-' else '+') ::
          Nat.toDigits 10 leading.natAbs := by
  have hunsigned : (scientific negative digits leading).unsigned =
      (Nat.toDigits 10 digits).take 1 ++ (pointText ((Nat.toDigits 10 digits).drop 1) ++
        (Exponent.ofInt leading).text) := rfl
  rw [hunsigned]
  generalize Nat.toDigits 10 digits = text
  match text with
  | [] => rfl
  | [_] => rfl
  | _ :: _ :: _ => rfl

theorem unsigned_ofDecimal (negative : Bool) {digits : Nat} (hdigits : digits ≠ 0)
    (exponent : Int) :
    (ofDecimal negative digits hdigits exponent).unsigned
      = (decimalText digits exponent).toList := by
  have hlength : 0 < (Nat.toDigits 10 digits).length := Nat.length_toDigits_pos
  rw [decimalText, String.toList_ofList, ofDecimal]
  split
  · exact unsigned_scientific negative digits _
  · split
    · rw [unsigned, wholeWithZeros]
      exact congrArg _ (List.append_nil _)
    · split
      · next hpoint =>
          have hdrop : (Nat.toDigits 10 digits).drop
              (((Nat.toDigits 10 digits).length : Int) - 1 + exponent + 1).toNat ≠ [] := by
            rw [ne_eq, List.drop_eq_nil_iff]
            omega
          rw [unsigned, pointed]
          dsimp only
          rw [pointText_of_ne_nil hdrop, exponentText, List.append_nil]
      · have hfraction (k : Nat) : List.replicate k '0' ++ Nat.toDigits 10 digits ≠ [] :=
          List.append_ne_nil_of_right_ne_nil _ Nat.toDigits_ne_nil
        rw [unsigned, belowOne]
        dsimp only
        rw [pointText_of_ne_nil (hfraction _), exponentText, List.append_nil]
        rfl

theorem negative_ofDecimal (negative : Bool) {digits : Nat} (hdigits : digits ≠ 0)
    (exponent : Int) : (ofDecimal negative digits hdigits exponent).negative = negative := by
  rw [ofDecimal]
  split
  · rfl
  · split
    · rfl
    · split <;> rfl

/-! ## Values -/

def zero (negative : Bool) : Numeral where
  negative := negative
  whole := ['0']
  fraction := ['0']
  exponent := none
  whole_ne_nil := List.cons_ne_nil _ _
  no_leading_zero := by decide
  whole_isDigit := isDigit_of_mem_zero
  fraction_isDigit := isDigit_of_mem_zero

/-- The numeral that a finite value is printed as. -/
def printed (x : Binary64) : Numeral :=
  if hzero : x.magnitude = 0 then zero x.negative
  else ofDecimal x.negative (Format.double.shortest x.magnitude).1
    (Format.shortest_ne_zero (Nat.pos_of_ne_zero hzero)) (Format.double.shortest x.magnitude).2

theorem text_printed {x : Binary64} (hfinite : x.isFinite) :
    (printed x).text = (floatText x).toList := by
  have hnot : ¬ (!x.isFinite) = true := by rw [hfinite]; exact Bool.false_ne_true
  rw [floatText, if_neg hnot, printed]
  dsimp only
  split
  · cases x.negative <;> rfl
  · rw [text, unsigned_ofDecimal, negative_ofDecimal, String.toList_append]
    cases x.negative <;> rfl

/-- A value is the nearest one to the numeral that it is printed as. -/
theorem exact_printed {x : Binary64} (hfinite : x.isFinite) : (printed x).exact = x := by
  rw [printed]
  split
  · next hzero =>
      have hnearest : Format.double.nearest 0 1 = 0 := by decide +kernel
      have hdecimal : (zero x.negative).decimal = ⟨x.negative, 0, -1⟩ := rfl
      rw [exact, hdecimal, Decimal.toBinary_zero]
      refine Binary.ext (Binary.negative_ofRatio _ _ _) ?_
      rw [Binary.magnitude_ofRatio, hnearest, hzero]
  · next hzero => rw [exact_ofDecimal, toBinary_shortest hfinite (Nat.pos_of_ne_zero hzero)]

/-- A value is read back from its numeral if and only if the numeral is read
alike bare and in a text. -/
theorem value?_printed_iff {x : Binary64} (hfinite : x.isFinite) :
    (printed x).value? = some x ↔ (printed x).ReadsAlike := by
  have htext : (printed x).asText = some x := by
    rw [asText, exact_printed hfinite, Option.filter_some, if_pos hfinite]
  rw [ReadsAlike, htext, asNumber, Option.filter_eq_some_iff]
  exact (and_iff_left hfinite).symm

/-! ## Whole numbers -/

theorem ofDecimal_whole (negative : Bool) {digits : Nat} (hdigits : digits ≠ 0) {exponent : Int}
    (hexponent : 0 ≤ exponent) (h : digits * 10 ^ exponent.toNat < 10 ^ 16) :
    ofDecimal negative digits hdigits exponent
      = wholeWithZeros negative digits hdigits exponent.toNat := by
  have hplaces : exponent.toNat < 16 := (Nat.pow_lt_pow_iff_right (a := 10) (by omega)).mp
    ((Nat.le_mul_of_pos_left _ (Nat.pos_of_ne_zero hdigits)).trans_lt h)
  have hlength : (Nat.toDigits 10 digits).length ≤ 16 - exponent.toNat := by
    rw [Nat.length_toDigits_le_iff (by decide) (by omega)]
    refine Nat.lt_of_mul_lt_mul_right (a := 10 ^ exponent.toNat) ?_
    rwa [← Nat.pow_add, Nat.sub_add_cancel hplaces.le]
  have hpositional : ¬ (((Nat.toDigits 10 digits).length : Int) - 1 + exponent < firstPositional ∨
      lastPositional < ((Nat.toDigits 10 digits).length : Int) - 1 + exponent) := by
    rw [firstPositional, lastPositional]
    omega
  rw [ofDecimal, if_neg hpositional, if_pos hexponent]

theorem isShort_of_tenths {n : Numeral} {negative : Bool} {digits : Nat}
    (h : n.decimal = ⟨negative, digits, -1⟩) (hdigits : digits < 2 ^ 53) : n.IsShort := by
  rw [IsShort, h]
  exact ⟨hdigits, (by decide : (-1 : Int).natAbs ≤ 22)⟩

/-- A whole number is printed with a zero behind the point, which has to fit the
precision. -/
theorem isShort_printed_ofInt {i : Int} (h : 10 * i.natAbs < 2 ^ 53) :
    (printed (.ofInt i)).IsShort := by
  have hmagnitude : (Binary.ofInt i : Binary64).magnitude = (Binary.ofNat i.natAbs).magnitude :=
    rfl
  rw [printed]
  split
  · have hdecimal : (zero (Binary.ofInt i : Binary64).negative).decimal
        = ⟨(Binary.ofInt i : Binary64).negative, 0, -1⟩ := rfl
    exact isShort_of_tenths hdecimal (by decide)
  · next hzero =>
      have hi : i.natAbs ≠ 0 := by
        intro hi
        rw [hmagnitude, hi] at hzero
        exact hzero (by decide +kernel)
      obtain ⟨hsign, hproduct⟩ := shortest_ofNat hi (by omega)
      rw [← hmagnitude] at hsign hproduct
      rw [ofDecimal_whole _ _ hsign (by rw [hproduct]; omega)]
      refine isShort_of_tenths (decimal_wholeWithZeros _ _ _) ?_
      rw [Nat.pow_succ, ← Nat.mul_assoc, hproduct]
      omega

end Numeral

end RankedBars.Json
