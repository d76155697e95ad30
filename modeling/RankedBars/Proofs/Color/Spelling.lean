import Mathlib.Data.List.Basic
import Mathlib.Data.List.TakeWhile
import RankedBars.Color

/-!
# How colors are spelled

Behind blanks and number signs a color is three or four pairs of characters, and
each pair is a byte. The documented spellings have six or eight digits in these
pairs and one number sign at most. More than these are read, and not much more:
any number of number signs, and a plus for the first digit of a pair
(`wellFormed_iff`).
-/

namespace RankedBars

namespace Text

/-! ## Digits -/

/-- The digits to the base 16, in either case. -/
def hexDigitsOfBothCases : List Char :=
  ['0', '1', '2', '3', '4', '5', '6', '7', '8', '9', 'A', 'B', 'C', 'D', 'E', 'F',
    'a', 'b', 'c', 'd', 'e', 'f']

def IsHexDigit (c : Char) : Prop := c ∈ hexDigitsOfBothCases

instance (c : Char) : Decidable (IsHexDigit c) := inferInstanceAs (Decidable (_ ∈ _))

variable {c : Char} {n : Nat}

theorem toNat_lt_of_hexValue? (h : hexValue? c = some n) : c.toNat < 128 := by
  rw [hexValue?] at h
  split at h
  · next hc => exact Nat.lt_of_le_of_lt (Char.le_def.mp hc.2) (by decide)
  · split at h
    · next hc => exact Nat.lt_of_le_of_lt (Char.le_def.mp hc.2) (by decide)
    · split at h
      · next hc => exact Nat.lt_of_le_of_lt (Char.le_def.mp hc.2) (by decide)
      · cases h

theorem toNat_lt_of_isHexDigit (h : IsHexDigit c) : c.toNat < 128 := by
  have hall : (hexDigitsOfBothCases.all fun c => c.toNat < 128) = true := by decide
  exact of_decide_eq_true (List.all_eq_true.mp hall c h)

/-- What holds of all characters of ASCII. -/
theorem forall_ascii (p : Char → Prop) (h : ∀ n < 128, p (Char.ofNat n)) (hc : c.toNat < 128) :
    p c := by
  have hofNat := h c.toNat hc
  rwa [Char.ofNat_toNat] at hofNat

theorem isSome_hexValue?_iff : (hexValue? c).isSome ↔ IsHexDigit c := by
  -- there are no digits past ASCII, and within it characters are compared one
  -- by one
  have hascii (hc : c.toNat < 128) : (hexValue? c).isSome ↔ IsHexDigit c :=
    forall_ascii (fun c => (hexValue? c).isSome ↔ IsHexDigit c) (by decide +kernel) hc
  constructor
  · intro hsome
    obtain ⟨n, hn⟩ := Option.isSome_iff_exists.mp hsome
    exact (hascii (toNat_lt_of_hexValue? hn)).mp hsome
  · intro hdigit
    exact (hascii (toNat_lt_of_isHexDigit hdigit)).mpr hdigit

/-- A digit is printed as the capital one of its value. -/
theorem capitalHexDigit_of_hexValue? (h : hexValue? c = some n) :
    n < 16 ∧ capitalHexDigit n = c.toUpper := by
  have hascii : ∀ v ∈ hexValue? c, v < 16 ∧ capitalHexDigit v = c.toUpper :=
    forall_ascii (fun c => ∀ v ∈ hexValue? c, v < 16 ∧ capitalHexDigit v = c.toUpper)
      (by decide +kernel) (toNat_lt_of_hexValue? h)
  exact hascii n h

/-- Digits are neither blanks nor the other characters that colors are written
with. -/
theorem plain_of_isHexDigit (h : IsHexDigit c) : isBlank c = false ∧ c ≠ '#' ∧ c ≠ '+' := by
  have hall : (hexDigitsOfBothCases.all fun c => isBlank c = false ∧ c ≠ '#' ∧ c ≠ '+') = true := by
    decide
  exact of_decide_eq_true (List.all_eq_true.mp hall c h)

end Text

namespace Color

open Text (IsHexDigit hexByte)

/-! ## Pairs -/

/-- Two characters that are read as a byte. -/
def IsPair (pair : Char × Char) : Prop := (pair.1 = '+' ∨ IsHexDigit pair.1) ∧ IsHexDigit pair.2

/-- The characters of pairs, one pair after the other. -/
def joined (pairs : List (Char × Char)) : List Char := pairs.flatMap fun pair => [pair.1, pair.2]

variable {high low : Char} {cs : List Char} {pairs : List (Char × Char)} {s : String}

theorem exists_pair?_iff : (∃ b, pair? high low = some b) ↔ IsPair (high, low) := by
  rw [← Option.isSome_iff_exists, pair?, IsPair, ← Text.isSome_hexValue?_iff,
    ← Text.isSome_hexValue?_iff]
  by_cases hplus : high = '+'
  · rw [if_pos hplus, Option.isSome_map]
    exact ⟨fun h => ⟨.inl hplus, h⟩, And.right⟩
  · rw [if_neg hplus]
    cases Text.hexValue? high <;> cases Text.hexValue? low <;> simp [hplus]

/-- Two digits are a byte, which is printed with the same digits. -/
theorem exists_byte (hhigh : IsHexDigit high) (hlow : IsHexDigit low) :
    ∃ b, pair? high low = some b ∧ hexByte b = [high.toUpper, low.toUpper] := by
  obtain ⟨h, hh⟩ := Option.isSome_iff_exists.mp (Text.isSome_hexValue?_iff.mpr hhigh)
  obtain ⟨l, hl⟩ := Option.isSome_iff_exists.mp (Text.isSome_hexValue?_iff.mpr hlow)
  obtain ⟨hhlt, hhprinted⟩ := Text.capitalHexDigit_of_hexValue? hh
  obtain ⟨hllt, hlprinted⟩ := Text.capitalHexDigit_of_hexValue? hl
  have hlt : 16 * h + l < 256 := by omega
  have hbyte : (UInt8.ofNat (16 * h + l)).toNat = 16 * h + l := UInt8.toNat_ofNat_of_lt' hlt
  refine ⟨UInt8.ofNat (16 * h + l), ?_, ?_⟩
  · rw [pair?, if_neg (Text.plain_of_isHexDigit hhigh).2.2, hh, hl]
  · have hdiv : (16 * h + l) / 16 = h := by omega
    have hmod : (16 * h + l) % 16 = l := by omega
    rw [hexByte, hbyte, hdiv, hmod, hhprinted, hlprinted]

/-- Three pairs are a color, and so are four. -/
theorem exists_ofPairs?_iff : (∃ c, ofPairs? cs = some c) ↔
    ∃ pairs, cs = joined pairs ∧ (pairs.length = 3 ∨ pairs.length = 4) ∧ ∀ p ∈ pairs, IsPair p := by
  constructor
  · rintro ⟨c, hc⟩
    rw [ofPairs?.eq_def] at hc
    split at hc
    · next r1 r2 g1 g2 b1 b2 =>
        simp only [Option.bind_eq_bind, Option.bind_eq_some_iff] at hc
        obtain ⟨r, hr, g, hg, b, hb, -⟩ := hc
        refine ⟨[(r1, r2), (g1, g2), (b1, b2)], rfl, .inl rfl, ?_⟩
        simp only [List.forall_mem_cons, ← exists_pair?_iff]
        exact ⟨⟨r, hr⟩, ⟨g, hg⟩, ⟨b, hb⟩, fun _ h => absurd h List.not_mem_nil⟩
    · next r1 r2 g1 g2 b1 b2 a1 a2 =>
        simp only [Option.bind_eq_bind, Option.bind_eq_some_iff] at hc
        obtain ⟨r, hr, g, hg, b, hb, a, ha, -⟩ := hc
        refine ⟨[(r1, r2), (g1, g2), (b1, b2), (a1, a2)], rfl, .inr rfl, ?_⟩
        simp only [List.forall_mem_cons, ← exists_pair?_iff]
        exact ⟨⟨r, hr⟩, ⟨g, hg⟩, ⟨b, hb⟩, ⟨a, ha⟩, fun _ h => absurd h List.not_mem_nil⟩
    · cases hc
  · rintro ⟨pairs, rfl, hlength, hpairs⟩
    have hbyte : ∀ p ∈ pairs, ∃ b, pair? p.1 p.2 = some b :=
      fun p hp => exists_pair?_iff.mpr (hpairs p hp)
    match pairs, hlength with
    | [p, q, t], _ =>
        simp only [List.forall_mem_cons] at hbyte
        obtain ⟨⟨r, hr⟩, ⟨g, hg⟩, ⟨b, hb⟩, -⟩ := hbyte
        exact ⟨⟨r, g, b, 255⟩, by simp [joined, ofPairs?, hr, hg, hb]⟩
    | [p, q, t, u], _ =>
        simp only [List.forall_mem_cons] at hbyte
        obtain ⟨⟨r, hr⟩, ⟨g, hg⟩, ⟨b, hb⟩, ⟨a, ha⟩, -⟩ := hbyte
        exact ⟨⟨r, g, b, a⟩, by simp [joined, ofPairs?, hr, hg, hb, ha]⟩

theorem length_joined (pairs : List (Char × Char)) : (joined pairs).length = 2 * pairs.length := by
  induction pairs with
  | nil => rfl
  | cons p rest ih =>
      rw [joined, List.flatMap_cons, List.length_append, ← joined, ih, List.length_cons]
      simp only [List.length_cons, List.length_nil]
      omega

theorem mem_joined : high ∈ joined pairs ↔ ∃ p ∈ pairs, high = p.1 ∨ high = p.2 := by
  rw [joined, List.mem_flatMap]
  simp only [List.mem_pair]

/-- An even number of characters falls into pairs. -/
theorem exists_joined (n : Nat) (h : cs.length = 2 * n) :
    ∃ pairs, pairs.length = n ∧ cs = joined pairs := by
  induction n generalizing cs with
  | zero => exact ⟨[], rfl, List.length_eq_zero_iff.mp h⟩
  | succ n ih =>
      match cs, h with
      | [], h => exact absurd h (by rw [List.length_nil]; omega)
      | [_], h => exact absurd h (by rw [List.length_singleton]; omega)
      | high :: low :: rest, h =>
          have hlength : rest.length = 2 * n := by
            rw [List.length_cons, List.length_cons] at h
            omega
          obtain ⟨pairs, hpairs, hrest⟩ := ih hlength
          exact ⟨(high, low) :: pairs, by rw [List.length_cons, hpairs], by rw [hrest]; rfl⟩

/-- Characters that are enough for a color, by name. -/
theorem six_or_eight (h : cs.length = 6 ∨ cs.length = 8) :
    (∃ r1 r2 g1 g2 b1 b2, cs = [r1, r2, g1, g2, b1, b2]) ∨
      ∃ r1 r2 g1 g2 b1 b2 a1 a2, cs = [r1, r2, g1, g2, b1, b2, a1, a2] := by
  match cs, h with
  | [r1, r2, g1, g2, b1, b2], _ => exact .inl ⟨r1, r2, g1, g2, b1, b2, rfl⟩
  | [r1, r2, g1, g2, b1, b2, a1, a2], _ => exact .inr ⟨r1, r2, g1, g2, b1, b2, a1, a2, rfl⟩

/-! ## Texts -/

/-- A color as it is documented: six or eight digits, behind a number sign or
not, and blanks around it. -/
def WellFormed (s : String) : Prop :=
  ∃ digits, (Text.trimChars s.toList = digits ∨ Text.trimChars s.toList = '#' :: digits) ∧
    (digits.length = 6 ∨ digits.length = 8) ∧ ∀ c ∈ digits, IsHexDigit c

/-- A color as it is read: three or four pairs, behind any number signs, and
blanks around it. -/
def Accepted (s : String) : Prop :=
  ∃ signs pairs, Text.trimChars s.toList = List.replicate signs '#' ++ joined pairs ∧
    (pairs.length = 3 ∨ pairs.length = 4) ∧ ∀ p ∈ pairs, IsPair p

theorem ne_sign_of_mem_joined (h : ∀ p ∈ pairs, IsPair p) : ∀ c ∈ joined pairs, c ≠ '#' := by
  intro c hc
  obtain ⟨p, hp, hfirst | hsecond⟩ := mem_joined.mp hc
  · obtain hplus | hdigit := (h p hp).1
    · rw [hfirst, hplus]
      decide
    · rw [hfirst]
      exact (Text.plain_of_isHexDigit hdigit).2.1
  · rw [hsecond]
    exact (Text.plain_of_isHexDigit (h p hp).2).2.1

/-- Number signs are only dropped in front. -/
theorem dropWhile_signs (signs : Nat) (h : ∀ c ∈ cs, c ≠ '#') :
    (List.replicate signs '#' ++ cs).dropWhile (· = '#') = cs := by
  rw [List.dropWhile_append_of_pos fun c hc => decide_eq_true (List.eq_of_mem_replicate hc)]
  cases cs with
  | nil => rfl
  | cons c rest => rw [List.dropWhile_cons_of_neg (by simpa using h c List.mem_cons_self)]

theorem exists_ofText?_iff : (∃ c, ofText? s = some c) ↔ Accepted s := by
  simp only [ofText?, exists_ofPairs?_iff]
  constructor
  · rintro ⟨pairs, hjoined, hpairs⟩
    have hsigns : ∀ c ∈ (Text.trimChars s.toList).takeWhile (· = '#'), c = '#' :=
      fun c hc => by simpa using List.mem_takeWhile_imp hc
    refine ⟨((Text.trimChars s.toList).takeWhile (· = '#')).length, pairs, ?_, hpairs⟩
    rw [← List.eq_replicate_of_mem hsigns, ← hjoined, List.takeWhile_append_dropWhile]
  · rintro ⟨signs, pairs, htrim, hpairs⟩
    refine ⟨pairs, ?_, hpairs⟩
    rw [htrim, dropWhile_signs signs (ne_sign_of_mem_joined hpairs.2)]

theorem accepted_of_wellFormed (h : WellFormed s) : Accepted s := by
  obtain ⟨digits, hform, hlength, hdigits⟩ := h
  have heven : digits.length = 2 * (digits.length / 2) := by omega
  obtain ⟨pairs, hpairs, rfl⟩ := exists_joined _ heven
  have hispair : ∀ p ∈ pairs, IsPair p := fun p hp =>
    ⟨.inr (hdigits p.1 (mem_joined.mpr ⟨p, hp, .inl rfl⟩)),
      hdigits p.2 (mem_joined.mpr ⟨p, hp, .inr rfl⟩)⟩
  obtain hnone | hone := hform
  · exact ⟨0, pairs, hnone, by omega, hispair⟩
  · exact ⟨1, pairs, hone, by omega, hispair⟩

/-- What sets the documented spellings apart from the others that are read. -/
theorem wellFormed_iff : WellFormed s ↔ Accepted s ∧
    '+' ∉ Text.trimChars s.toList ∧ ¬ ['#', '#'] <+: Text.trimChars s.toList := by
  constructor
  · intro h
    refine ⟨accepted_of_wellFormed h, ?_⟩
    obtain ⟨digits, hform, -, hdigits⟩ := h
    have hplus : '+' ∉ digits := fun hmem => (Text.plain_of_isHexDigit (hdigits '+' hmem)).2.2 rfl
    have hsign : '#' ∉ digits := fun hmem => (Text.plain_of_isHexDigit (hdigits '#' hmem)).2.1 rfl
    obtain hnone | hone := hform
    · rw [hnone]
      exact ⟨hplus, fun hdouble => hsign (hdouble.subset List.mem_cons_self)⟩
    · rw [hone]
      refine ⟨List.not_mem_cons_of_ne_of_not_mem (by decide) hplus, fun hdouble => ?_⟩
      exact hsign ((List.cons_prefix_cons.mp hdouble).2.subset List.mem_cons_self)
  · rintro ⟨⟨signs, pairs, htrim, hlength, hpairs⟩, hplus, hsigns⟩
    rw [htrim] at hplus hsigns
    have hdigits : ∀ c ∈ joined pairs, IsHexDigit c := by
      intro c hc
      obtain ⟨p, hp, rfl | rfl⟩ := mem_joined.mp hc
      · refine (hpairs p hp).1.resolve_left fun heq => hplus ?_
        rw [← heq]
        exact List.mem_append_right _ hc
      · exact (hpairs p hp).2
    have hlengths : (joined pairs).length = 6 ∨ (joined pairs).length = 8 := by
      rw [length_joined]
      omega
    refine ⟨joined pairs, ?_, hlengths, hdigits⟩
    match signs with
    | 0 => exact .inl htrim
    | 1 => exact .inr htrim
    | k + 2 => exact absurd ⟨List.replicate k '#' ++ joined pairs, rfl⟩ hsigns

end Color

end RankedBars
