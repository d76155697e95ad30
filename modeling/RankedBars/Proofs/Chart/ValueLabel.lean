import RankedBars.Proofs.Chart.LaidOut
import RankedBars.Proofs.Json.Numeral
import RankedBars.Proofs.Number.Rational

/-!
# The number beside a bar

A value label is read as a reader of its locale would: the marks of the groups
are passed over and the decimal mark is a point. What is read is the value in
hundredths, whichever of its two forms the label has. A whole number is a
hundred times as many hundredths, so that it is read exactly, and what is known
about rounding to hundredths, that it stays near and keeps the order, holds for
all labels at once.
-/

namespace RankedBars

open Json (Numeral)

/-! ## Numerals -/

/-- The sign of a number, as it is written. -/
def signText (negative : Bool) : List Char := if negative then ['-'] else []

namespace Json.Numeral

theorem text_eq (n : Numeral) : n.text = signText n.negative ++ n.unsigned := by
  rw [text, signText]
  cases n.negative <;> rfl

/-- A number of hundredths, with two places. -/
def ofHundredths (negative : Bool) (n : Nat) : Numeral :=
  { ofInt (n / 100 : Nat) with
    negative
    fraction := [Nat.digitChar (n % 100 / 10), Nat.digitChar (n % 10)]
    fraction_isDigit := by
      have hten : n % 100 / 10 < 10 := by omega
      have hone : n % 10 < 10 := by omega
      simp [Nat.isDigit_digitChar, hten, hone] }

theorem unsigned_ofInt (i : Int) : (ofInt i).unsigned = Nat.toDigits 10 i.natAbs :=
  List.append_nil _

theorem unsigned_ofHundredths (negative : Bool) (n : Nat) :
    (ofHundredths negative n).unsigned = hundredthsText '.' n := by
  rw [unsigned, ofHundredths, hundredthsText]
  rfl

theorem value_ofInt (i : Int) : (ofInt i).decimal.value = i := by
  have hdigits : (ofInt i).decimal.digits = i.natAbs := by
    rw [digits_decimal, show (ofInt i).fraction = [] from rfl, List.append_nil,
      ofDigits_whole_ofInt]
  have hsign : withSign (i < 0) i.natAbs = i := by
    rw [withSign]
    simp only [decide_eq_true_eq]
    split <;> omega
  have hnegative : (ofInt i).decimal.negative = decide (i < 0) := rfl
  have hexponent : (ofInt i).decimal.exponent = 0 := rfl
  rw [Decimal.value, hdigits, hnegative, hexponent, hsign, zpow_zero, mul_one]

theorem value_ofHundredths (negative : Bool) (n : Nat) :
    (ofHundredths negative n).decimal.value = withSign negative n / 100 := by
  have hten : digitValue (Nat.digitChar (n % 100 / 10)) = n % 100 / 10 :=
    Nat.toNat_digitChar_sub_48_of_lt_ten (by omega)
  have hone : digitValue (Nat.digitChar (n % 10)) = n % 10 :=
    Nat.toNat_digitChar_sub_48_of_lt_ten (by omega)
  have hdigits : (ofHundredths negative n).decimal.digits = n := by
    change ofDigits (Nat.toDigits 10 (n / 100) ++
      [Nat.digitChar (n % 100 / 10), Nat.digitChar (n % 10)]) = n
    rw [List.append_cons, ofDigits_append_singleton, ofDigits_append_singleton, ofDigits_toDigits,
      hten, hone]
    omega
  have hnegative : (ofHundredths negative n).decimal.negative = negative := rfl
  have hexponent : (ofHundredths negative n).decimal.exponent = -2 := rfl
  rw [Decimal.value, hdigits, hnegative, hexponent]
  norm_num [div_eq_mul_inv]

end Json.Numeral

/-! ## Reading a label -/

namespace Locale

variable {locale : Locale}

/-- A label without the marks of its groups, and with a point for its decimal
mark. -/
def plain (locale : Locale) (label : List Char) : List Char :=
  (label.filter (· ≠ locale.groupMark)).map fun c => if c = locale.decimalMark then '.' else c

/-- The number that a label writes. -/
def number? (locale : Locale) (label : String) : Option ℚ :=
  let (negative, rest) := NumberText.takeSign (locale.plain label.toList)
  (NumberText.decimal? negative rest).map Decimal.value

/-- What can stand in a label beside the two marks. -/
def IsPlain (c : Char) : Prop := c.isAlphanum ∨ c = '-'

instance (c : Char) : Decidable (IsPlain c) := inferInstanceAs (Decidable (_ ∨ _))

theorem isPlain_of_isDigit {c : Char} (hc : c.isDigit) : IsPlain c :=
  .inl (by rw [Char.isAlphanum, hc, Bool.or_true])

theorem isPlain_of_mem_signText {negative : Bool} : ∀ c ∈ signText negative, IsPlain c := by
  cases negative <;> simp [signText, IsPlain]

/-- The marks of a locale cannot be mistaken for each other or for anything else
in a label. -/
structure Unambiguous (locale : Locale) : Prop where
  minus : locale.minus = "-"
  different : locale.groupMark ≠ locale.decimalMark
  groupMark : ¬ IsPlain locale.groupMark
  decimalMark : ¬ IsPlain locale.decimalMark

theorem unambiguous_ofTag (tag : String) : (ofTag tag).Unambiguous := by
  rw [ofTag]
  split <;> constructor <;> decide

theorem plain_append (locale : Locale) (front back : List Char) :
    locale.plain (front ++ back) = locale.plain front ++ locale.plain back := by
  rw [plain, List.filter_append, List.map_append]
  rfl

theorem plain_filter (locale : Locale) (label : List Char) :
    locale.plain (label.filter (· ≠ locale.groupMark)) = locale.plain label := by
  rw [plain, List.filter_filter]
  simp only [Bool.and_self]
  rfl

theorem number?_of_plain_eq {label : String} {n : Numeral}
    (h : locale.plain label.toList = n.text) : locale.number? label = some n.decimal.value := by
  rw [number?, h, n.takeSign_text]
  dsimp only
  rw [n.decimal?_unsigned, Option.map_some]

namespace Unambiguous

variable (h : locale.Unambiguous)

include h

theorem plain_eq_self {text : List Char} (htext : ∀ c ∈ text, IsPlain c) :
    locale.plain text = text := by
  have hgroup : ∀ c ∈ text, c ≠ locale.groupMark := by
    rintro c hc rfl
    exact h.groupMark (htext _ hc)
  have hdecimal : ∀ c ∈ text, (if c = locale.decimalMark then '.' else c) = c := by
    intro c hc
    refine if_neg ?_
    rintro rfl
    exact h.decimalMark (htext _ hc)
  rw [plain, List.filter_eq_self.mpr fun c hc => decide_eq_true (hgroup c hc),
    List.map_congr_left hdecimal, List.map_id']

theorem plain_signText (negative : Bool) : locale.plain (signText negative) = signText negative :=
  h.plain_eq_self isPlain_of_mem_signText

end Unambiguous

end Locale

/-! ## Groups -/

theorem filter_groupReversed {mark : Char} {digits : List Char} (h : mark ∉ digits) :
    (groupReversed mark digits).filter (· ≠ mark) = digits := by
  fun_induction groupReversed mark digits with
  | case1 a b c d rest ih =>
      have hrest : mark ∉ d :: rest := fun hmem => h (by simp [List.mem_cons.mp hmem])
      have ha : a ≠ mark := fun heq => h (by simp [heq])
      have hb : b ≠ mark := fun heq => h (by simp [heq])
      have hc : c ≠ mark := fun heq => h (by simp [heq])
      simpa [ha, hb, hc] using ih hrest
  | case2 digits hshort =>
      refine List.filter_eq_self.mpr fun c hc => decide_eq_true ?_
      rintro rfl
      exact h hc

/-- Groups of three digits with a mark between any two of them. The first group
may have less than three, but not none. -/
inductive GroupedBy (mark : Char) : List Char → Prop
  | first {digits : List Char} : digits ≠ [] → digits.length ≤ 3 → (∀ c ∈ digits, c.isDigit) →
    GroupedBy mark digits
  | next {text digits : List Char} : GroupedBy mark text → digits.length = 3 →
    (∀ c ∈ digits, c.isDigit) → GroupedBy mark (text ++ mark :: digits)

theorem groupedBy_groupReversed (mark : Char) {digits : List Char} (hne : digits ≠ [])
    (hdigits : ∀ c ∈ digits, c.isDigit) :
    GroupedBy mark (groupReversed mark digits).reverse := by
  fun_induction groupReversed mark digits with
  | case1 a b c d rest ih =>
      have hfront : GroupedBy mark (groupReversed mark (d :: rest)).reverse :=
        ih (List.cons_ne_nil d rest) fun e he => hdigits e (by simp [List.mem_cons.mp he])
      have hgroup : ∀ e ∈ [c, b, a], e.isDigit := fun e he => hdigits e (by
        simp only [List.mem_cons, List.not_mem_nil, or_false] at he ⊢
        tauto)
      simpa using hfront.next rfl hgroup
  | case2 digits hshort =>
      have hlength : digits.length ≤ 3 := by
        rcases digits with _ | ⟨a, _ | ⟨b, _ | ⟨c, _ | ⟨d, rest⟩⟩⟩⟩
        case cons.cons.cons.cons => exact absurd rfl (hshort a b c d rest)
        all_goals simp
      refine .first (List.reverse_ne_nil_iff.mpr hne) ?_ fun e he =>
        hdigits e (List.mem_reverse.mp he)
      rwa [List.length_reverse]

theorem groupedBy_grouped (mark : Char) (n : Nat) : GroupedBy mark (grouped mark n) := by
  refine groupedBy_groupReversed mark ?_ fun c hc => ?_
  · exact List.reverse_ne_nil_iff.mpr Nat.toDigits_ne_nil
  · exact Numeral.isDigit_of_mem_toDigits (List.mem_reverse.mp hc)

/-! ## The two forms of a label -/

theorem isPlain_of_mem_toDigits {n : Nat} : ∀ c ∈ Nat.toDigits 10 n, Locale.IsPlain c :=
  fun _ hc => Locale.isPlain_of_isDigit (Numeral.isDigit_of_mem_toDigits hc)

namespace Locale

variable {locale : Locale} {x : Binary64}

theorem toList_format_of_wholeValue?_eq_none (hfinite : x.isFinite = true)
    (hnone : Binary64.wholeValue? x = none) : (locale.format x).toList
      = signText x.negative ++ hundredthsText locale.decimalMark (Binary64.hundredths x) := by
  have hnumber : ¬ x.isNaN = true := ne_true_of_eq_false (Binary.isNaN_of_isFinite hfinite)
  rw [format, hnone]
  dsimp only
  rw [if_neg hnumber, hfinite, Bool.not_true, if_neg Bool.false_ne_true, String.toList_append,
    String.toList_ofList, signText]
  cases x.negative <;> rfl

theorem mem_hundredthsText {mark c : Char} {n : Nat} (hc : c ∈ hundredthsText mark n) :
    IsPlain c ∨ c = mark := by
  rcases List.mem_append.mp hc with hc | hc
  · exact .inl (isPlain_of_mem_toDigits c hc)
  rcases List.mem_cons.mp hc with rfl | hc
  · exact .inr rfl
  · exact .inl (isPlain_of_isDigit ((Numeral.ofHundredths false n).fraction_isDigit c hc))

namespace Unambiguous

variable (h : locale.Unambiguous)

include h

theorem toList_format_of_whole {n : Int} (hfinite : x.isFinite = true) (hvalue : x.value = n)
    (hlt : n.natAbs < 2 ^ 63) : (locale.format x).toList
      = signText (n < 0) ++ grouped locale.groupMark n.natAbs := by
  have hwhole := (Binary64.wholeValue?_eq_some_iff hfinite).mpr ⟨hvalue, hlt⟩
  rw [format, hwhole, signText, h.minus]
  dsimp only
  rw [String.toList_append, String.toList_ofList]
  simp only [decide_eq_true_eq]
  split <;> rfl

theorem plain_grouped (n : Nat) :
    locale.plain (grouped locale.groupMark n) = Nat.toDigits 10 n := by
  have hmark : locale.groupMark ∉ (Nat.toDigits 10 n).reverse := fun hmem =>
    h.groupMark (isPlain_of_mem_toDigits _ (List.mem_reverse.mp hmem))
  rw [← plain_filter, grouped, List.filter_reverse, filter_groupReversed hmark,
    List.reverse_reverse]
  exact h.plain_eq_self isPlain_of_mem_toDigits

theorem plain_hundredthsText (n : Nat) :
    locale.plain (hundredthsText locale.decimalMark n) = hundredthsText '.' n := by
  have hmark : locale.plain [locale.decimalMark] = ['.'] := by
    simp [plain, h.different.symm]
  have hplaces : ∀ c ∈ [Nat.digitChar (n % 100 / 10), Nat.digitChar (n % 10)], IsPlain c :=
    fun c hc => isPlain_of_isDigit ((Numeral.ofHundredths false n).fraction_isDigit c hc)
  rw [hundredthsText, List.append_cons, plain_append, plain_append, hmark,
    h.plain_eq_self isPlain_of_mem_toDigits, h.plain_eq_self hplaces, ← List.append_cons]
  rfl

/-- Whatever form the label of a finite value has, it writes the hundredths. -/
theorem number?_format (hfinite : x.isFinite = true) :
    locale.number? (locale.format x) = some (Binary64.rounded x) := by
  cases hwhole : Binary64.wholeValue? x with
  | some n =>
      obtain ⟨hvalue, hlt⟩ := (Binary64.wholeValue?_eq_some_iff hfinite).mp hwhole
      have hplain : locale.plain (locale.format x).toList = (Numeral.ofInt n).text := by
        rw [h.toList_format_of_whole hfinite hvalue hlt, plain_append, h.plain_signText,
          h.plain_grouped, Numeral.text_eq, Numeral.unsigned_ofInt]
        rfl
      rw [number?_of_plain_eq hplain, Numeral.value_ofInt, Binary64.rounded_of_whole hvalue]
  | none =>
      have hplain : locale.plain (locale.format x).toList
          = (Numeral.ofHundredths x.negative (Binary64.hundredths x)).text := by
        rw [toList_format_of_wholeValue?_eq_none hfinite hwhole, plain_append, h.plain_signText,
          h.plain_hundredthsText, Numeral.text_eq, Numeral.unsigned_ofHundredths]
        rfl
      rw [number?_of_plain_eq hplain, Numeral.value_ofHundredths, Binary64.rounded]

/-- The label of any other value writes none. -/
theorem number?_format_eq_none (hfinite : ¬ x.isFinite = true) :
    locale.number? (locale.format x) = none := by
  have hwhole : Binary64.wholeValue? x = none := if_neg fun hwhole => hfinite hwhole.1
  have hlabel : locale.format x ∈ ["NaN", "inf", "-inf"] := by
    rw [format, hwhole]
    simp only [hfinite]
    cases x.isNaN <;> cases x.negative <;> simp
  have hplain : ∀ label ∈ ["NaN", "inf", "-inf"], ∀ c ∈ label.toList, IsPlain c := by
    simp [IsPlain]
  rw [number?, h.plain_eq_self (hplain _ hlabel)]
  generalize locale.format x = label at hlabel
  revert hlabel label
  decide

theorem number?_format_eq_some_iff {number : ℚ} :
    locale.number? (locale.format x) = some number
      ↔ x.isFinite = true ∧ Binary64.rounded x = number := by
  by_cases hfinite : x.isFinite = true
  · rw [h.number?_format hfinite, Option.some_inj, and_iff_right hfinite]
  · rw [h.number?_format_eq_none hfinite]
    exact iff_of_false (Option.some_ne_none number).symm fun hand => hfinite hand.1

end Unambiguous

end Locale

/-! ## What a label promises -/

/-- The labels that a value has in the locales of all tags write one number,
and it is the value as far as two places go. In a whole number that fits a word
the mark stands between groups of three digits, and in no other. -/
structure FaithfulLabel (x : Binary64) (number : ℚ) : Prop where
  reads : ∀ tag, (Locale.ofTag tag).number? ((Locale.ofTag tag).format x) = some number
  exact : x.IsWhole → number = x.value
  near : |number - x.value| ≤ 1 / 200
  grouped : x.IsWhole → |x.value| < 2 ^ 63 → ∀ tag, ∃ text,
    GroupedBy (Locale.ofTag tag).groupMark text ∧
      ((Locale.ofTag tag).format x).toList = signText (x.value < 0) ++ text
  ungrouped : ¬ (x.IsWhole ∧ |x.value| < 2 ^ 63) →
    ∀ tag, (Locale.ofTag tag).groupMark ∉ ((Locale.ofTag tag).format x).toList

theorem faithfulLabel {x : Binary64} (hfinite : x.isFinite = true) :
    FaithfulLabel x (Binary64.rounded x) where
  reads tag := (Locale.unambiguous_ofTag tag).number?_format hfinite
  exact := by
    rintro ⟨n, hvalue⟩
    rw [Binary64.rounded_of_whole hvalue, hvalue]
  near := Binary64.abs_rounded_sub_value_le x
  grouped := by
    rintro ⟨n, hvalue⟩ hlt tag
    have hword : n.natAbs < 2 ^ 63 := (Binary64.natAbs_lt_iff hvalue).mpr hlt
    refine ⟨_, groupedBy_grouped _ n.natAbs, ?_⟩
    rw [(Locale.unambiguous_ofTag tag).toList_format_of_whole hfinite hvalue hword, hvalue]
    simp only [Int.cast_lt_zero]
  ungrouped := by
    intro hfraction tag hmem
    have hlocale := Locale.unambiguous_ofTag tag
    rw [Locale.toList_format_of_wholeValue?_eq_none hfinite
      (Binary64.wholeValue?_eq_none hfinite hfraction)] at hmem
    rcases List.mem_append.mp hmem with hsign | htext
    · exact hlocale.groupMark (Locale.isPlain_of_mem_signText _ hsign)
    · exact (Locale.mem_hundredthsText htext).elim hlocale.groupMark hlocale.different

namespace Chart

/-- A drawing has the labels of the values of a view, from top to bottom, and
the numbers that they write never increase. -/
structure FallingLabels (view : Dataset) (locale : Locale) (d : Drawing) : Prop where
  labels : d.values.map (·.2) = view.map fun p => locale.format p.value
  downward : view.length ≤ 85000000 → (d.values.map (·.1)).Pairwise (· < ·)
  falling : (d.values.map (·.2)).Pairwise fun upper lower => ∀ p q,
    locale.number? upper = some p → locale.number? lower = some q → q ≤ p

/-- Rows never come near the end of a word. -/
theorem rowCenter_eq {index : Nat} (h : index < 85000000) :
    rowCenter index = exactCenter index := by
  refine pixel_of_fitsWord ?_
  rw [← exactCenter, exactCenter_eq, FitsWord]
  omega

theorem fallingLabels (r : Renderer) (data : Dataset) (limit : Int) (showAll : Bool)
    (container : String) (paddingLeft : Option UInt32) (tag : String) :
    FallingLabels (data.view limit showAll) (Locale.ofTag tag)
      (draw (r.config (data.view limit showAll) container paddingLeft) (Locale.ofTag tag)) := by
  have hlocale := Locale.unambiguous_ofTag tag
  have hsorted := pairwise_finite_view data limit showAll
  generalize data.view limit showAll = view at *
  have hshown : (r.config view container paddingLeft).dataLabels = true := rfl
  have hvalues := values_draw hshown (Locale.ofTag tag)
  rw [Renderer.bars_config] at hvalues
  have hlabels : (draw (r.config view container paddingLeft) (Locale.ofTag tag)).values.map (·.2)
      = view.map fun p => (Locale.ofTag tag).format p.value := by
    rw [hvalues]
    refine List.ext_getElem? fun index => ?_
    simp only [List.getElem?_map, List.getElem?_mapIdx, Option.map_map]
    rfl
  refine ⟨hlabels, fun hcount => ?_, ?_⟩
  · rw [hvalues, List.pairwise_map, List.pairwise_iff_getElem]
    intro i j hi hj hlt
    rw [List.length_mapIdx, List.length_map] at hi hj
    rw [List.getElem_mapIdx, List.getElem_mapIdx, rowCenter_eq (by omega), rowCenter_eq (by omega),
      exactCenter_eq, exactCenter_eq]
    omega
  · rw [hlabels, List.pairwise_map]
    refine hsorted.imp fun {upper lower} hle p q hp hq => ?_
    obtain ⟨hupper, rfl⟩ := hlocale.number?_format_eq_some_iff.mp hp
    obtain ⟨hlower, rfl⟩ := hlocale.number?_format_eq_some_iff.mp hq
    exact Binary64.rounded_mono (Binary.value_le_value_iff.mpr (hle hupper hlower))

end Chart

/-- Value labels are faithful. The label of a finite value writes the same
number in the locale of every tag. It is the value if that is whole, however
large it may be, and is within half a hundredth of it if it is not. Groups are
marked in whole numbers that fit a word, between any three digits and nowhere
else. The numbers are in the order of the values, therefore those in the chart
of a ranked view never increase from top to bottom. -/
theorem value_labels_are_faithful : ∃ number : Binary64 → ℚ,
    (∀ x : Binary64, x.isFinite = true → FaithfulLabel x (number x)) ∧
    (∀ x y : Binary64, x.isFinite = true → y.isFinite = true → x.value ≤ y.value →
      number x ≤ number y) ∧
    ∀ (r : Renderer) (data : Dataset) (limit : Int) (showAll : Bool) (container : String)
      (paddingLeft : Option UInt32) (tag : String),
      Chart.FallingLabels (data.view limit showAll) (Locale.ofTag tag)
        (Chart.draw (r.config (data.view limit showAll) container paddingLeft)
          (Locale.ofTag tag)) := by
  refine ⟨Binary64.rounded, ?_, ?_, Chart.fallingLabels⟩
  · intro x hfinite
    exact faithfulLabel hfinite
  · intro x y _ _ hle
    exact Binary64.rounded_mono hle

/-- A value that is rounded to zero and keeps its sign, and one that is a half
in its last place. -/
def barelyNegative : Binary64 := .ofRatio true 1 1024

def eighth : Binary64 := .ofRatio false 1 8

theorem value_labels_are_faithful_around_zero :
    barelyNegative.isFinite = true ∧ eighth.isFinite = true ∧
    barelyNegative.value ≤ eighth.value ∧
    (Locale.ofTag "DE").format barelyNegative = "-0,00" ∧
    (Locale.ofTag "DE").format eighth = "0,12" ∧
    ∃ p q, FaithfulLabel barelyNegative p ∧ FaithfulLabel eighth q ∧ p ≤ q ∧
      (Locale.ofTag "DE").number? "-0,00" = some p ∧
      (Locale.ofTag "DE").number? "0,12" = some q := by
  obtain ⟨number, hfaithful, hmono, -⟩ := value_labels_are_faithful
  have hnegative : barelyNegative.isFinite = true := by decide +kernel
  have heighth : eighth.isFinite = true := by decide +kernel
  have hle : barelyNegative.value ≤ eighth.value :=
    Binary.value_le_value_iff.mpr (by decide +kernel)
  have hzero : (Locale.ofTag "DE").format barelyNegative = "-0,00" := by decide +kernel
  have hplaces : (Locale.ofTag "DE").format eighth = "0,12" := by decide +kernel
  have hp := hfaithful barelyNegative hnegative
  have hq := hfaithful eighth heighth
  refine ⟨hnegative, heighth, hle, hzero, hplaces, _, _, hp, hq,
    hmono _ _ hnegative heighth hle, ?_, ?_⟩
  · exact hzero ▸ hp.reads "DE"
  · exact hplaces ▸ hq.reads "DE"

end RankedBars
