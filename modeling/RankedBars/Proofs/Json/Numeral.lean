import Mathlib.Data.List.TakeDrop
import RankedBars.DataPoint
import RankedBars.Proofs.Number.Decimal

/-!
# Numbers as JSON writes them

`Numeral` is the grammar of a JSON number as a type: a sign or none, digits
without a leading zero, a fraction or none, an exponent or none. The same
characters are read in two ways. Standing by itself a numeral is a token, and
the scanner finds all of it, provided that what follows cannot go on with it
(`nextToken?_text`). Standing in a text it is the text of a number, and reads
as the nearest value (`read_text`).
-/

namespace RankedBars

/-! ## Runs of digits -/

/-- What may follow a run of digits. -/
def NoDigit (rest : List Char) : Prop := ∀ c ∈ rest.head?, c.isDigit = false

theorem span_isDigit {digits rest : List Char} (hdigits : ∀ c ∈ digits, c.isDigit)
    (hrest : NoDigit rest) : (digits ++ rest).span Char.isDigit = (digits, rest) := by
  rw [List.span_eq_takeWhile_dropWhile, List.takeWhile_append_of_pos hdigits,
    List.dropWhile_append_of_pos hdigits]
  cases rest with
  | nil => rw [List.takeWhile_nil, List.dropWhile_nil, List.append_nil]
  | cons c rest =>
      have hc : ¬ c.isDigit = true := ne_true_of_eq_false (hrest c rfl)
      rw [List.takeWhile_cons_of_neg hc, List.dropWhile_cons_of_neg hc, List.append_nil]

theorem takeSign_of_isDigit {c : Char} (hc : c.isDigit) (rest : List Char) :
    NumberText.takeSign (c :: rest) = (false, c :: rest) := by
  rw [NumberText.takeSign]
  · intro _ h
    exact absurd hc ((List.cons.inj h).1 ▸ by decide)
  · intro _ h
    exact absurd hc ((List.cons.inj h).1 ▸ by decide)

namespace Json

/-- The exponent of a number, as it is written. -/
structure Exponent where
  mark : Char
  sign : List Char
  digits : List Char
  mark_eq : mark = 'e' ∨ mark = 'E'
  sign_eq : sign = [] ∨ sign = ['+'] ∨ sign = ['-']
  digits_ne_nil : digits ≠ []
  isDigit : ∀ c ∈ digits, c.isDigit

namespace Exponent

variable (e : Exponent)

def text : List Char := e.mark :: (e.sign ++ e.digits)

def value : Int := if e.sign = ['-'] then -(ofDigits e.digits : Int) else ofDigits e.digits

theorem takeSign_text (rest : List Char) : NumberText.takeSign (e.sign ++ e.digits ++ rest)
    = (decide (e.sign = ['-']), e.digits ++ rest) := by
  rcases e.sign_eq with hsign | hsign | hsign
  · obtain ⟨c, digits, hdigits⟩ := List.exists_cons_of_ne_nil e.digits_ne_nil
    rw [hsign, List.nil_append, hdigits]
    exact takeSign_of_isDigit (e.isDigit c (hdigits ▸ List.mem_cons_self)) _
  · rw [hsign]
    rfl
  · rw [hsign]
    rfl

end Exponent

/-- A number, as it is written. No fraction stands for no point either. -/
structure Numeral where
  negative : Bool
  whole : List Char
  fraction : List Char
  exponent : Option Exponent
  whole_ne_nil : whole ≠ []
  no_leading_zero : ¬ (1 < whole.length ∧ whole.head? = some '0')
  whole_isDigit : ∀ c ∈ whole, c.isDigit
  fraction_isDigit : ∀ c ∈ fraction, c.isDigit

def pointText : List Char → List Char
  | [] => []
  | fraction => '.' :: fraction

theorem pointText_of_ne_nil {fraction : List Char} (h : fraction ≠ []) :
    pointText fraction = '.' :: fraction := by
  obtain ⟨c, digits, rfl⟩ := List.exists_cons_of_ne_nil h
  rfl

def exponentText : Option Exponent → List Char
  | none => []
  | some e => e.text

/-- What may follow a number. -/
def NoNumber (rest : List Char) : Prop :=
  ∀ c ∈ rest.head?, c.isDigit = false ∧ c ≠ '.' ∧ c ≠ 'e' ∧ c ≠ 'E'

theorem noNumber_nil : NoNumber [] := fun _ hc => absurd hc (Option.not_mem_none _)

theorem noDigit_exponentText {rest : List Char} (hrest : NoNumber rest) (e : Option Exponent) :
    NoDigit (exponentText e ++ rest) ∧ '.' ∉ (exponentText e ++ rest).head? := by
  cases e with
  | none => exact ⟨fun c hc => (hrest c hc).1, fun hc => (hrest '.' hc).2.1 rfl⟩
  | some e =>
      rw [exponentText, Exponent.text, List.cons_append, List.head?_cons]
      rcases e.mark_eq with hmark | hmark
      · rw [hmark]
        exact ⟨fun c hc => Option.mem_some.mp hc ▸ rfl, by decide⟩
      · rw [hmark]
        exact ⟨fun c hc => Option.mem_some.mp hc ▸ rfl, by decide⟩

theorem noDigit_pointText {rest : List Char} (hrest : NoDigit rest) (fraction : List Char) :
    NoDigit (pointText fraction ++ rest) := by
  cases fraction with
  | nil => exact hrest
  | cons c fraction => exact fun c hc => Option.mem_some.mp hc ▸ rfl

theorem scanExponent_exponentText {rest : List Char} (hrest : NoNumber rest)
    (e : Option Exponent) :
    scanExponent (exponentText e ++ rest) = some (e.map (·.value), rest) := by
  cases e with
  | none =>
      cases rest with
      | nil => rfl
      | cons c rest =>
          obtain ⟨-, -, he, hE⟩ := hrest c rfl
          rw [exponentText, List.nil_append, scanExponent, if_neg (not_or.mpr ⟨he, hE⟩)]
          rfl
  | some e =>
      have hspan := span_isDigit e.isDigit fun c hc => (hrest c hc).1
      have hempty : ¬ e.digits.isEmpty = true := by
        rw [List.isEmpty_iff]
        exact e.digits_ne_nil
      rw [exponentText, Exponent.text, List.cons_append, scanExponent, if_pos e.mark_eq,
        e.takeSign_text]
      dsimp only
      rw [hspan]
      dsimp only
      rw [if_neg hempty, Option.map_some, Exponent.value]
      simp only [decide_eq_true_eq]

theorem exponent?_exponentText (e : Option Exponent) :
    NumberText.exponent? (exponentText e) = some ((e.map (·.value)).getD 0) := by
  cases e with
  | none => rfl
  | some e =>
      have hsign := e.takeSign_text []
      rw [List.append_nil, List.append_nil] at hsign
      have hdigits : ¬ (e.digits.isEmpty = true ∨ ¬ e.digits.all Char.isDigit = true) := by
        rw [List.isEmpty_iff, List.all_eq_true]
        exact fun h => h.elim e.digits_ne_nil fun hno => hno e.isDigit
      rw [exponentText, Exponent.text, NumberText.exponent?, if_pos e.mark_eq, hsign]
      dsimp only
      rw [if_neg hdigits, Option.map_some, Option.getD_some, Exponent.value]
      simp only [decide_eq_true_eq]

namespace Numeral

variable (n : Numeral)

/-- The numeral behind its sign. -/
def unsigned : List Char := n.whole ++ (pointText n.fraction ++ exponentText n.exponent)

def text : List Char := if n.negative then '-' :: n.unsigned else n.unsigned

def literal : NumberLiteral :=
  ⟨n.negative, n.whole, n.fraction, n.exponent.map (·.value)⟩

/-- The number that is written. -/
def decimal : Decimal :=
  ⟨n.negative, ofDigits (n.whole ++ n.fraction),
    (n.exponent.map (·.value)).getD 0 - n.fraction.length⟩

theorem digits_decimal : n.decimal.digits = ofDigits (n.whole ++ n.fraction) := rfl

theorem exponent_decimal :
    n.decimal.exponent = (n.exponent.map (·.value)).getD 0 - n.fraction.length := rfl

/-- The value nearest to the number that is written. -/
def exact : Binary64 := n.decimal.toBinary

theorem exists_unsigned : ∃ c rest, n.unsigned = c :: rest ∧ c.isDigit := by
  obtain ⟨c, whole, hwhole⟩ := List.exists_cons_of_ne_nil n.whole_ne_nil
  have hc : c.isDigit := n.whole_isDigit c (hwhole ▸ List.mem_cons_self)
  exact ⟨c, _, by rw [unsigned, hwhole, List.cons_append], hc⟩

theorem takeSign_text : NumberText.takeSign n.text = (n.negative, n.unsigned) := by
  rw [text]
  cases n.negative with
  | true => rfl
  | false =>
      obtain ⟨c, rest, hunsigned, hc⟩ := n.exists_unsigned
      rw [if_neg Bool.false_ne_true, hunsigned]
      exact takeSign_of_isDigit hc rest

theorem mem_text {c : Char} (hc : c ∈ n.text) : c.isDigit ∨ c ∈ ['-', '+', '.', 'e', 'E'] := by
  have hunsigned : c ∈ n.unsigned → c.isDigit ∨ c ∈ ['-', '+', '.', 'e', 'E'] := by
    intro hc
    rcases List.mem_append.mp hc with hc | hc
    · exact .inl (n.whole_isDigit c hc)
    rcases List.mem_append.mp hc with hc | hc
    · cases hfraction : n.fraction with
      | nil => rw [hfraction] at hc; exact absurd hc List.not_mem_nil
      | cons d digits =>
          rw [hfraction] at hc
          rcases List.mem_cons.mp hc with rfl | hc
          · exact .inr (by decide)
          · exact .inl (n.fraction_isDigit c (hfraction ▸ hc))
    · cases hexponent : n.exponent with
      | none => rw [hexponent] at hc; exact absurd hc List.not_mem_nil
      | some e =>
          rw [hexponent, exponentText, Exponent.text] at hc
          rcases List.mem_cons.mp hc with rfl | hc
          · rcases e.mark_eq with hmark | hmark <;> rw [hmark] <;> exact .inr (by decide)
          rcases List.mem_append.mp hc with hc | hc
          · rcases e.sign_eq with hsign | hsign | hsign <;> rw [hsign] at hc
            · exact absurd hc List.not_mem_nil
            · rw [List.mem_singleton.mp hc]
              exact .inr (by decide)
            · rw [List.mem_singleton.mp hc]
              exact .inr (by decide)
          · exact .inl (e.isDigit c hc)
  rw [text] at hc
  split at hc
  · rcases List.mem_cons.mp hc with rfl | hc
    · exact .inr (by decide)
    · exact hunsigned hc
  · exact hunsigned hc

/-! ## As a token -/

theorem scanNumber_unsigned {rest : List Char} (hrest : NoNumber rest) :
    scanNumber n.negative (n.unsigned ++ rest) = some (n.literal, rest) := by
  obtain ⟨hexponent, hpoint⟩ := noDigit_exponentText hrest n.exponent
  have hwhole := span_isDigit n.whole_isDigit (noDigit_pointText hexponent n.fraction)
  have hok : ¬ (n.whole.isEmpty = true ∨ 1 < n.whole.length ∧ n.whole.head? = some '0') := by
    rw [List.isEmpty_iff]
    exact fun h => h.elim n.whole_ne_nil n.no_leading_zero
  rw [unsigned, List.append_assoc, List.append_assoc, scanNumber, hwhole]
  dsimp only
  rw [if_neg hok]
  have hscan := scanExponent_exponentText hrest n.exponent
  by_cases hfraction : n.fraction = []
  · rw [hfraction, pointText, List.nil_append]
    split
    · next heq => exact absurd (heq ▸ rfl) hpoint
    · rw [Option.bind_eq_bind, Option.bind_some, hscan, literal, hfraction]
      rfl
  · have hspan := span_isDigit n.fraction_isDigit hexponent
    have hsome : ¬ n.fraction.isEmpty = true := fun h => hfraction (List.isEmpty_iff.mp h)
    rw [pointText_of_ne_nil hfraction, List.cons_append]
    split
    · next heq =>
        rw [← (List.cons.inj heq).2, hspan]
        dsimp only
        rw [if_neg hsome, Option.bind_eq_bind, Option.bind_some, hscan]
        rfl
    · next hno => exact (hno _ rfl).elim

theorem isSpace_of_isDigit {c : Char} (hc : c.isDigit) : isSpace c = false := by
  simp only [isSpace, Bool.or_eq_false_iff, decide_eq_false_iff_not]
  refine ⟨⟨⟨?_, ?_⟩, ?_⟩, ?_⟩
  all_goals
    rintro rfl
    exact absurd hc (by decide)

theorem nextToken?_of_isDigit {c : Char} (hc : c.isDigit) (rest : List Char) :
    nextToken? c rest
      = (scanNumber false (c :: rest)).map fun (literal, rest) => (.number literal, rest) := by
  rw [nextToken?]
  all_goals
    intros
    subst_vars
    exact absurd hc (by decide)

theorem nextToken?_text {rest : List Char} (hrest : NoNumber rest) : ∃ c tail,
    n.text ++ rest = c :: tail ∧ isSpace c = false ∧
      nextToken? c tail = some (.number n.literal, rest) := by
  have hscan := n.scanNumber_unsigned hrest
  rw [text]
  cases hsign : n.negative with
  | true =>
      rw [hsign] at hscan
      refine ⟨'-', n.unsigned ++ rest, by rw [if_pos rfl, List.cons_append], by decide, ?_⟩
      rw [nextToken?, hscan]
      rfl
  | false =>
      obtain ⟨c, tail, hunsigned, hc⟩ := n.exists_unsigned
      rw [hsign, hunsigned, List.cons_append] at hscan
      refine ⟨c, tail ++ rest, by rw [if_neg Bool.false_ne_true, hunsigned, List.cons_append],
        isSpace_of_isDigit hc, ?_⟩
      rw [nextToken?_of_isDigit hc, hscan]
      rfl

/-! ## As a text -/

theorem decimal?_unsigned : NumberText.decimal? n.negative n.unsigned = some n.decimal := by
  obtain ⟨hexponent, hpoint⟩ := noDigit_exponentText noNumber_nil n.exponent
  rw [List.append_nil] at hexponent hpoint
  have hwhole := span_isDigit n.whole_isDigit (noDigit_pointText hexponent n.fraction)
  have hok : ¬ (n.whole.isEmpty = true ∧ n.fraction.isEmpty = true) := by
    rw [List.isEmpty_iff]
    exact fun h => n.whole_ne_nil h.1
  have hread := exponent?_exponentText n.exponent
  rw [unsigned, NumberText.decimal?, hwhole]
  dsimp only
  by_cases hfraction : n.fraction = []
  · rw [hfraction, pointText, List.nil_append]
    split
    · next heq => exact absurd (heq ▸ rfl) hpoint
    · dsimp only
      rw [← hfraction, if_neg hok, hread]
      rfl
  · have hspan := span_isDigit n.fraction_isDigit hexponent
    rw [pointText_of_ne_nil hfraction, List.cons_append]
    split
    · next heq =>
        rw [← (List.cons.inj heq).2, hspan]
        dsimp only
        rw [if_neg hok, hread]
        rfl
    · next hno => exact (hno _ rfl).elim

theorem text_ne_nil : n.text ≠ [] := fun hnil => by
  obtain ⟨c, rest, hunsigned, -⟩ := n.exists_unsigned
  have htake := n.takeSign_text
  rw [hnil] at htake
  exact List.cons_ne_nil c rest (hunsigned.symm.trans (congrArg Prod.snd htake).symm)

theorem read_text : NumberText.read (String.ofList n.text) = .ok n.exact := by
  have hempty : ¬ (String.ofList n.text).isEmpty = true := by
    rw [String.isEmpty_iff, String.ofList_eq_empty_iff]
    exact n.text_ne_nil
  rw [NumberText.read, if_neg hempty, String.toList_ofList, n.takeSign_text]
  dsimp only
  rw [n.decimal?_unsigned]
  rfl

/-! ## Between blanks -/

theorem isBlank_of_isDigit {c : Char} (hc : c.isDigit) : Text.isBlank c = false := by
  rw [Char.isDigit, Bool.and_eq_true, decide_eq_true_iff, decide_eq_true_iff] at hc
  have hlow : 48 ≤ c.toNat := hc.1
  have hhigh : c.toNat ≤ 57 := hc.2
  simp only [Text.isBlank, Bool.or_eq_false_iff, Bool.and_eq_false_iff, decide_eq_false_iff_not,
    beq_eq_false_iff_ne]
  omega

theorem head_text : ∀ c ∈ n.text.head?, Text.isBlank c = false := by
  rw [text]
  split
  · exact fun c hc => Option.mem_some.mp hc ▸ by decide
  · obtain ⟨c, rest, hunsigned, hc⟩ := n.exists_unsigned
    rw [hunsigned]
    exact fun d hd => Option.mem_some.mp hd ▸ isBlank_of_isDigit hc

/-- Whatever a numeral ends with, it ends in digits. -/
theorem exists_last_digits : ∃ front digits, n.unsigned = front ++ digits ∧ digits ≠ [] ∧
    ∀ c ∈ digits, c.isDigit := by
  cases hexponent : n.exponent with
  | some e =>
      refine ⟨n.whole ++ (pointText n.fraction ++ e.mark :: e.sign), e.digits, ?_, e.digits_ne_nil,
        e.isDigit⟩
      rw [unsigned, hexponent, exponentText, Exponent.text, List.append_assoc, List.append_assoc,
        List.cons_append]
  | none =>
      by_cases hfraction : n.fraction = []
      · refine ⟨[], n.whole, ?_, n.whole_ne_nil, n.whole_isDigit⟩
        rw [unsigned, hexponent, hfraction, pointText, exponentText, List.append_nil,
          List.append_nil, List.nil_append]
      · refine ⟨n.whole ++ ['.'], n.fraction, ?_, hfraction, n.fraction_isDigit⟩
        rw [unsigned, hexponent, pointText_of_ne_nil hfraction, exponentText, List.append_nil,
          List.append_assoc, List.singleton_append]

theorem getLast_text : ∀ c ∈ n.text.getLast?, Text.isBlank c = false := by
  obtain ⟨front, digits, hunsigned, hne, hdigits⟩ := n.exists_last_digits
  obtain ⟨left, htext⟩ : ∃ left, n.text = left ++ digits := by
    rw [text, hunsigned]
    cases n.negative with
    | true => exact ⟨'-' :: front, rfl⟩
    | false => exact ⟨front, rfl⟩
  have hlast := hdigits _ (List.getLast_mem hne)
  rw [htext, List.getLast?_append, List.getLast?_eq_some_getLast hne, Option.some_or]
  exact fun c hc => Option.mem_some.mp hc ▸ isBlank_of_isDigit hlast

theorem trimChars_text {left right : List Char} (hleft : ∀ c ∈ left, Text.isBlank c)
    (hright : ∀ c ∈ right, Text.isBlank c) :
    Text.trimChars (left ++ n.text ++ right) = n.text :=
  Text.trimChars_between hleft hright n.text_ne_nil n.head_text n.getLast_text

theorem valueOfText_text {left right : List Char} (hleft : ∀ c ∈ left, Text.isBlank c)
    (hright : ∀ c ∈ right, Text.isBlank c) :
    DataPoint.valueOfText (String.ofList (left ++ n.text ++ right)) = .ok n.exact := by
  rw [DataPoint.valueOfText, Text.trim, String.toList_ofList, n.trimChars_text hleft hright,
    n.read_text]
  rfl

/-! ## Of whole numbers -/

theorem isDigit_of_mem_zero : ∀ c ∈ ['0'], c.isDigit := List.all_eq_true.mp rfl

theorem isDigit_of_mem_toDigits {n : Nat} {c : Char} (hc : c ∈ Nat.toDigits 10 n) : c.isDigit :=
  Nat.isDigit_of_mem_toDigits (by omega) (by omega) hc

/-- A whole number, with no more digits than it needs. -/
def ofInt (i : Int) : Numeral where
  negative := i < 0
  whole := Nat.toDigits 10 i.natAbs
  fraction := []
  exponent := none
  whole_ne_nil := Nat.toDigits_ne_nil
  no_leading_zero := by
    rintro ⟨hlength, hhead⟩
    by_cases hzero : i.natAbs = 0
    · rw [hzero, Nat.toDigits_zero] at hlength
      exact absurd hlength (by decide)
    · exact head?_toDigits hzero hhead
  whole_isDigit := fun _ hc => isDigit_of_mem_toDigits hc
  fraction_isDigit := fun _ hc => absurd hc List.not_mem_nil

theorem text_ofInt (i : Int) : (ofInt i).text = (toString i).toList := by
  have hunsigned : (ofInt i).unsigned = Nat.toDigits 10 i.natAbs := List.append_nil _
  rw [text, hunsigned]
  cases i with
  | ofNat m =>
      rw [if_neg (by simp [ofInt])]
      exact Nat.toList_repr.symm
  | negSucc m =>
      rw [if_pos (by simp [ofInt, Int.negSucc_lt_zero])]
      change '-' :: _ = ("-" ++ (m.succ).repr).toList
      rw [String.toList_append, Nat.toList_repr]
      rfl

theorem ofDigits_whole_ofInt (i : Int) : ofDigits (ofInt i).whole = i.natAbs :=
  ofDigits_toDigits i.natAbs

end Numeral

/-- An exponent, its sign always written. -/
def Exponent.ofInt (e : Int) : Exponent where
  mark := 'e'
  sign := [if e < 0 then '-' else '+']
  digits := Nat.toDigits 10 e.natAbs
  mark_eq := .inl rfl
  sign_eq := by split <;> simp
  digits_ne_nil := Nat.toDigits_ne_nil
  isDigit := fun _ hc => Numeral.isDigit_of_mem_toDigits hc

theorem Exponent.value_ofInt (e : Int) : (ofInt e).value = e := by
  have hvalue : (ofInt e).value = if [if e < 0 then '-' else '+'] = ['-']
      then -(ofDigits (Nat.toDigits 10 e.natAbs) : Int)
      else ofDigits (Nat.toDigits 10 e.natAbs) := rfl
  rw [hvalue, ofDigits_toDigits]
  by_cases hneg : e < 0
  · rw [if_pos hneg, if_pos rfl]
    omega
  · rw [if_neg hneg, if_neg (by decide)]
    omega

end Json

end RankedBars
