import RankedBars.Number.Decimal
import RankedBars.Text.LowerCase

/-!
# Value labels

The value of a bar is written beside it. A whole number stands in groups of
three digits; any other number has two places behind the decimal mark, rounded
from its exact value with a half going to the even neighbour. Which marks are
used is a matter of the reader's locale. Whole numbers that no longer fit 64
bits are written with two places as well, without groups.
-/

namespace RankedBars

/-- The marks with which numbers are written. -/
structure Locale where
  name : String
  groupMark : Char
  decimalMark : Char
  minus : String
deriving DecidableEq

namespace Locale

def english : Locale := ⟨"en", ',', '.', "-"⟩

/-- The locale of a tag, in any case; English if the tag is unknown. -/
def ofTag (tag : String) : Locale :=
  match Text.lowerCase tag with
  | "de" | "de_de" | "german" => ⟨"de", '.', ',', "-"⟩
  | "fr" | "fr_fr" => ⟨"fr", '\u202F', ',', "-"⟩
  | "es" | "es_es" => ⟨"es", '.', ',', "-"⟩
  | "it" | "it_it" => ⟨"it", '.', ',', "-"⟩
  | "pt" | "pt_pt" | "pt_br" => ⟨"pt", '.', ',', "-"⟩
  | "nl" | "nl_nl" => ⟨"nl", '.', ',', "-"⟩
  | _ => english

end Locale

/-- Digits, last one first, with a mark behind each group of three. -/
def groupReversed (mark : Char) : List Char → List Char
  | a :: b :: c :: d :: rest => a :: b :: c :: mark :: groupReversed mark (d :: rest)
  | digits => digits

/-- The digits of a number in groups of three. -/
def grouped (mark : Char) (n : Nat) : List Char :=
  (groupReversed mark (Nat.toDigits 10 n).reverse).reverse

/-- The number of hundredths with its two places behind a mark. -/
def hundredthsText (mark : Char) (n : Nat) : List Char :=
  Nat.toDigits 10 (n / 100) ++
    [mark, Nat.digitChar (n % 100 / 10), Nat.digitChar (n % 10)]

namespace Binary64

/-- The whole number of a value that is one and fits a signed 64-bit word. -/
def wholeValue? (x : Binary64) : Option Int :=
  let unit := Nat.pow 2 Format.double.unitExponent
  if x.isFinite ∧ x.units % unit = 0 ∧ x.units / unit < Nat.pow 2 63 then
    some (if x.negative then -(x.units / unit : Nat) else (x.units / unit : Nat))
  else none

/-- The magnitude of a finite value in hundredths. -/
def hundredths (x : Binary64) : Nat :=
  roundHalfEven (x.units * 100) (Nat.pow 2 Format.double.unitExponent)

end Binary64

/-- The label of a value. -/
def Locale.format (locale : Locale) (x : Binary64) : String :=
  match Binary64.wholeValue? x with
  | some n =>
      (if n < 0 then locale.minus else "") ++ String.ofList (grouped locale.groupMark n.natAbs)
  | none =>
      if x.isNaN then "NaN"
      else
        let sign := if x.negative then "-" else ""
        if !x.isFinite then sign ++ "inf"
        else sign ++ String.ofList (hundredthsText locale.decimalMark (Binary64.hundredths x))

end RankedBars
