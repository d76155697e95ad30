import RankedBars.Json.Reader
import RankedBars.Text.Blank

/-!
# Colors

A color is written as a number sign and two base-16 digits for each of red,
green, blue and, when it is translucent, alpha. Reading is more generous than
writing: it takes digits in either case, blanks around the text, any run of
number signs in front of it or none, and a plus in the place of the first digit
of a pair.
-/

namespace RankedBars

structure Color where
  red : UInt8
  green : UInt8
  blue : UInt8
  alpha : UInt8
deriving DecidableEq, Inhabited

namespace Color

/-- A color that covers what is behind it. -/
def solid (red green blue : UInt8) : Color := ⟨red, green, blue, 255⟩

def black : Color := solid 0 0 0

def white : Color := solid 255 255 255

/-- The byte that a pair of characters writes, where a plus may stand for the
first digit. -/
def pair? (high low : Char) : Option UInt8 :=
  if high = '+' then (Text.hexValue? low).map UInt8.ofNat
  else
    match Text.hexValue? high, Text.hexValue? low with
    | some h, some l => some (UInt8.ofNat (16 * h + l))
    | _, _ => none

theorem pair?_hexByte (b : UInt8) :
    pair? (Text.capitalHexDigit (b.toNat / 16)) (Text.capitalHexDigit (b.toNat % 16)) = some b := by
  have h := b.toNat_lt
  have hhigh := Text.hexValue?_capitalHexDigit (b.toNat / 16) (by omega)
  have hlow := Text.hexValue?_capitalHexDigit (b.toNat % 16) (by omega)
  rw [pair?, if_neg (Text.capitalHexDigit_ne_plus _ (by omega)), hhigh, hlow]
  dsimp only
  rw [Nat.div_add_mod, UInt8.ofNat_toNat]

/-- The color that six or eight characters write, with neither blanks nor number
sign. -/
def ofPairs? : List Char → Option Color
  | [r1, r2, g1, g2, b1, b2] => do
    return ⟨← pair? r1 r2, ← pair? g1 g2, ← pair? b1 b2, 255⟩
  | [r1, r2, g1, g2, b1, b2, a1, a2] => do
    return ⟨← pair? r1 r2, ← pair? g1 g2, ← pair? b1 b2, ← pair? a1 a2⟩
  | _ => none

/-- Reads a color. -/
def ofText? (s : String) : Option Color :=
  ofPairs? ((Text.trimChars s.toList).dropWhile (· = '#'))

/-- Reads a color, or refuses the text. -/
def ofText (s : String) : Except ShapeError Color :=
  match ofText? s with
  | some c => .ok c
  | none => .error (.badColor s)

/-- The color without its alpha. -/
def solidText (c : Color) : String :=
  String.ofList ('#' :: Text.hexByte c.red ++ Text.hexByte c.green ++ Text.hexByte c.blue)

/-- The color as text. The alpha is only written for translucent colors. -/
def toText (c : Color) : String :=
  if c.alpha = 255 then c.solidText
  else String.ofList
    ('#' :: Text.hexByte c.red ++ Text.hexByte c.green ++ Text.hexByte c.blue
      ++ Text.hexByte c.alpha)

def toJson (c : Color) : Json := .text c.toText

/-- A color in JSON text. -/
def reader : Reader Color := do
  let s ← Reader.text
  match ofText? s with
  | some c => pure c
  | none => throw (.shape (.badColor s))

theorem reader_eq : reader = Reader.text >>= fun s => Reader.ofShape (ofText s) := by
  refine bind_congr fun s => ?_
  rw [ofText]
  cases ofText? s <;> rfl

end Color

end RankedBars
