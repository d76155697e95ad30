import RankedBars.Json.Number
import RankedBars.Text.Hex

/-!
# Tokens of JSON text

The text is cut into tokens from front to back. Where no token can be read the
scan ends with the token `broken`, so a reader of tokens meets the fault exactly
where the text has it and has already answered for everything in front of it.

A text whose escapes do not pair up into characters is a token all the same,
because a value that nobody asks for may hold one. It has no content.
-/

namespace RankedBars.Json

open Text (hexValue?)

inductive Token
  | openBrace
  | closeBrace
  | openBracket
  | closeBracket
  | comma
  | colon
  | null
  | bool (value : Bool)
  | number (literal : NumberLiteral)
  | text (content : Option String)
  | broken
deriving DecidableEq

/-- The white space between tokens. -/
def isSpace (c : Char) : Bool := c = ' ' || c = '\t' || c = '\n' || c = '\r'

/-! ## Texts -/

/-- A piece of a text: a character, or an escape for one half of a character. -/
inductive TextUnit
  | char (c : Char)
  | half (code : Nat)

/-- The unit that four base-16 digits escape. -/
def unitOfHex? (a b c d : Char) : Option TextUnit := do
  let code :=
    (((← hexValue? a) * 16 + (← hexValue? b)) * 16 + (← hexValue? c)) * 16 + (← hexValue? d)
  return if 0xD800 ≤ code ∧ code ≤ 0xDFFF then .half code else .char (Char.ofNat code)

/-- The character that a letter after a backslash stands for. -/
def unescape? : Char → Option Char
  | '"' => some '"'
  | '\\' => some '\\'
  | '/' => some '/'
  | 'b' => some '\x08'
  | 'f' => some '\x0C'
  | 'n' => some '\n'
  | 'r' => some '\r'
  | 't' => some '\t'
  | _ => none

/-- Reads the units of a text up to its closing quote, and what follows the
quote. -/
def scanUnits : List Char → Option (List TextUnit × List Char)
  | [] => none
  | '"' :: rest => some ([], rest)
  | '\\' :: 'u' :: a :: b :: c :: d :: rest => do
    let unit ← unitOfHex? a b c d
    let (units, rest) ← scanUnits rest
    return (unit :: units, rest)
  | '\\' :: letter :: rest => do
    let c ← unescape? letter
    let (units, rest) ← scanUnits rest
    return (.char c :: units, rest)
  | c :: rest =>
      if c.toNat < 0x20 then none
      else do
        let (units, rest) ← scanUnits rest
        return (.char c :: units, rest)

/-- Joins the halves of characters. Each first half needs a second half right
behind it. -/
def joinUnits : List TextUnit → Option (List Char)
  | [] => some []
  | .char c :: rest => (joinUnits rest).map (c :: ·)
  | .half high :: .half low :: rest =>
      if high < 0xDC00 ∧ 0xDC00 ≤ low then
        (joinUnits rest).map (Char.ofNat (0x10000 + (high - 0xD800) * 0x400 + (low - 0xDC00)) :: ·)
      else none
  | .half _ :: _ => none

/-! ## Numbers -/

/-- The exponent of a literal, if a letter for one comes next; `none` when it
has no digits. -/
def scanExponent : List Char → Option (Option Int × List Char)
  | c :: rest =>
      if c = 'e' ∨ c = 'E' then
        let (minus, rest) := NumberText.takeSign rest
        let (digits, rest) := rest.span Char.isDigit
        if digits.isEmpty then none
        else some (some (if minus then -(ofDigits digits : Int) else ofDigits digits), rest)
      else some (none, c :: rest)
  | [] => some (none, [])

/-- A literal without its sign. A leading zero stands alone before the point. -/
def scanNumber (negative : Bool) (text : List Char) : Option (NumberLiteral × List Char) := do
  let (whole, rest) := text.span Char.isDigit
  if whole.isEmpty ∨ 1 < whole.length ∧ whole.head? = some '0' then none
  let (fraction, rest) ← match rest with
    | '.' :: rest =>
        let (fraction, rest) := rest.span Char.isDigit
        if fraction.isEmpty then none else some (fraction, rest)
    | rest => some ([], rest)
  let (exponent, rest) ← scanExponent rest
  return (⟨negative, whole, fraction, exponent⟩, rest)

/-! ## The scan -/

/-- The token at the front of a text that starts with `c`, and what follows it.
-/
def nextToken? (c : Char) (rest : List Char) : Option (Token × List Char) :=
  match c, rest with
  | '\x7b', rest => some (.openBrace, rest)
  | '\x7d', rest => some (.closeBrace, rest)
  | '[', rest => some (.openBracket, rest)
  | ']', rest => some (.closeBracket, rest)
  | ',', rest => some (.comma, rest)
  | ':', rest => some (.colon, rest)
  | 'n', 'u' :: 'l' :: 'l' :: rest => some (.null, rest)
  | 't', 'r' :: 'u' :: 'e' :: rest => some (.bool true, rest)
  | 'f', 'a' :: 'l' :: 's' :: 'e' :: rest => some (.bool false, rest)
  | '"', rest =>
      (scanUnits rest).map fun (units, rest) => (.text ((joinUnits units).map String.ofList), rest)
  | '-', rest => (scanNumber true rest).map fun (literal, rest) => (.number literal, rest)
  | c, rest => (scanNumber false (c :: rest)).map fun (literal, rest) => (.number literal, rest)

/-- Scans at most `fuel` characters and tokens. -/
def scanWithin : (fuel : Nat) → List Char → List Token
  | 0, _ => []
  | _ + 1, [] => []
  | fuel + 1, c :: rest =>
      if isSpace c then scanWithin fuel rest
      else
        match nextToken? c rest with
        | some (token, rest) => token :: scanWithin fuel rest
        | none => [.broken]

/-- The tokens of a text. -/
def scan (text : String) : List Token := scanWithin (text.length + 1) text.toList

end RankedBars.Json
