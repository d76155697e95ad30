import RankedBars.Text.CaseTable
import RankedBars.Text.PrintableTable
import RankedBars.Text.Hex

/-!
# Quoted text

Texts stand between double quotes in messages. What could not be seen or would
be mistaken is escaped: the quote, the backslash, line ends, tabs and NUL by a
letter, every other character that does not show by its number.
-/

namespace RankedBars.Text

/-- One character as it stands between the quotes. -/
def quoteChar (c : Char) : List Char :=
  match c with
  | '\x00' => ['\\', '0']
  | '\t' => ['\\', 't']
  | '\r' => ['\\', 'r']
  | '\n' => ['\\', 'n']
  | '"' => ['\\', '"']
  | '\\' => ['\\', '\\']
  | c =>
      if inRanges printableRanges c then [c]
      else ['\\', 'u', '\x7b'] ++ hexDigits c.toNat ++ ['\x7d']

/-- The text between double quotes. -/
def quote (s : String) : String :=
  String.ofList ('"' :: s.toList.flatMap quoteChar ++ ['"'])

end RankedBars.Text
