import RankedBars.Text.CaseTable

/-!
# Lower case

Lower-casing is one character at a time, with two exceptions: the dotted capital
I becomes two characters, and a capital sigma becomes the form that ends words
when it does end one. A sigma ends a word when a cased character comes before it
and none comes after it, where the characters that casing passes over do not
count on either side.
-/

namespace RankedBars.Text

/-- The lower-case form of a character on its own. -/
def lowerChar (c : Char) : List Char :=
  if c.toNat < 128 then [c.toLower]
  else if c = 'İ' then ['i', '\u0307']
  else
    match lowerCaseRuns.find? (·.holds c.toNat) with
    | some run => [Char.ofNat (c.toNat + run.shift).toNat]
    | none => [c]

/-- Whether the next character that casing does not pass over is a cased one. -/
def meetsCased (cs : List Char) : Bool :=
  match cs.dropWhile (inRanges caseIgnorableRanges) with
  | c :: _ => inRanges casedRanges c
  | [] => false

/-- Lower-cases `cs`, where `before` is the text in front of it, nearest
character first. -/
def lowerAfter (before : List Char) : List Char → List Char
  | [] => []
  | c :: rest =>
      let lowered :=
        if c = 'Σ' then [if meetsCased before && !meetsCased rest then 'ς' else 'σ']
        else lowerChar c
      lowered ++ lowerAfter (c :: before) rest

/-- The text in lower case. -/
def lowerCase (s : String) : String := String.ofList (lowerAfter [] s.toList)

end RankedBars.Text
