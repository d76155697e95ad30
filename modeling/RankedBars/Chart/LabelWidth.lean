import RankedBars.Number.Binary

/-!
# The room that labels take

Text is not measured but estimated: six tenths of the font size a character,
rounded up to whole pixels. The estimate is made in 32-bit floating point, so it
is rounded three times on the way, and its result is capped at the largest
32-bit word.
-/

namespace RankedBars.Chart

/-- The largest number of pixels there is. -/
def mostPixels : Nat := Nat.pow 2 32 - 1

/-- The part of the font size that a character takes. -/
def characterWidth : Binary32 := .ofRatio false 6 10

/-- The number of whole pixels that cover a length. -/
def wholePixels (x : Binary32) : Nat :=
  min (roundUp x.units (Nat.pow 2 Format.single.unitExponent)) mostPixels

/-- The estimated width of a number of characters. -/
def widthOfCount (count fontSize : Nat) : Nat :=
  wholePixels (.ofNat count * .ofNat fontSize * characterWidth)

theorem widthOfCount_le (count fontSize : Nat) : widthOfCount count fontSize ≤ mostPixels :=
  Nat.min_le_right _ _

/-- The estimated width of a text. -/
def textWidth (s : String) (fontSize : Nat) : Nat := widthOfCount s.length fontSize

/-- The estimated width of the widest of some labels, none when there are none.
-/
def widestLabel (labels : List String) (fontSize : Nat) : Nat :=
  (labels.map fun l => textWidth l fontSize).foldl max 0

/-- The room left of the bars for these labels: the widest one and some air,
within bounds. -/
def labelArea (labels : List String) (fontSize : Nat) : Nat :=
  max 48 (min 220 (min (widestLabel labels fontSize + 12) mostPixels))

/-- What stands at the end of a text that was cut. -/
def ellipsis : Char := '…'

/-- The characters of a text that are kept when `kept` of them are already and
an ellipsis has to fit behind: as many as the room allows, each looked at in
turn. -/
def keepFitting (fontSize room kept : Nat) : List Char → List Char
  | [] => []
  | c :: rest =>
      if room < (widthOfCount (kept + 1) fontSize + widthOfCount 1 fontSize) % Nat.pow 2 32 then []
      else c :: keepFitting fontSize room (kept + 1) rest

/-- The text, cut to end in an ellipsis when it is estimated to be wider than
the room. -/
def truncate (s : String) (fontSize room : Nat) : String :=
  if textWidth s fontSize ≤ room then s
  else String.ofList (keepFitting fontSize room 0 s.toList ++ [ellipsis])

end RankedBars.Chart
