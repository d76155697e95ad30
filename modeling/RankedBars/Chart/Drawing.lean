import RankedBars.Chart.Config
import RankedBars.Chart.LabelWidth
import RankedBars.Chart.Renderer
import RankedBars.Chart.ValueLabel

/-!
# Drawings

A chart is drawn as a white canvas, and for each bar a rectangle, the label to
its left and the value to its right. The drawing is a list of shapes at whole
pixels; its text is Scalable Vector Graphics.

Pixels are signed 32-bit words, and a position that does not fit wraps around.
This matters for the room left of the bars only, which is an unsigned word
before it is a position. The length of a bar is its share of the largest value,
taken in 64-bit floating point with one rounding for the quotient and one for
the product, then rounded to whole pixels. Shapes are cut to the canvas when
they are written.
-/

namespace RankedBars

namespace Chart

/-- A position on the canvas, wrapped into the range of a signed word. -/
def pixel (n : Int) : Int := Int.bmod n (Nat.pow 2 32)

def fontSize : Nat := 12
def barThickness : Int := 18

/-- Room to the right of the longest bar for its value. -/
def valueLabelArea : Nat := 56

/-- The gap between a label and its bar. -/
def labelGap : Nat := 6

/-- The gap between a bar and its value. -/
def valueGap : Int := 4

/-- The largest finite value, or zero when there is none above it. -/
def largestValue (values : List Binary64) : Binary64 :=
  (values.filter (·.isFinite)).foldl Binary.max .zero

/-- The whole number of pixels nearest to a length, a half going up, as far as a
signed word can hold it. -/
def nearestPixels (x : Binary64) : Int :=
  min (roundHalfUp x.units (Nat.pow 2 Format.double.unitExponent)) (Nat.pow 2 31 - 1)

/-- The length of a bar when the largest value takes `plotWidth` pixels. -/
def barLength (largest : Binary64) (plotWidth : Nat) (value : Binary64) : Int :=
  if largest.magnitude ≠ 0 ∧ value.isFinite then
    nearestPixels (value.clampNegative / largest * .ofNat plotWidth)
  else 0

/-- The room left of the bars. -/
def labelRoom (c : ChartConfig) : Nat :=
  match c.paddingLeft with
  | some padding => padding.toNat
  | none => labelArea c.axis.categories fontSize

def canvasWidth (c : ChartConfig) : Nat := (c.size.width.getD defaultWidth).toNat

/-- What the bars of a chart have in common: the room left of them, the room for
the longest one, and the largest value, which the longest one has. -/
structure Layout where
  labelRoom : Nat
  plotWidth : Nat
  largest : Binary64

def layout (c : ChartConfig) : Layout where
  labelRoom := labelRoom c
  plotWidth := max (canvasWidth c - min (labelRoom c + valueLabelArea) mostPixels) 1
  largest := largestValue c.data.values

/-! ## Shapes -/

/-- Where a text stands in relation to its position. -/
inductive Anchor
  | start
  | finish
deriving DecidableEq

/-- What is drawn. A rectangle is given by two opposite corners. -/
inductive Mark
  | rectangle (left top right bottom : Int) (color : Color)
  | text (x y : Int) (anchor : Anchor) (content : String)
deriving DecidableEq

structure Drawing where
  width : Nat
  height : Nat
  marks : List Mark

/-- The height of the middle of a bar. -/
def rowCenter (index : Nat) : Int :=
  pixel ((chromeHeight / 2 + index * rowHeight + rowHeight / 2 : Nat) : Int)

/-- The marks of one bar. -/
def barMarks (l : Layout) (locale : Locale) (valueShown : Bool) (index : Nat) (bar : Bar) :
    List Mark :=
  let left := pixel l.labelRoom
  let length := barLength l.largest l.plotWidth bar.value
  let center := rowCenter index
  let top := pixel (center - barThickness / 2)
  let label := truncate bar.label fontSize (l.labelRoom - labelGap)
  [.rectangle left top (pixel (left + length)) (pixel (top + barThickness)) bar.color,
    .text (pixel (left - labelGap)) center .finish label] ++
  if valueShown then
    [.text (pixel (left + length + valueGap)) center .start (locale.format bar.value)]
  else []

/-- The drawing of a chart. -/
def draw (c : ChartConfig) (locale : Locale) : Drawing where
  width := canvasWidth c
  height := c.size.height.toNat
  marks := (c.bars.mapIdx (barMarks (layout c) locale c.dataLabels)).flatten

/-! ## Text of a drawing -/

/-- A character of a text between tags. -/
def escapeMarkup : Char → List Char
  | '<' => "&lt;".toList
  | '>' => "&gt;".toList
  | '&' => "&amp;".toList
  | '"' => "&quot;".toList
  | '\'' => "&apos;".toList
  | c => [c]

/-- An attribute of a tag, with the blank in front of it. -/
def withAttribute (name value : String) : String := " " ++ name ++ "=\"" ++ value ++ "\""

def rectangleTag (x y width height : Int) (color : Color) : String :=
  "<rect" ++ withAttribute "x" (toString x) ++ withAttribute "y" (toString y)
    ++ withAttribute "width" (toString width) ++ withAttribute "height" (toString height)
    ++ withAttribute "opacity" "1" ++ withAttribute "fill" color.solidText
    ++ withAttribute "stroke" "none"
    ++ "/>\n"

namespace Drawing

/-- The nearest place on the canvas along its width. -/
def cutX (d : Drawing) (x : Int) : Int := max (min x (pixel d.width)) 0

/-- The nearest place on the canvas along its height. -/
def cutY (d : Drawing) (y : Int) : Int := max (min y (pixel d.height)) 0

def markText (d : Drawing) : Mark → String
  | .rectangle left top right bottom color =>
      let (x, y) := (d.cutX left, d.cutY top)
      rectangleTag x y (d.cutX right - x) (d.cutY bottom - y) color
  | .text x y anchor content =>
      "<text" ++ withAttribute "x" (toString (d.cutX x)) ++ withAttribute "y" (toString (d.cutY y))
        ++ withAttribute "dy" "0.5ex"
        ++ withAttribute "text-anchor" (match anchor with | .start => "start" | .finish => "end")
        ++ withAttribute "font-family" "sans-serif" ++ withAttribute "font-size" "9.67741935483871"
        ++ withAttribute "opacity" "1" ++ withAttribute "fill" Color.black.solidText ++ ">\n"
        ++ String.ofList (content.toList.flatMap escapeMarkup) ++ "\n</text>\n"

/-- The drawing as Scalable Vector Graphics. -/
def svg (d : Drawing) : String :=
  let width := toString d.width
  let height := toString d.height
  "<svg" ++ withAttribute "width" width ++ withAttribute "height" height
    ++ withAttribute "viewBox" ("0 0 " ++ width ++ " " ++ height)
    ++ withAttribute "xmlns" "http://www.w3.org/2000/svg" ++ ">\n"
    ++ rectangleTag 0 0 (pixel d.width) (pixel d.height) .white
    ++ String.join (d.marks.map d.markText) ++ "</svg>\n"

end Drawing

end Chart

end RankedBars
