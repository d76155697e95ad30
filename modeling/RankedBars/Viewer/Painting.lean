import RankedBars.Chart.Drawing
import RankedBars.Viewer.Fill

/-!
# Painting a chart in a window

The live chart is painted anew for every frame, as wide as it asks to be but no
wider than the window has room for. Positions are 32-bit floating point numbers
and every step of the arithmetic is rounded to them, with one exception: the
share of a bar in the largest value is taken in 64 bits first.
-/

namespace RankedBars.Viewer

/-- A bar on the screen. -/
structure PaintedBar where
  left : Binary32
  top : Binary32
  right : Binary32
  bottom : Binary32
  fill : Color

/-- The space that a window keeps free on its left and on its right. -/
def margin : Nat := 8

/-- How far down a window the chart starts. -/
def chartTop : Nat := 62

/-- The width that a window has for a chart. -/
def availableWidth (windowWidth : Nat) : Binary32 := .ofNat windowWidth - .ofNat (2 * margin)

def chartWidth (c : ChartConfig) (available : Binary32) : Binary32 :=
  (c.size.width.elim available fun width => .ofNat width.toNat).min available

/-- The room for the longest bar, which is never less than a pixel. -/
def plotWidth (width labelRoom : Binary32) : Binary32 :=
  (width - labelRoom - .ofNat Chart.valueLabelArea).max (.ofNat 1)

/-- The length of a bar when the largest value takes `plot` pixels. -/
def barLength (largest : Binary64) (plot : Binary32) (value : Binary64) : Binary32 :=
  if largest.magnitude ≠ 0 then (value.clampNegative / largest).convert * plot else .zero

/-- The height of the middle of a bar: half the chrome, the rows above it and
half a row below the top. -/
def rowCenter (index : Nat) : Binary32 :=
  let top : Binary32 := .ofNat chartTop + .ofNat (Chart.chromeHeight / 2)
  top + .ofNat index * .ofNat Chart.rowHeight + .ofRatio false Chart.rowHeight 2

def paintBar (labelRoom plot : Binary32) (largest : Binary64) (index : Nat) (bar : Bar) :
    PaintedBar :=
  let left := .ofNat margin + labelRoom
  let top := rowCenter index - .ofNat 9
  { left
    top
    right := left + barLength largest plot bar.value
    bottom := top + .ofNat 18
    fill := fill bar.color }

/-- The bars of a chart in a window. -/
def paint (c : ChartConfig) (windowWidth : Nat) : List PaintedBar :=
  let labelRoom : Binary32 := .ofNat (Chart.labelRoom c)
  let plot := plotWidth (chartWidth c (availableWidth windowWidth)) labelRoom
  c.bars.mapIdx (paintBar labelRoom plot (Chart.largestValue c.data.values))

end RankedBars.Viewer
