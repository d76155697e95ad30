import RankedBars.Chart.Config
import RankedBars.Palette
import RankedBars.Ranking

/-!
# From a view to a chart

A renderer knows everything about a chart that does not depend on the data: the
palette, the name of the values and the width. Given a ranked view it makes the
configuration of a chart with one bar for each point, colored by its label.
-/

namespace RankedBars

namespace Chart

/-- Pixels for each bar. -/
def rowHeight : Nat := 25

/-- Pixels above and below the bars, in all. -/
def chromeHeight : Nat := 50

/-- Charts are never shorter than this. -/
def leastHeight : Nat := 100

/-- The width of a chart that does not say otherwise. -/
def defaultWidth : UInt32 := 400

/-- The height of a chart with this many bars, as far as a word can hold it. -/
def heightOf (bars : Nat) : UInt32 :=
  UInt32.ofNat (min (max (rowHeight * bars + chromeHeight) leastHeight) (Nat.pow 2 32 - 1))

end Chart

structure Renderer where
  palette : Palette := .builtin
  seriesName : String := "builds"
  width : Option UInt32 := some Chart.defaultWidth

namespace Renderer

/-- The chart of a view. -/
def config (r : Renderer) (view : Dataset) (container : String) (paddingLeft : Option UInt32) :
    ChartConfig where
  container
  kind := .bar
  size := { height := Chart.heightOf view.length, width := r.width }
  paddingLeft
  axis := { rotated := true, categories := view.labels, valueAxisShown := false }
  data := { name := r.seriesName, values := view.map (·.value) }
  barColors := view.labels.map fun label => r.palette.classify (some label)
  legendShown := false
  tooltipShown := false
  dataLabels := true

@[simp] theorem barCount_config (r : Renderer) (view : Dataset) (container : String)
    (paddingLeft : Option UInt32) :
    (r.config view container paddingLeft).barCount = view.length := List.length_map _

/-- A chart has one bar for each point of the view, colored by its label. -/
theorem bars_config (r : Renderer) (view : Dataset) (container : String)
    (paddingLeft : Option UInt32) :
    (r.config view container paddingLeft).bars
      = view.map fun p => ⟨p.label, p.value, r.palette.classify (some p.label)⟩ := by
  rw [ChartConfig.bars, config, Dataset.labels, List.zip_map', List.map_map, List.zip_map',
    List.map_map]
  rfl

end Renderer

end RankedBars
