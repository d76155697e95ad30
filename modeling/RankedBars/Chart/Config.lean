import RankedBars.Color
import RankedBars.DataPoint

/-!
# Chart configurations

A chart is described before it is drawn: where it goes, how large it is, its
bars' labels, values and colors, and what is shown around them. Labels, values
and colors are three lists of one order; a bar is what stands at one place in
all three.

The description can be saved as JSON and read back.
-/

namespace RankedBars

inductive ChartKind
  | bar
deriving DecidableEq

structure ChartSize where
  height : UInt32
  width : Option UInt32
deriving DecidableEq

/-- The axes: the labels along the bars' ends, and whether the values have an
axis too. -/
structure ChartAxis where
  rotated : Bool
  categories : List String
  valueAxisShown : Bool
deriving DecidableEq

/-- The values, under a name. -/
structure DataColumn where
  name : String
  values : List Binary64
deriving DecidableEq

structure ChartConfig where
  container : String
  kind : ChartKind
  size : ChartSize
  paddingLeft : Option UInt32
  axis : ChartAxis
  data : DataColumn
  barColors : List Color
  legendShown : Bool
  tooltipShown : Bool
  dataLabels : Bool
deriving DecidableEq

/-- One bar of a chart. -/
structure Bar where
  label : String
  value : Binary64
  color : Color
deriving DecidableEq

namespace ChartConfig

def barCount (c : ChartConfig) : Nat := c.data.values.length

/-- The color of the bar at an index. -/
def colorAt? (c : ChartConfig) (index : Nat) : Option Color := c.barColors[index]?

/-- The bars in the order in which they are shown, as many as have a label, a
value and a color. -/
def bars (c : ChartConfig) : List Bar :=
  ((c.axis.categories.zip c.data.values).zip c.barColors).map
    fun ((label, value), color) => ⟨label, value, color⟩

end ChartConfig

end RankedBars
