import RankedBars.Chart.Config

/-!
# Saved chart configurations

The JSON form of a chart configuration and of its parts, written and read.
-/

namespace RankedBars

open Reader (once passedOver required element)

def jsonOfWord (n : UInt32) : Json := .integer n.toNat

namespace ChartKind

def name : ChartKind → String
  | .bar => "bar"

/-- The kind that a name stands for. -/
def ofName (name : String) : Except ShapeError ChartKind :=
  if name = "bar" then .ok .bar else .error (.unknownVariant name ["bar"])

/-- A kind, written as its name or as an object whose only member has that name
and no value. -/
def reader : Reader ChartKind
  | .text (some name) :: rest => Reader.ofShape (ofName name) rest
  | .openBrace :: .text (some name) :: rest =>
      match ofName name, rest with
      | .error cause, _ => .error (.shape cause)
      | .ok kind, .colon :: .null :: .closeBrace :: rest => .ok (kind, rest)
      | .ok _, .colon :: .null :: _ => .error .malformed
      | .ok _, .colon :: token :: _ => .error (Reader.mismatch "unit" token)
      | .ok _, _ => .error .malformed
  | .openBrace :: token :: _ => .error (Reader.mismatch "variant identifier" token)
  | _ => .error .malformed

end ChartKind

namespace ChartSize

def toJson (s : ChartSize) : Json :=
  .object [("height", jsonOfWord s.height), ("width", .ofOption jsonOfWord s.width)]

structure Draft where
  height : Option UInt32 := none
  width : Option (Option UInt32) := none

def Draft.field (name : String) (draft : Draft) : Except ShapeError (Reader Draft) :=
  match name with
  | "height" => once name draft.height Reader.uint32 fun v => { draft with height := v }
  | "width" =>
      once name draft.width (Reader.optional Reader.uint32) fun v => { draft with width := some v }
  | _ => passedOver draft

def Draft.finish (draft : Draft) : Except ShapeError ChartSize := do
  return ⟨← required "height" draft.height, draft.width.getD none⟩

def reader : Reader ChartSize :=
  let shape := recordOfSize "ChartSize" 2
  Reader.record "ChartSize"
    (do Reader.ofShape (← Reader.object Draft.field {}).finish)
    (do return ⟨← element shape 0 Reader.uint32, ← element shape 1 (Reader.optional Reader.uint32)⟩)

end ChartSize

namespace ChartAxis

def toJson (a : ChartAxis) : Json :=
  .object [("rotated", .bool a.rotated), ("categories", .list (a.categories.map .text)),
    ("value_axis_shown", .bool a.valueAxisShown)]

structure Draft where
  rotated : Option Bool := none
  categories : Option (List String) := none
  valueAxisShown : Option Bool := none

def Draft.field (name : String) (draft : Draft) : Except ShapeError (Reader Draft) :=
  match name with
  | "rotated" => once name draft.rotated Reader.bool fun v => { draft with rotated := v }
  | "categories" =>
      once name draft.categories (Reader.list Reader.text) fun v => { draft with categories := v }
  | "value_axis_shown" =>
      once name draft.valueAxisShown Reader.bool fun v => { draft with valueAxisShown := v }
  | _ => passedOver draft

def Draft.finish (draft : Draft) : Except ShapeError ChartAxis := do
  return ⟨← required "rotated" draft.rotated, ← required "categories" draft.categories,
    ← required "value_axis_shown" draft.valueAxisShown⟩

def reader : Reader ChartAxis :=
  let shape := recordOfSize "AxisConfig" 3
  Reader.record "AxisConfig"
    (do Reader.ofShape (← Reader.object Draft.field {}).finish)
    (do return ⟨← element shape 0 Reader.bool, ← element shape 1 (Reader.list Reader.text),
      ← element shape 2 Reader.bool⟩)

end ChartAxis

namespace DataColumn

def toJson (d : DataColumn) : Json :=
  .object [("name", .text d.name), ("values", .list (d.values.map .float))]

structure Draft where
  name : Option String := none
  values : Option (List Binary64) := none

def Draft.field (name : String) (draft : Draft) : Except ShapeError (Reader Draft) :=
  match name with
  | "name" => once name draft.name Reader.text fun v => { draft with name := v }
  | "values" =>
      once name draft.values (Reader.list Reader.float) fun v => { draft with values := v }
  | _ => passedOver draft

def Draft.finish (draft : Draft) : Except ShapeError DataColumn := do
  return ⟨← required "name" draft.name, ← required "values" draft.values⟩

def reader : Reader DataColumn :=
  let shape := recordOfSize "DataColumn" 2
  Reader.record "DataColumn"
    (do Reader.ofShape (← Reader.object Draft.field {}).finish)
    (do return ⟨← element shape 0 Reader.text, ← element shape 1 (Reader.list Reader.float)⟩)

end DataColumn

namespace ChartConfig

def toJson (c : ChartConfig) : Json :=
  .object [
    ("bind_to", .text c.container),
    ("kind", .text c.kind.name),
    ("size", c.size.toJson),
    ("padding_left", .ofOption jsonOfWord c.paddingLeft),
    ("axis", c.axis.toJson),
    ("data", c.data.toJson),
    ("bar_colors", .list (c.barColors.map Color.toJson)),
    ("legend_shown", .bool c.legendShown),
    ("tooltip_shown", .bool c.tooltipShown),
    ("data_labels", .bool c.dataLabels)]

/-- The text of a saved configuration. -/
def saved (c : ChartConfig) : String := c.toJson.indented 0

structure Draft where
  container : Option String := none
  kind : Option ChartKind := none
  size : Option ChartSize := none
  paddingLeft : Option (Option UInt32) := none
  axis : Option ChartAxis := none
  data : Option DataColumn := none
  barColors : Option (List Color) := none
  legendShown : Option Bool := none
  tooltipShown : Option Bool := none
  dataLabels : Option Bool := none

def Draft.field (name : String) (draft : Draft) : Except ShapeError (Reader Draft) :=
  match name with
  | "bind_to" => once name draft.container Reader.text fun v => { draft with container := v }
  | "kind" => once name draft.kind ChartKind.reader fun v => { draft with kind := v }
  | "size" => once name draft.size ChartSize.reader fun v => { draft with size := v }
  | "padding_left" =>
      once name draft.paddingLeft (Reader.optional Reader.uint32)
        fun v => { draft with paddingLeft := some v }
  | "axis" => once name draft.axis ChartAxis.reader fun v => { draft with axis := v }
  | "data" => once name draft.data DataColumn.reader fun v => { draft with data := v }
  | "bar_colors" =>
      once name draft.barColors (Reader.list Color.reader) fun v => { draft with barColors := v }
  | "legend_shown" =>
      once name draft.legendShown Reader.bool fun v => { draft with legendShown := v }
  | "tooltip_shown" =>
      once name draft.tooltipShown Reader.bool fun v => { draft with tooltipShown := v }
  | "data_labels" => once name draft.dataLabels Reader.bool fun v => { draft with dataLabels := v }
  | _ => passedOver draft

def Draft.finish (draft : Draft) : Except ShapeError ChartConfig := do
  return {
    container := ← required "bind_to" draft.container
    kind := ← required "kind" draft.kind
    size := ← required "size" draft.size
    paddingLeft := draft.paddingLeft.getD none
    axis := ← required "axis" draft.axis
    data := ← required "data" draft.data
    barColors := ← required "bar_colors" draft.barColors
    legendShown := ← required "legend_shown" draft.legendShown
    tooltipShown := ← required "tooltip_shown" draft.tooltipShown
    dataLabels := ← required "data_labels" draft.dataLabels }

def reader : Reader ChartConfig :=
  let shape := recordOfSize "ChartConfig" 10
  Reader.record "ChartConfig"
    (do Reader.ofShape (← Reader.object Draft.field {}).finish)
    (do return {
      container := ← element shape 0 Reader.text
      kind := ← element shape 1 ChartKind.reader
      size := ← element shape 2 ChartSize.reader
      paddingLeft := ← element shape 3 (Reader.optional Reader.uint32)
      axis := ← element shape 4 ChartAxis.reader
      data := ← element shape 5 DataColumn.reader
      barColors := ← element shape 6 (Reader.list Color.reader)
      legendShown := ← element shape 7 Reader.bool
      tooltipShown := ← element shape 8 Reader.bool
      dataLabels := ← element shape 9 Reader.bool })

/-- Reads a saved configuration. -/
def ofText (text : String) : Except ReadError ChartConfig := reader.readAll text

end ChartConfig

end RankedBars
