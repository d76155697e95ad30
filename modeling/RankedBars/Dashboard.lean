import RankedBars.Chart.Renderer
import RankedBars.Dataset.Load
import RankedBars.Toggle.Labels

/-!
# Dashboard configuration

What a dashboard says about its charts: how many bars they show, how they are
laid out and labelled, and which families have which colors. Every part has a
default, and a part that does not exist is refused, so that a misspelled one is
noticed.
-/

namespace RankedBars

open Reader (once elementOr)

structure Dashboard where
  limit : Int := 10
  paddingLeft : Option UInt32 := none
  width : UInt32 := Chart.defaultWidth
  locale : String := "en"
  seriesName : String := "builds"
  labels : ToggleLabels := {}
  paletteEntries : Option (List PaletteEntry) := none
  fallbackColor : Option Color := none
deriving DecidableEq, Inhabited

namespace Dashboard

/-- The palette: the entries that are given, or the built-in ones. -/
def palette (d : Dashboard) : Palette :=
  .ofEntries (d.paletteEntries.getD Palette.builtin.entries)
    (d.fallbackColor.getD Palette.builtinFallback)

def renderer (d : Dashboard) : Renderer where
  palette := d.palette
  seriesName := d.seriesName
  width := some d.width

def mountOptions (d : Dashboard) : MountOptions where
  limit := d.limit
  paddingLeft := d.paddingLeft
  labels := d.labels

def toJson (d : Dashboard) : Json :=
  .object [
    ("limit", .integer d.limit),
    ("padding_left", .ofOption jsonOfWord d.paddingLeft),
    ("width", jsonOfWord d.width),
    ("locale", .text d.locale),
    ("series_name", .text d.seriesName),
    ("labels", d.labels.toJson),
    ("palette",
      .ofOption (fun entries => .list (entries.map PaletteEntry.toJson)) d.paletteEntries),
    ("fallback_color", .ofOption Color.toJson d.fallbackColor)]

/-! ## Reading -/

/-- The parts that have been read so far. -/
structure Draft where
  limit : Option Int := none
  paddingLeft : Option (Option UInt32) := none
  width : Option UInt32 := none
  locale : Option String := none
  seriesName : Option String := none
  labels : Option ToggleLabels := none
  paletteEntries : Option (Option (List PaletteEntry)) := none
  fallbackColor : Option (Option Color) := none

def fieldNames : List String :=
  ["limit", "padding_left", "width", "locale", "series_name", "labels", "palette", "fallback_color"]

def entriesReader : Reader (Option (List PaletteEntry)) :=
  Reader.optional (Reader.list PaletteEntry.reader)

def Draft.field (name : String) (draft : Draft) : Except ShapeError (Reader Draft) :=
  match name with
  | "limit" => once name draft.limit Reader.int64 fun v => { draft with limit := v }
  | "padding_left" =>
      once name draft.paddingLeft (Reader.optional Reader.uint32)
        fun v => { draft with paddingLeft := some v }
  | "width" => once name draft.width Reader.uint32 fun v => { draft with width := v }
  | "locale" => once name draft.locale Reader.text fun v => { draft with locale := v }
  | "series_name" => once name draft.seriesName Reader.text fun v => { draft with seriesName := v }
  | "labels" => once name draft.labels ToggleLabels.reader fun v => { draft with labels := v }
  | "palette" =>
      once name draft.paletteEntries entriesReader fun v => { draft with paletteEntries := some v }
  | "fallback_color" =>
      once name draft.fallbackColor (Reader.optional Color.reader)
        fun v => { draft with fallbackColor := some v }
  | _ => .error (.unknownField name fieldNames)

/-- The configuration of a draft, with defaults for what it does not say. -/
def Draft.finish (draft : Draft) : Dashboard :=
  let d : Dashboard := {}
  { limit := draft.limit.getD d.limit
    paddingLeft := draft.paddingLeft.getD d.paddingLeft
    width := draft.width.getD d.width
    locale := draft.locale.getD d.locale
    seriesName := draft.seriesName.getD d.seriesName
    labels := draft.labels.getD d.labels
    paletteEntries := draft.paletteEntries.getD d.paletteEntries
    fallbackColor := draft.fallbackColor.getD d.fallbackColor }

def reader : Reader Dashboard :=
  let d : Dashboard := {}
  Reader.record "DashboardConfig"
    (do return (← Reader.object Draft.field {}).finish)
    (do return {
      limit := ← elementOr 0 d.limit Reader.int64
      paddingLeft := ← elementOr 1 d.paddingLeft (Reader.optional Reader.uint32)
      width := ← elementOr 2 d.width Reader.uint32
      locale := ← elementOr 3 d.locale Reader.text
      seriesName := ← elementOr 4 d.seriesName Reader.text
      labels := ← elementOr 5 d.labels ToggleLabels.reader
      paletteEntries := ← elementOr 6 d.paletteEntries entriesReader
      fallbackColor := ← elementOr 7 d.fallbackColor (Reader.optional Color.reader) })

/-- Reads a configuration from text. -/
def ofText (text : String) : Except ReadError Dashboard := reader.readAll text

/-- Loads a configuration. -/
def load (files : FileTree) (path : String) : Except LoadError (Dashboard × List Notice) :=
  match files.readText path with
  | .error cause => .error (.unreadable "config " path cause)
  | .ok text =>
      match ofText text with
      | .error cause => .error (.unparsable "config " path cause)
      | .ok d => .ok (d, [.loadedConfig path])

end Dashboard

end RankedBars
