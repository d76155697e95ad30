import RankedBars.Backend.Retained
import RankedBars.Dashboard
import RankedBars.Toggle.Chart
import RankedBars.Viewer.Painting

/-!
# The viewer

The viewer is a window with a button that opens a dataset, the chart of the
dataset that was opened last, the link that toggles it, and up to two lines
below it: what was loaded, and what went wrong. A dataset that cannot be loaded
leaves the chart as it is. What went wrong is shown until a dataset is opened.

All that happens is opening, clicking and resizing; everything that is shown is
worked out from the state for each frame.
-/

namespace RankedBars.Viewer

/-- The container of the one chart. -/
def container : String := "chroots"

/-- What can be chosen in a file dialog. -/
structure FileFilter where
  name : String
  extensions : List String

def datasetFilter : FileFilter := ⟨"Datasets", ["json", "csv"]⟩

/-- What a window is opened with. -/
structure WindowOptions where
  application : String
  title : String
  width : Nat
  height : Nat
  leastWidth : Nat
  leastHeight : Nat

def windowOptions : WindowOptions where
  application := "buildstats"
  title := "Chroot builds - buildstats"
  width := 520
  height := 640
  leastWidth := 360
  leastHeight := 300

structure Window where
  files : FileTree
  width : Nat := windowOptions.width
  dashboard : Dashboard := {}
  store : Retained.Store := {}
  chart : Option (ToggleChart Retained.Handle) := none
  source : Option String := none
  status : String := ""
  error : String := ""

namespace Window

/-- Takes the chart off show, if there is one. -/
def release (w : Window) : Except RenderError Unit × Window :=
  match w.chart with
  | none => (.ok (), w)
  | some chart =>
      let (result, store) := chart.unmount Retained.backend w.store
      (result.map fun _ => (), { w with chart := none, store })

/-- Puts a dataset on show in an empty container. -/
def mount (w : Window) (data : Dataset) : Except RenderError Unit × Window :=
  match ToggleChart.mount Retained.backend w.dashboard.renderer data container (some {})
      w.dashboard.mountOptions w.store with
  | (.error e, store, _) => (.error e, { w with store })
  | (.ok chart, store, _) => (.ok (), { w with chart, store })

/-- Says what went wrong, in place of what was loaded. -/
def refuse (w : Window) (reason : String) : Window := { w with error := reason, status := "" }

/-- Says what was loaded, in place of what went wrong. -/
def accept (w : Window) (data : Dataset) (path : String) : Window :=
  { w with
    source := path
    status := "Loaded " ++ toString data.length ++ " chroots from " ++ path
    error := "" }

/-- Opens a dataset, in place of the one before it if it can be loaded. -/
def openDataset (w : Window) (path : String) : Window :=
  match Dataset.load w.files path with
  | .error e => w.refuse e.message
  | .ok (data, _) =>
      match w.release with
      | (.error e, w) => w.refuse e.message
      | (.ok (), w) =>
          match w.mount data with
          | (.error e, w) => w.refuse e.message
          | (.ok (), w) => w.accept data path

/-- The window at the start, with the dataset and the configuration that it was
started with. -/
def start (files : FileTree) (dataset config : Option String) : Window :=
  let w : Window := { files := files }
  let w := match config with
    | none => w
    | some path =>
        match Dashboard.load files path with
        | .ok (dashboard, _) => { w with dashboard }
        | .error e => { w with error := e.message }
  dataset.elim w w.openDataset

/-- Toggles the chart, if there is one. -/
def toggle (w : Window) : Window :=
  match w.chart with
  | none => w
  | some chart =>
      let clicked := chart.activate Retained.backend w.store
      let w := { w with chart := clicked.chart, store := clicked.state }
      match clicked.result with
      | .ok _ => w
      | .error e => { w with error := "Failed to redraw chart: " ++ e.message }

/-! ## What is shown -/

/-- What a text on the screen is. -/
inductive TextRole
  | plain
  | openButton
  | toggleLink
  | status
  | error
deriving DecidableEq

structure ShownText where
  text : String
  role : TextRole := .plain

/-- The live chart. -/
def liveChart? (w : Window) : Option ChartConfig := w.store.chart? container

/-- The texts of a chart, bar by bar. Nothing is painted for an empty one. -/
def chartTexts (c : ChartConfig) (locale : Locale) : List String :=
  (c.bars.flatMap fun bar =>
    bar.label :: if c.dataLabels then [locale.format bar.value] else []).filter (· ≠ "")

/-- The text of the toggle link, which is there as long as the control can be
clicked. -/
def toggleText? (w : Window) : Option String := do
  let control ← (← w.chart).control
  let _ ← control.clickTarget
  return control.text

/-- A line that is only there when it says something. -/
def lineOf (text : String) (role : TextRole) : List ShownText :=
  if text = "" then [] else [{ text, role }]

/-- All texts in the order in which they are painted. -/
def texts (w : Window) : List ShownText :=
  let body := match w.liveChart? with
    | some c => chartTexts c (.ofTag w.dashboard.locale)
    | none =>
        if w.chart.isSome then ["No builds to show."] else ["Open a dataset to show the chart."]
  [{ text := "Open dataset…", role := .openButton }]
    ++ w.source.toList.map (fun text => { text := text })
    ++ [{ text := "Builds per chroot" }]
    ++ body.map (fun text => { text := text })
    ++ w.toggleText?.toList.map (fun text => { text, role := .toggleLink })
    ++ lineOf w.status .status ++ lineOf w.error .error

def bars (w : Window) : List PaintedBar := w.liveChart?.elim [] fun c => paint c w.width

/-! ## What happens -/

/-- One thing that happens to a window or to the files around it. -/
inductive Happening
  | click (text : String)
  | openPath (path : Option String)
  | resize (width : Nat)
  | writeFile (path text : String)
  | removeFile (path : String)

/-- What is shown after something happened. -/
structure Frame where
  /-- Whether it could happen. -/
  result : Bool
  texts : List ShownText
  bars : List PaintedBar
  /-- The file dialogs that were asked for. -/
  dialogs : List FileFilter

def frame (w : Window) (result : Bool) (dialogs : List FileFilter) : Frame :=
  ⟨result, w.texts, w.bars, dialogs⟩

/-- What happens when the last text on the screen that reads like this is
clicked. A dialog that comes up is cancelled. -/
def clickText (w : Window) (text : String) : Bool × List FileFilter × Window :=
  match w.texts.reverse.find? fun shown => shown.text = text with
  | none => (false, [], w)
  | some shown =>
      match shown.role with
      | .openButton => (true, [datasetFilter], w)
      | .toggleLink => (true, [], w.toggle)
      | _ => (true, [], w)

/-- Whether something could happen, the dialogs it asked for, and the window
after it. -/
def act (w : Window) : Happening → Bool × List FileFilter × Window
  | .click text => w.clickText text
  | .openPath path => (true, [datasetFilter], path.elim w w.openDataset)
  | .resize width => (true, [], { w with width })
  | .writeFile path text => onFiles (w.files.writeText path text)
  | .removeFile path => onFiles (w.files.removeFile path)
where
  /-- Takes over the outcome of an operation on files. -/
  onFiles : Except IoError FileTree → Bool × List FileFilter × Window
    | .ok files => (true, [], { w with files })
    | .error _ => (false, [], w)

/-- The frames after each of some happenings. -/
def framesFrom (w : Window) : List Happening → List Frame
  | [] => []
  | h :: rest =>
      let (result, dialogs, w) := w.act h
      w.frame result dialogs :: framesFrom w rest

/-- All frames of a window, the first one included. -/
def frames (w : Window) (happenings : List Happening) : List Frame :=
  w.frame true [] :: w.framesFrom happenings

end Window

end RankedBars.Viewer
