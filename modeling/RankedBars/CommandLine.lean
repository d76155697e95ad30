import RankedBars.Backend.Svg
import RankedBars.CommandLine.Arguments
import RankedBars.Dashboard
import RankedBars.Toggle.Chart

/-!
# The command line

One command renders the chart of a dataset into a file, toggling it as often as
asked, and can write the configuration of the final chart beside it. The other
tells the color of each label it is given. What the arguments say goes over what
a configuration file says, and that over the defaults, part by part.

A run is a function on the files. Its exit code is 0 when all went well, 1 when
something failed and 2 when the arguments were wrong.
-/

namespace RankedBars.CommandLine

/-- What to render, and how. -/
structure RenderRequest where
  input : String
  outDir : String := "."
  container : String := "chroots"
  config : Option String := none
  limit : Option Int := none
  paddingLeft : Option UInt32 := none
  width : Option UInt32 := none
  locale : Option String := none
  toggles : Nat := 0
  emitConfig : Option String := none

/-- What to classify. -/
structure ClassifyRequest where
  config : Option String
  labels : List String

inductive Command
  | render (request : RenderRequest)
  | classify (request : ClassifyRequest)

/-- What the arguments ask for. -/
inductive Invocation
  | command (command : Command)
  | help (text : String)
  | version
  | misuse

/-! ## Arguments -/

/-- A path is never empty. -/
def acceptsPath (s : String) : Bool := s ≠ ""

def acceptsUInt32 (s : String) : Bool := (uint32? s).isSome

def renderGrammar : Grammar where
  options := [
    { name := "input", letter := some 'i', accepts := acceptsPath },
    { name := "out-dir", letter := some 'o', accepts := acceptsPath },
    { name := "container", letter := some 'c' },
    { name := "config", accepts := acceptsPath },
    { name := "limit", letter := some 'l', accepts := fun s => (int64? s).isSome,
      takesNegative := true },
    { name := "padding-left", accepts := acceptsUInt32 },
    { name := "width", accepts := acceptsUInt32 },
    { name := "locale" },
    { name := "toggles", accepts := acceptsUInt32 },
    { name := "emit-config", accepts := acceptsPath }]
  takesWords := false

def classifyGrammar : Grammar where
  options := [{ name := "config", accepts := acceptsPath }]
  takesWords := true

def uint32Value? (given : Given) (name : String) : Option UInt32 :=
  ((given.value? name).bind uint32?).map fun n => UInt32.ofNat n.toNat

/-- The request that was given, unless there is no input. -/
def renderRequest? (given : Given) : Option RenderRequest := do
  let input ← given.value? "input"
  let request : RenderRequest := { input := input }
  return { request with
    outDir := (given.value? "out-dir").getD request.outDir
    container := (given.value? "container").getD request.container
    config := given.value? "config"
    limit := (given.value? "limit").bind int64?
    paddingLeft := uint32Value? given "padding-left"
    width := uint32Value? given "width"
    locale := given.value? "locale"
    toggles := ((given.value? "toggles").bind uint32?).elim 0 Int.toNat
    emitConfig := given.value? "emit-config" }

/-- The request that was given, unless there are no labels. -/
def classifyRequest? (given : Given) : Option ClassifyRequest :=
  if given.words.isEmpty then none else some ⟨given.value? "config", given.words⟩

/-! ## Help -/

def programName : String := "buildstats"

def versionText : String := programName ++ " 0.1.0\n"

def usage (arguments : String) : String := "Usage: " ++ programName ++ " " ++ arguments ++ "\n"

def mainHelp : String :=
  "Render ranked per-chroot build charts for package-build dashboards\n\n" ++ usage "<COMMAND>" ++
  "\nCommands:\n" ++
  "  render    Render the ranked chroot chart to SVG (optionally toggling it)\n" ++
  "  classify  Print the family color resolved for each label\n" ++
  "  help      Print this message or the help of the given subcommand(s)\n" ++
  "\nOptions:\n" ++
  "  -h, --help     Print help\n" ++
  "  -V, --version  Print version\n"

/-- An option in a help text, with what it is for on a line of its own. -/
def helpEntry (option purpose : String) : String :=
  "  " ++ option ++ "\n          " ++ purpose ++ "\n"

def renderHelp : String :=
  "Render the ranked chroot chart to SVG (optionally toggling it)\n\n" ++
  usage "render [OPTIONS] --input <INPUT>" ++ "\nOptions:\n" ++
  helpEntry "-i, --input <INPUT>"
    "Dataset file (.json with [label, value] pairs, or .csv with a label,value header)" ++
  helpEntry "-o, --out-dir <OUT_DIR>" "Directory receiving <container>.svg [default: .]" ++
  helpEntry "-c, --container <CONTAINER>"
    "Container id; becomes the output file stem [default: chroots]" ++
  helpEntry "    --config <CONFIG>" "JSON configuration file; flags below override its values" ++
  helpEntry "-l, --limit <LIMIT>" "Bars shown before expanding" ++
  helpEntry "    --padding-left <PADDING_LEFT>"
    "Left padding in pixels (defaults to the widest label)" ++
  helpEntry "    --width <WIDTH>" "Chart width in pixels" ++
  helpEntry "    --locale <LOCALE>" "Locale for value labels (e.g. en, de)" ++
  helpEntry "    --toggles <TOGGLES>"
    "Activate the show-more/show-less toggle this many times after mounting [default: 0]" ++
  helpEntry "    --emit-config <EMIT_CONFIG>" "Also write the final chart configuration as JSON" ++
  helpEntry "-h, --help" "Print help"

def classifyHelp : String :=
  "Print the family color resolved for each label\n\n" ++
  usage "classify [OPTIONS] <LABELS>..." ++
  "\nArguments:\n  <LABELS>...  Labels to classify\n" ++
  "\nOptions:\n" ++
  "      --config <CONFIG>  JSON configuration file with a custom palette\n" ++
  "  -h, --help             Print help\n"

def helpHelp : String :=
  "Print this message or the help of the given subcommand(s)\n\n" ++
  usage "help [COMMAND]..." ++
  "\nArguments:\n  [COMMAND]...  Print help for the subcommand(s)\n"

/-- What reading a command's arguments comes to. -/
def invocationOf (help : String) (command? : Given → Option Command) : Parsed → Invocation
  | .help => .help help
  | .misuse => .misuse
  | .given given => (command? given).elim .misuse .command

/-- The help on a topic. -/
def helpOn : List String → Invocation
  | [] => .help mainHelp
  | ["render"] => .help renderHelp
  | ["classify"] => .help classifyHelp
  | ["help"] => .help helpHelp
  | _ => .misuse

/-- What the arguments of the program ask for. -/
def invocation : List String → Invocation
  | [] => .misuse
  | "render" :: args =>
      invocationOf renderHelp (fun given => (renderRequest? given).map .render)
        (parse renderGrammar args)
  | "classify" :: args =>
      invocationOf classifyHelp (fun given => (classifyRequest? given).map .classify)
        (parse classifyGrammar args)
  | "help" :: topics => helpOn topics
  | "--help" :: _ => .help mainHelp
  | "--version" :: _ => .version
  | arg :: _ =>
      match arg.toList with
      | '-' :: 'h' :: _ => .help mainHelp
      | '-' :: 'V' :: _ => .version
      | _ => .misuse

/-! ## Runs -/

/-- What a run of the program comes to. -/
structure Outcome where
  exitCode : Nat
  output : String
  errors : String
  files : FileTree
  notices : List Notice := []

/-- Why a command failed: what was being done, outermost first, and the cause.
-/
structure Failure where
  chain : List String

/-- What is told about a failure. -/
def Failure.text (f : Failure) : String :=
  match f.chain with
  | [] => "Error\n"
  | [cause] => "Error: " ++ cause ++ "\n"
  | [context, cause] => "Error: " ++ context ++ "\n\nCaused by:\n    " ++ cause ++ "\n"
  | context :: causes =>
      let lines := causes.mapIdx fun i cause => "    " ++ toString i ++ ": " ++ cause ++ "\n"
      "Error: " ++ context ++ "\n\nCaused by:\n" ++ String.join lines

def Failure.ofLoad (e : LoadError) : Failure := ⟨e.contexts ++ e.cause?.toList⟩

/-- A line for each error text that a command writes while it runs. -/
def linesOf (texts : List String) : String := String.join (texts.map (· ++ "\n"))

/-- The dashboard configuration: that of a file, or the defaults. -/
def loadDashboard (files : FileTree) : Option String → Except Failure (Dashboard × List Notice)
  | none => .ok ({}, [])
  | some path => (Dashboard.load files path).mapError .ofLoad

/-- A configuration with what the arguments say in its place. -/
def RenderRequest.over (request : RenderRequest) (d : Dashboard) : Dashboard :=
  { d with
    limit := request.limit.getD d.limit
    paddingLeft := request.paddingLeft.or d.paddingLeft
    width := request.width.getD d.width
    locale := request.locale.getD d.locale }

/-- A chart and its backend while a command runs. -/
structure Rendering where
  chart : ToggleChart Svg.Handle
  store : Svg.Store
  notices : List Notice

/-- Toggles a chart a number of times, or until there is nothing to toggle;
tells whether that happened. -/
def toggleTimes (B : Backend Svg.Store Svg.Handle) :
    Nat → Rendering → Except Failure Bool × Rendering
  | 0, r => (.ok false, r)
  | n + 1, r =>
      let clicked := r.chart.activate B r.store
      let r := ⟨clicked.chart, clicked.state, r.notices ++ clicked.notices⟩
      match clicked.result with
      | .error e => (.error ⟨[e.message]⟩, r)
      | .ok false => (.ok true, r)
      | .ok true => toggleTimes B n r

/-- What is told about the chart in the end. -/
def finalLines (chart : ToggleChart Svg.Handle) : List String :=
  let wrote := match chart.handle with
    | some handle =>
        "Wrote " ++ toString chart.view.length ++ " bars (" ++ chart.mode.name ++ ") to "
          ++ handle.path
    | none => "Empty dataset, no chart written"
  let toggle := match chart.control.filter fun b => b.clickTarget.isSome with
    | some b => ["Toggle: " ++ b.text]
    | none => []
  wrote :: toggle

/-- Writes the configuration of the final chart, if there is a chart. -/
def emitConfig (chart : ToggleChart Svg.Handle) (files : FileTree) (path : String) :
    Except Failure (String × FileTree) :=
  if !chart.isLive then .ok ("No chart rendered, skipping " ++ path, files)
  else
    match files.writeText path chart.config.saved with
    | .error e => .error ⟨[e.message]⟩
    | .ok files => .ok ("Saved chart config to " ++ path, files)

def succeeded (output : String) (errors : List String) (files : FileTree) (notices : List Notice) :
    Outcome := ⟨0, output, linesOf errors, files, notices⟩

def failed (errors : List String) (failure : Failure) (files : FileTree) (notices : List Notice) :
    Outcome := ⟨1, "", linesOf errors ++ failure.text, files, notices⟩

/-- Renders a chart that is mounted: toggles it, tells about it and writes its
configuration. -/
def finish (request : RenderRequest) (B : Backend Svg.Store Svg.Handle) (r : Rendering) : Outcome :=
  match toggleTimes B request.toggles r with
  | (.error failure, r) => failed [] failure r.store.files r.notices
  | (.ok exhausted, r) =>
      let errors :=
        (if exhausted then ["Nothing to toggle: every entry is already shown"] else [])
          ++ finalLines r.chart
      match request.emitConfig with
      | none => succeeded "" errors r.store.files r.notices
      | some path =>
          match emitConfig r.chart r.store.files path with
          | .error failure => failed errors failure r.store.files r.notices
          | .ok (line, files) => succeeded "" (errors ++ [line]) files r.notices

def render (files : FileTree) (request : RenderRequest) : Outcome :=
  match loadDashboard files request.config with
  | .error failure => failed [] failure files []
  | .ok (dashboard, notices) =>
      let dashboard := request.over dashboard
      match Dataset.load files request.input with
      | .error e => failed [] (.ofLoad e) files notices
      | .ok (data, more) =>
          let B := Svg.backend ⟨request.outDir, dashboard.locale⟩
          let notices := notices ++ more
          match ToggleChart.mount B dashboard.renderer data request.container (some {})
              dashboard.mountOptions { files := files } with
          | (.error e, store, more) =>
              failed [] ⟨["rendering into " ++ request.outDir, e.message]⟩ store.files
                (notices ++ more)
          | (.ok chart, store, more) => finish request B ⟨chart, store, notices ++ more⟩

def classify (files : FileTree) (request : ClassifyRequest) : Outcome :=
  match loadDashboard files request.config with
  | .error failure => failed [] failure files []
  | .ok (dashboard, notices) =>
      let line label := label ++ "\t" ++ (dashboard.palette.classify (some label)).toText
      succeeded (linesOf (request.labels.map line)) [] files notices

/-- Runs the program. -/
def run (files : FileTree) (args : List String) : Outcome :=
  match invocation args with
  | .misuse => ⟨2, "", "", files, []⟩
  | .version => succeeded versionText [] files []
  | .help text => succeeded text [] files []
  | .command (.render request) => render files request
  | .command (.classify request) => classify files request

end RankedBars.CommandLine
