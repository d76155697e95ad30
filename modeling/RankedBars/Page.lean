import RankedBars.Backend.Retained
import RankedBars.Backend.Scripted
import RankedBars.Backend.Svg
import RankedBars.Toggle.Chart

/-!
# Pages

A page holds toggle charts, buttons and handles of charts that were rendered
without a toggle, each under a name, over one backend. A page is driven step by
step, and every step answers, also one that fails.

Buttons belong to the page and not to the charts: a chart drives the button of
its name, and others may change it between two steps or mount it again
elsewhere. A handler can be spoken of once some button was seen bound to it.
-/

namespace RankedBars

/-- What a backend shows of its state. -/
inductive BackendReport
  | retained (liveCount generated : Nat) (charts : List (String × UInt32 × List String))
  | svg (liveCount : Nat) (live : List String) (files : List (String × Option Nat))
  | scripted (generated : Nat) (live : List String) (events : List String)

/-- A backend together with what a page needs to know about its states: the
files beside or inside them, how destructions are made to fail, and what they
show. -/
structure Host (σ η : Type) where
  backend : Backend σ η
  start : σ
  files : σ → FileTree
  withFiles : FileTree → σ → σ
  failDestroys : Nat → σ → σ := fun _ s => s
  /-- What a state shows about these containers, and the state after it was
  looked at. -/
  report : List String → σ → BackendReport × σ

/-- A backend with something else beside its state. -/
def Backend.beside (B : Backend σ η) (τ : Type) : Backend (σ × τ) η where
  generate config s := let (r, s') := B.generate config s.1; (r, (s', s.2))
  destroy handle s := let (r, s') := B.destroy handle s.1; (r, (s', s.2))
  container := B.container
  notices := B.notices

/-- Distinct containers in alphabetical order. -/
def sortedContainers (containers : List String) : List String :=
  containers.eraseDups.mergeSort (fun a b => a ≤ b)

/-- How often a text starts somewhere in another. -/
def occurrences (part : List Char) : List Char → Nat
  | [] => 0
  | c :: rest => (if part.isPrefixOf (c :: rest) then 1 else 0) + occurrences part rest

namespace Host

def retained : Host (Retained.Store × FileTree) Retained.Handle where
  backend := Retained.backend.beside FileTree
  start := ({}, .empty)
  files s := s.2
  withFiles files s := (s.1, files)
  report known s :=
    let charts := known.eraseDups.filterMap fun container =>
      (s.1.chart? container).map fun c => (container, c.size.height, c.axis.categories)
    (.retained s.1.liveCount s.1.generated charts, s)

/-- The number of rectangles in a file. -/
def rectangles (content : ByteArray) : Nat :=
  occurrences "<rect".toList ((String.fromUTF8? content).getD "").toList

def svg (settings : Svg.Settings) : Host Svg.Store Svg.Handle where
  backend := Svg.backend settings
  start := {}
  files s := s.files
  withFiles files s := { s with files }
  report known s :=
    let files := (s.files.listing settings.directory).map fun (place, node) =>
      match node with
      | .file content => (FileTree.pathTo place, some (rectangles content))
      | .directory => (FileTree.pathTo place ++ "/", none)
    (.svg s.liveCount (sortedContainers (known.filter s.isLive)) files, s)

def scripted (failGenerateAt : List Nat) : Host (Scripted.Store × FileTree) Scripted.Handle where
  backend := Scripted.backend.beside FileTree
  start := ({ failGenerateAt := failGenerateAt }, .empty)
  files s := s.2
  withFiles files s := (s.1, files)
  failDestroys n s := ({ s.1 with failDestroys := n }, s.2)
  report _ s :=
    (.scripted s.1.generated (sortedContainers s.1.live) s.1.events,
      ({ s.1 with events := [] }, s.2))

end Host

/-! ## Steps -/

/-- What is done to a button, in this order, as far as it is given. -/
structure ButtonChange where
  replaceBy : Option String := none
  text : Option String := none
  visible : Option Bool := none
  bind : Option String := none
  unbind : Bool := false

/-- One step of a page. -/
inductive PageStep
  | button (name : String) (change : ButtonChange)
  | mount (id : String) (points : Dataset) (container : String) (button : Option String)
      (renderer : Renderer) (options : MountOptions)
  | activate (id : String)
  | click (id handler : String)
  | unmount (id : String)
  | drop (id : String)
  | inspect (id : String)
  | render (handle container : String) (view : Dataset) (renderer : Renderer)
      (paddingLeft : Option UInt32)
  | destroy (handle : String)
  | failDestroys (count : Nat)
  | removeFile (path : String)
  | removeDirectory (path : String)
  | makeDirectory (path : String)
  | writeFile (path text : String)

/-- The container that a step mentions. -/
def PageStep.container? : PageStep → Option String
  | .mount _ _ container _ _ _ => some container
  | .render _ container _ _ _ => some container
  | _ => none

/-- What is found out about a chart by looking at it. -/
structure Inspection where
  container : String
  handle : Option String
  options : MountOptions
  config : ChartConfig
  backend : BackendReport

/-- What a step answers. -/
inductive StepResult
  | done
  | truth (value : Bool)
  | labels (labels : List String)
  | activated (hit : Bool) (labels : List String)
  | clicked (result : Except RenderError Bool) (prevented : Bool)
  | control (control : Option Button)
  | container (name : String)
  | inspected (inspection : Inspection)
  | failed (cause : RenderError)
  | noSuchChart
  | noSuchHandler
  | noSuchHandle

/-- A toggle chart on a page, and the name of the button that it drives. -/
structure PageChart (η : Type) where
  chart : ToggleChart η
  button : Option String

structure Page (σ η : Type) where
  state : σ
  charts : List (String × PageChart η) := []
  buttons : List (String × Button) := []
  handles : List (String × η) := []
  /-- Handlers that some button was seen bound to. -/
  seen : List HandlerId := []
  /-- Containers that were mentioned. -/
  containers : List String := []

/-- A list of named things in which a name stands for this thing from now on. -/
def assign (name : String) (a : α) (entries : List (String × α)) : List (String × α) :=
  if entries.any (·.1 = name) then entries.map fun e => if e.1 = name then (name, a) else e
  else entries ++ [(name, a)]

def unassign (name : String) (entries : List (String × α)) : List (String × α) :=
  entries.filter (·.1 ≠ name)

namespace Page

variable {σ η : Type}

def button? (p : Page σ η) (name : String) : Option Button := p.buttons.lookup name

/-- The page with a button of this name, a new one if there was none. -/
def ensureButton (p : Page σ η) (name : String) : Page σ η :=
  match p.button? name with
  | some _ => p
  | none => { p with buttons := assign name {} p.buttons }

def setButton (p : Page σ η) (name : Option String) (control : Option Button) : Page σ η :=
  match name, control with
  | some name, some b => { p with buttons := assign name b p.buttons }
  | _, _ => p

/-- A chart with its button as it is now. -/
def chart? (p : Page σ η) (id : String) : Option (PageChart η) :=
  (p.charts.lookup id).map fun c =>
    match c.button with
    | none => c
    | some name => { c with chart := { c.chart with control := p.button? name } }

/-- The page after a chart and its button have changed. -/
def setChart (p : Page σ η) (id : String) (c : PageChart η) : Page σ η :=
  { p.setButton c.button c.chart.control with charts := assign id c p.charts }

def dropChart (p : Page σ η) (id : String) : Page σ η := { p with charts := unassign id p.charts }

def handler? (p : Page σ η) (name : String) : Option HandlerId := p.seen.find? (·.text = name)

/-- Changes a button. A handler that was never seen leaves the changes before it
in force. -/
def changeButton (p : Page σ η) (name : String) (change : ButtonChange) : StepResult × Page σ η :=
  let b := (p.button? name).getD {}
  let b := change.replaceBy.elim b fun text => { text := text }
  let b := change.text.elim b fun text => { b with text }
  let b := change.visible.elim b fun visible => { b with visible }
  match change.bind with
  | none =>
      (.done, p.setButton (some name) (if change.unbind then b.bind none else b))
  | some handlerName =>
      match p.handler? handlerName with
      | none => (.noSuchHandler, p.setButton (some name) b)
      | some id =>
          let b := b.bind (some id)
          (.done, p.setButton (some name) (if change.unbind then b.bind none else b))

/-- Carries out an operation on the files beside the charts, and tells whether
it worked. -/
def onFiles (host : Host σ η) (p : Page σ η)
    (operation : FileTree → Except IoError Unit × FileTree) :
    StepResult × Page σ η :=
  let (result, files) := operation (host.files p.state)
  (.truth result.isOk, { p with state := host.withFiles files p.state })

/-- An operation on files that changes nothing when it fails. -/
def orUnchanged (operation : FileTree → Except IoError FileTree) (files : FileTree) :
    Except IoError Unit × FileTree :=
  match operation files with
  | .ok files => (.ok (), files)
  | .error e => (.error e, files)

def mount (host : Host σ η) (p : Page σ η) (id : String) (points : Dataset) (container : String)
    (button : Option String) (renderer : Renderer) (options : MountOptions) :
    StepResult × List Notice × Page σ η :=
  let p := p.dropChart id
  let p := button.elim p p.ensureButton
  let control := button.bind p.button?
  match ToggleChart.mount host.backend renderer points container control options p.state with
  | (.error e, state, notices) => (.failed e, notices, { p with state })
  | (.ok chart, state, notices) =>
      (.labels chart.view.labels, notices, { p with state }.setChart id ⟨chart, button⟩)

/-- What one step does: its answer, what is worth telling, and the page after
it. -/
def act (host : Host σ η) (p : Page σ η) : PageStep → StepResult × List Notice × Page σ η
  | .button name change =>
      let (result, p) := p.changeButton name change
      (result, [], p)
  | .mount id points container button renderer options =>
      p.mount host id points container button renderer options
  | .activate id =>
      match p.chart? id with
      | none => (.noSuchChart, [], p)
      | some c =>
          let clicked := c.chart.activate host.backend p.state
          let p := { p with state := clicked.state }.setChart id { c with chart := clicked.chart }
          match clicked.result with
          | .ok hit => (.activated hit clicked.chart.view.labels, clicked.notices, p)
          | .error e => (.failed e, clicked.notices, p)
  | .click id handlerName =>
      match p.handler? handlerName with
      | none => (.noSuchHandler, [], p)
      | some handler =>
          match p.chart? id with
          | none => (.noSuchChart, [], p)
          | some c =>
              let clicked := c.chart.click host.backend handler {} p.state
              let p := { p with state := clicked.state }.setChart id
                { c with chart := clicked.chart }
              (.clicked clicked.result clicked.event.prevented, clicked.notices, p)
  | .unmount id =>
      match p.chart? id with
      | none => (.noSuchChart, [], p)
      | some c =>
          let p := p.dropChart id
          match c.chart.unmount host.backend p.state with
          | (.error e, state) => (.failed e, [], { p with state })
          | (.ok control, state) =>
              (.control control, [], { p with state }.setButton c.button control)
  | .drop id => (.truth (p.charts.lookup id).isSome, [], p.dropChart id)
  | .inspect id =>
      match p.chart? id with
      | none => (.noSuchChart, [], p)
      | some { chart := c, .. } =>
          let (backend, state) := host.report [] p.state
          let inspection : Inspection := {
            container := c.container
            handle := c.handle.map host.backend.container
            options := c.options
            config := c.config
            backend }
          (.inspected inspection, [], { p with state })
  | .render handleName container view renderer paddingLeft =>
      match renderer.render host.backend view container paddingLeft p.state with
      | (.error e, state, notices) => (.failed e, notices, { p with state })
      | (.ok handle, state, notices) =>
          (.container (host.backend.container handle), notices,
            { p with state, handles := assign handleName handle p.handles })
  | .destroy handleName =>
      match p.handles.lookup handleName with
      | none => (.noSuchHandle, [], p)
      | some handle =>
          match host.backend.destroy handle p.state with
          | (.error e, state) => (.failed e, [], { p with state })
          | (.ok (), state) => (.done, [], { p with state })
  | .failDestroys count => (.done, [], { p with state := host.failDestroys count p.state })
  | .removeFile path => files (orUnchanged (·.removeFile path))
  | .removeDirectory path => files (orUnchanged (·.removeDirectory path))
  | .makeDirectory path => files (·.createDirectories path)
  | .writeFile path text => files (orUnchanged (·.writeText path text))
where
  /-- An operation on files as a step. -/
  files (operation : FileTree → Except IoError Unit × FileTree) :
      StepResult × List Notice × Page σ η :=
    let (result, p) := p.onFiles host operation
    (result, [], p)

/-- The page that remembers the handlers which its buttons are bound to. -/
def remember (p : Page σ η) : Page σ η :=
  let bound := p.buttons.filterMap fun entry => entry.2.handler
  { p with seen := p.seen ++ (bound.eraseDups.filter fun id => !p.seen.contains id) }

/-- What a page shows after a step. -/
structure Report (η : Type) where
  result : StepResult
  notices : List Notice
  charts : List (String × PageChart η)
  buttons : List (String × Button)
  backend : BackendReport

/-- Carries out one step. -/
def step (host : Host σ η) (p : Page σ η) (s : PageStep) : Report η × Page σ η :=
  let p := { p with containers := p.containers ++ s.container?.toList }
  let (result, notices, p) := p.act host s
  let p := p.remember
  let (backend, state) := host.report p.containers p.state
  let charts := p.charts.filterMap fun entry => (p.chart? entry.1).map fun c => (entry.1, c)
  ({ result, notices, charts, buttons := p.buttons, backend }, { p with state })

/-- Carries out steps in turn. -/
def run (host : Host σ η) (p : Page σ η) : List PageStep → List (Report η)
  | [] => []
  | s :: rest =>
      let (report, p) := p.step host s
      report :: run host p rest

/-- What an empty page shows after each of some steps. -/
def reports (host : Host σ η) (steps : List PageStep) : List (Report η) :=
  run host { state := host.start } steps

end Page

end RankedBars
