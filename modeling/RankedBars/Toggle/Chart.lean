import RankedBars.Backend

/-!
# Charts with a toggle

A toggle chart keeps a dataset on show in one container: its largest points at
first, and all of them after its control was clicked, and so on in turn. It owns
the handle of its live chart. The old chart is always destroyed before a new one
is asked for, so the container never holds two.

A click does five things in a row: it destroys the chart, changes the mode,
renews the label, binds a fresh handler and draws. The two that can fail are the
first and the last. When the chart cannot be destroyed nothing has happened yet
and nothing else does; when the new one cannot be drawn the mode, the label and
the handler have moved on together, no chart is live, and the next click draws
again.
-/

namespace RankedBars

variable {σ : Type u} {η : Type v}

structure ToggleChart (η : Type v) where
  renderer : Renderer
  dataset : Dataset
  container : String
  control : Option Button
  options : MountOptions
  mode : ViewMode := .topN
  handle : Option η := none
  handler : Option HandlerId := none
  nextHandler : HandlerId := .first

namespace ToggleChart

/-- What the chart shows in its mode. -/
def view (c : ToggleChart η) : Dataset := c.dataset.view c.options.limit c.mode.showsAll

def isLive (c : ToggleChart η) : Bool := c.handle.isSome

theorem isLive_iff {c : ToggleChart η} : c.isLive = true ↔ ∃ handle, c.handle = some handle :=
  Option.isSome_iff_exists

/-- The configuration of what the chart shows. -/
def config (c : ToggleChart η) : ChartConfig :=
  c.renderer.config c.view c.container c.options.paddingLeft

/-- Whether the dataset has more points than the limit lets through. -/
def isExpandable (c : ToggleChart η) : Bool :=
  Dataset.visibleCount c.options.limit < c.dataset.length

/-- What the control has to say. -/
def label (c : ToggleChart η) : String := c.options.labels.labelFor c.mode c.options.limit

/-- Destroys the live chart, if there is one. Its handle is kept when that
fails. -/
def release (B : Backend σ η) (c : ToggleChart η) (s : σ) :
    Except RenderError (ToggleChart η) × σ :=
  match c.handle with
  | none => (.ok c, s)
  | some handle =>
      match B.destroy handle s with
      | (.ok (), s) => (.ok { c with handle := none }, s)
      | (.error e, s) => (.error e, s)

theorem release_of_handle_eq_none (B : Backend σ η) {c : ToggleChart η} (h : c.handle = none)
    (s : σ) : c.release B s = (.ok c, s) := by
  rw [release, h]

/-- Draws what the chart shows. No chart is expected to be live. -/
def draw (B : Backend σ η) (c : ToggleChart η) (s : σ) :
    Except RenderError (ToggleChart η) × σ × List Notice :=
  match c.renderer.render B c.view c.container c.options.paddingLeft s with
  | (.ok handle, s, notices) => (.ok { c with handle := some handle }, s, notices)
  | (.error e, s, notices) => (.error e, s, notices)

/-- Binds the control, if there is one, to a handler that was not used before.
-/
def rebind (c : ToggleChart η) : ToggleChart η :=
  match c.control with
  | none => c
  | some b =>
      { c with
        control := some (b.bind (some c.nextHandler))
        handler := some c.nextHandler
        nextHandler := c.nextHandler.next }

@[simp] theorem mode_rebind (c : ToggleChart η) : c.rebind.mode = c.mode := by
  rw [rebind]
  split <;> rfl

@[simp] theorem handle_rebind (c : ToggleChart η) : c.rebind.handle = c.handle := by
  rw [rebind]
  split <;> rfl

/-- Unbinds the control and puts it out of sight. -/
def hideControl (c : ToggleChart η) : ToggleChart η :=
  { c with control := c.control.map Button.hide, handler := none }

@[simp] theorem handler_hideControl (c : ToggleChart η) : c.hideControl.handler = none := rfl

/-- Writes the label on the control. -/
def relabel (c : ToggleChart η) : ToggleChart η :=
  { c with control := c.control.map fun b => { b with text := c.label } }

/-- Shows the control, says what it offers and binds it. -/
def offer (c : ToggleChart η) : ToggleChart η :=
  ({ c with control := c.control.map fun b => { b with visible := true } }
    : ToggleChart η).relabel.rebind

/-- Goes on to the other mode, control and all. -/
def advance (c : ToggleChart η) : ToggleChart η :=
  ({ c with mode := c.mode.flipped } : ToggleChart η).relabel.rebind

@[simp] theorem mode_advance (c : ToggleChart η) : c.advance.mode = c.mode.flipped := by
  rw [advance, mode_rebind]
  rfl

@[simp] theorem handle_advance (c : ToggleChart η) : c.advance.handle = c.handle := by
  rw [advance, handle_rebind]
  rfl

/-- Puts a dataset on show. With an empty dataset nothing is drawn. The control
is hidden unless there is more to show. When drawing fails there is no chart,
and the control is as it was. -/
def mount (B : Backend σ η) (renderer : Renderer) (dataset : Dataset) (container : String)
    (control : Option Button) (options : MountOptions) (s : σ) :
    Except RenderError (ToggleChart η) × σ × List Notice :=
  let c : ToggleChart η := { renderer, dataset, container, control, options }
  if dataset.isEmpty then (.ok c.hideControl, s, [.nothingToRender container])
  else
    match c.draw B s with
    | (.error e, s, notices) => (.error e, s, notices)
    | (.ok c, s, notices) => (.ok (if c.isExpandable then c.offer else c.hideControl), s, notices)

/-- What a click comes to: whether it was taken, and everything as it is
afterwards. -/
structure Clicked (σ : Type u) (η : Type v) where
  result : Except RenderError Bool
  chart : ToggleChart η
  event : ClickEvent
  state : σ
  notices : List Notice

/-- Delivers a click to a handler. It is taken only if the handler is the one
that is bound. -/
def click (B : Backend σ η) (c : ToggleChart η) (handler : HandlerId) (event : ClickEvent) (s : σ) :
    Clicked σ η :=
  if c.handler ≠ some handler then
    ⟨.ok false, c, event, s, [.staleClick c.container handler]⟩
  else
    let event := event.prevent
    match c.release B s with
    | (.error e, s) => ⟨.error e, c, event, s, []⟩
    | (.ok c, s) =>
        let c := c.advance
        match c.draw B s with
        | (.error e, s, notices) => ⟨.error e, c, event, s, notices⟩
        | (.ok c, s, notices) =>
            ⟨.ok true, c, event, s, notices ++ [.switched c.container c.mode c.view.length]⟩

/-- Clicks the control the way a user would. Nothing happens when there is none,
or when it is hidden or not bound. -/
def activate (B : Backend σ η) (c : ToggleChart η) (s : σ) : Clicked σ η :=
  match c.control.bind Button.clickTarget with
  | none => ⟨.ok false, c, {}, s, []⟩
  | some handler => c.click B handler {} s

/-- Takes the chart off show and gives back the control. -/
def unmount (B : Backend σ η) (c : ToggleChart η) (s : σ) :
    Except RenderError (Option Button) × σ :=
  match c.release B s with
  | (.error e, s) => (.error e, s)
  | (.ok c, s) => (.ok (c.control.map (·.bind none)), s)

end ToggleChart

end RankedBars
