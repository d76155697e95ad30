import Mathlib.Logic.Relation
import RankedBars.Toggle.Chart

/-!
# Runs of a toggle chart

A chart is mounted and then serves requests: clicks, for the handler that is
bound or for any other, and activations of its control. `Mounting.run` is
such a run over a backend, and since a backend is two functions on a state
of any kind, a run over an arbitrary backend is one in which every call may
succeed or fail as it likes.

A click is the only request that does anything, and `click_cases` says what
it can come to. What the rest of the theory uses is coarser: every operation
is a chain of `Move`s, each of which either calls the backend once or goes
on to the other mode, and a chart asks for a chart or changes its mode only
while it has none. A property that no move breaks therefore holds all along
every run, whatever the backend does, and the moves are five.
-/

namespace RankedBars

variable {σ : Type u} {η : Type v}

namespace ToggleChart

/-- What can be asked of a mounted chart, as often as one likes. -/
inductive Request
  | click (handler : HandlerId) (event : ClickEvent)
  | activate

/-- The handler that a request is delivered to. An activation goes where the
control sends it. -/
def Request.handler? (r : Request) (c : ToggleChart η) : Option HandlerId :=
  match r with
  | .click handler _ => some handler
  | .activate => c.control.bind Button.clickTarget

/-- The event that a request comes with. -/
def Request.event : Request → ClickEvent
  | .click _ event => event
  | .activate => {}

def serve (B : Backend σ η) (c : ToggleChart η) (s : σ) : Request → Clicked σ η
  | .click handler event => c.click B handler event s
  | .activate => c.activate B s

/-- Serves requests in turn. -/
def serveAll (B : Backend σ η) (c : ToggleChart η) (s : σ) :
    List Request → ToggleChart η × σ
  | [] => (c, s)
  | r :: rest =>
      let d := c.serve B s r
      d.chart.serveAll B d.state rest

/-- A request that goes nowhere or to the wrong handler: it is answered with
no and leaves everything as it was, its own event too. -/
structure Ignores (B : Backend σ η) (c : ToggleChart η) (s : σ) (r : Request) :
    Prop where
  result : (c.serve B s r).result = .ok false
  chart : (c.serve B s r).chart = c
  state : (c.serve B s r).state = s
  event : (c.serve B s r).event = r.event

end ToggleChart

/-- What a chart is mounted with. -/
structure Mounting where
  renderer : Renderer
  dataset : Dataset
  container : String
  control : Option Button
  options : MountOptions

namespace Mounting

/-- Three points of which the control hides two. -/
def threePoints : Mounting where
  renderer := {}
  dataset := [⟨"fedora", .ofInt 1⟩, ⟨"epel", .ofInt 3⟩, ⟨"custom", .ofInt 2⟩]
  container := "chroots"
  control := some {}
  options := { limit := 1 }

/-- The chart as it is before anything was drawn. -/
def blank (m : Mounting) : ToggleChart η where
  renderer := m.renderer
  dataset := m.dataset
  container := m.container
  control := m.control
  options := m.options

def mount (B : Backend σ η) (m : Mounting) (s : σ) :
    Except RenderError (ToggleChart η) × σ × List Notice :=
  ToggleChart.mount B m.renderer m.dataset m.container m.control m.options s

/-- Mounts a chart and has it serve requests. There is no chart in the end if
it could not be mounted. -/
def run (B : Backend σ η) (m : Mounting) (requests : List ToggleChart.Request)
    (s : σ) : Option (ToggleChart η) × σ :=
  match m.mount B s with
  | (.error _, s, _) => (none, s)
  | (.ok c, s, _) =>
      let (c, s) := c.serveAll B s requests
      (some c, s)

end Mounting

namespace ToggleChart

/-! ## What each operation can come to

The two calls of a backend that can fail are in `release` and in `draw`, and
each has a lemma that says which call was made and how it ended. -/

theorem release_cases (B : Backend σ η) (c : ToggleChart η) (s : σ) :
    (c.handle = none ∧ c.release B s = (.ok c, s)) ∨
    (∃ handle s', c.handle = some handle ∧ B.destroy handle s = (.ok (), s') ∧
      c.release B s = (.ok { c with handle := none }, s')) ∨
    (∃ handle e s', c.handle = some handle ∧
      B.destroy handle s = (.error e, s') ∧ c.release B s = (.error e, s')) := by
  cases hc : c.handle with
  | none => exact .inl ⟨rfl, release_of_handle_eq_none B hc s⟩
  | some handle =>
      rcases hd : B.destroy handle s with ⟨_ | _, s'⟩
      · exact .inr (.inr ⟨handle, _, s', rfl, hd, by simp only [release, hc, hd]⟩)
      · exact .inr (.inl ⟨handle, s', rfl, hd, by simp only [release, hc, hd]⟩)

theorem draw_cases (B : Backend σ η) (c : ToggleChart η) (s : σ) :
    (∃ handle s' notices, B.generate c.config s = (.ok handle, s') ∧
      c.draw B s = (.ok { c with handle := some handle }, s', notices)) ∨
    (∃ e s' notices, B.generate c.config s = (.error e, s') ∧
      c.draw B s = (.error e, s', notices)) := by
  rcases hg : B.generate c.config s with ⟨e | handle, s'⟩
  · refine .inr ⟨e, s', (c.draw B s).2.2, rfl, ?_⟩
    rw [config] at hg
    simp only [draw, Renderer.render, hg]
  · refine .inl ⟨handle, s', (c.draw B s).2.2, rfl, ?_⟩
    rw [config] at hg
    simp only [draw, Renderer.render, hg]

/-- A click is stale, or cut short because the chart could not be destroyed,
or cut short because the new one could not be drawn, or it goes through. -/
theorem click_cases (B : Backend σ η) (c : ToggleChart η) (handler : HandlerId)
    (event : ClickEvent) (s : σ) :
    (c.handler ≠ some handler ∧ c.click B handler event s
      = ⟨.ok false, c, event, s, [.staleClick c.container handler]⟩) ∨
    (c.handler = some handler ∧ ∃ e s', c.release B s = (.error e, s') ∧
      c.click B handler event s = ⟨.error e, c, event.prevent, s', []⟩) ∨
    (c.handler = some handler ∧ ∃ c₁ s₁ e s' notices,
      c.release B s = (.ok c₁, s₁) ∧ c₁.advance.draw B s₁ = (.error e, s', notices) ∧
      c.click B handler event s = ⟨.error e, c₁.advance, event.prevent, s', notices⟩) ∨
    (c.handler = some handler ∧ ∃ c₁ s₁ c' s' notices,
      c.release B s = (.ok c₁, s₁) ∧ c₁.advance.draw B s₁ = (.ok c', s', notices) ∧
      c.click B handler event s = ⟨.ok true, c', event.prevent, s',
        notices ++ [.switched c'.container c'.mode c'.view.length]⟩) := by
  by_cases hh : c.handler = some handler
  · right
    rcases hr : c.release B s with ⟨e | c₁, s₁⟩
    · refine .inl ⟨hh, e, s₁, rfl, ?_⟩
      simp only [click, hh, hr, ne_eq, not_true_eq_false, if_false]
    · right
      rcases hd : c₁.advance.draw B s₁ with ⟨e | c', s', notices⟩
      · refine .inl ⟨hh, c₁, s₁, e, s', notices, rfl, hd, ?_⟩
        simp only [click, hh, hr, hd, ne_eq, not_true_eq_false, if_false]
      · refine .inr ⟨hh, c₁, s₁, c', s', notices, rfl, hd, ?_⟩
        simp only [click, hh, hr, hd, ne_eq, not_true_eq_false, if_false]
  · exact .inl ⟨hh, by rw [click, if_pos hh]⟩

/-! ## Moves

What a chart does while it is mounted, serves and is unmounted, cut into
pieces so small that each calls the backend at most once. The side condition
on three of them is what keeps a container from ever holding two charts. -/

/-- One thing that a chart does. -/
inductive Move (B : Backend σ η) :
    ToggleChart η × σ → ToggleChart η × σ → Prop
  | destroyed {c : ToggleChart η} {handle : η} {s s' : σ}
      (held : c.handle = some handle) (call : B.destroy handle s = (.ok (), s')) :
      Move B (c, s) ({ c with handle := none }, s')
  | kept {c : ToggleChart η} {handle : η} {e : RenderError} {s s' : σ}
      (held : c.handle = some handle)
      (call : B.destroy handle s = (.error e, s')) : Move B (c, s) (c, s')
  | advanced {c : ToggleChart η} {s : σ} (free : c.handle = none) :
      Move B (c, s) (c.advance, s)
  | generated {c : ToggleChart η} {handle : η} {s s' : σ}
      (free : c.handle = none)
      (call : B.generate c.config s = (.ok handle, s')) :
      Move B (c, s) ({ c with handle := some handle }, s')
  | refused {c : ToggleChart η} {e : RenderError} {s s' : σ}
      (free : c.handle = none)
      (call : B.generate c.config s = (.error e, s')) : Move B (c, s) (c, s')

/-- Any number of moves. -/
abbrev Moves (B : Backend σ η) : ToggleChart η × σ → ToggleChart η × σ → Prop :=
  Relation.ReflTransGen (Move B)

/-- What no move breaks holds all along a chain of them. -/
theorem Moves.preserve {B : Backend σ η} {P : ToggleChart η × σ → Prop}
    (step : ∀ {p q}, Move B p q → P p → P q) {p q : ToggleChart η × σ}
    (h : Moves B p q) (hp : P p) : P q := by
  induction h with
  | refl => exact hp
  | tail _ hmove ih => exact step hmove ih

variable {B : Backend σ η} {c c' : ToggleChart η} {s s' : σ}

theorem release_ok (h : c.release B s = (.ok c', s')) :
    c' = { c with handle := none } ∧ Moves B (c, s) (c', s') := by
  rcases release_cases B c s with ⟨hc, heq⟩ | ⟨handle, s₁, hc, hd, heq⟩ |
    ⟨handle, e, s₁, hc, hd, heq⟩
  · cases heq.symm.trans h
    refine ⟨?_, .refl⟩
    rw [← hc]
  · cases heq.symm.trans h
    exact ⟨rfl, .single (.destroyed hc hd)⟩
  · cases heq.symm.trans h

theorem release_error {e : RenderError} (h : c.release B s = (.error e, s')) :
    Moves B (c, s) (c, s') := by
  rcases release_cases B c s with ⟨hc, heq⟩ | ⟨handle, s₁, hc, hd, heq⟩ |
    ⟨handle, e, s₁, hc, hd, heq⟩
  · cases heq.symm.trans h
  · cases heq.symm.trans h
  · cases heq.symm.trans h
    exact .single (.kept hc hd)

theorem draw_ok {notices : List Notice} (free : c.handle = none)
    (h : c.draw B s = (.ok c', s', notices)) :
    (∃ handle, c' = { c with handle := some handle }) ∧ Moves B (c, s) (c', s') := by
  rcases draw_cases B c s with ⟨handle, s₁, n, hg, heq⟩ | ⟨e, s₁, n, hg, heq⟩
  · cases heq.symm.trans h
    exact ⟨⟨handle, rfl⟩, .single (.generated free hg)⟩
  · cases heq.symm.trans h

theorem draw_error {e : RenderError} {notices : List Notice}
    (free : c.handle = none) (h : c.draw B s = (.error e, s', notices)) :
    B.generate c.config s = (.error e, s') ∧ Moves B (c, s) (c, s') := by
  rcases draw_cases B c s with ⟨handle, s₁, n, hg, heq⟩ | ⟨e, s₁, n, hg, heq⟩
  · cases heq.symm.trans h
  · cases heq.symm.trans h
    exact ⟨hg, .single (.refused free hg)⟩

/-- A chart that gave up what it had is free to go on. -/
theorem handle_advance_of_release_ok (h : c.release B s = (.ok c', s')) :
    c'.advance.handle = none := by
  rw [handle_advance, (release_ok h).1]

theorem moves_click (B : Backend σ η) (c : ToggleChart η) (handler : HandlerId)
    (event : ClickEvent) (s : σ) :
    Moves B (c, s)
      ((c.click B handler event s).chart, (c.click B handler event s).state) := by
  have past : ∀ {c₁ s₁}, c.release B s = (.ok c₁, s₁) →
      Moves B (c, s) (c₁.advance, s₁) := fun {c₁ s₁} hr =>
    (release_ok hr).2.tail (.advanced (by rw [(release_ok hr).1]))
  rcases click_cases B c handler event s with ⟨-, heq⟩ | ⟨-, e, s', hr, heq⟩ |
    ⟨-, c₁, s₁, e, s', n, hr, hd, heq⟩ | ⟨-, c₁, s₁, c', s', n, hr, hd, heq⟩
  · rw [heq]
  · rw [heq]
    exact release_error hr
  · rw [heq]
    exact (past hr).trans (draw_error (handle_advance_of_release_ok hr) hd).2
  · rw [heq]
    exact (past hr).trans (draw_ok (handle_advance_of_release_ok hr) hd).2

/-- A request is a click on the handler that it reaches, or nothing. -/
theorem serve_eq (B : Backend σ η) (c : ToggleChart η) (s : σ) (r : Request) :
    c.serve B s r = match r.handler? c with
      | none => ⟨.ok false, c, r.event, s, []⟩
      | some handler => c.click B handler r.event s := by
  cases r with
  | click handler event => rfl
  | activate => rfl

/-- A request for a handler that is not bound is ignored. -/
theorem ignores_of_handler_ne (B : Backend σ η) (s : σ) {r : Request}
    (h : ∀ handler, r.handler? c = some handler → c.handler ≠ some handler) :
    c.Ignores B s r := by
  have heq : ∃ notices, c.serve B s r = ⟨.ok false, c, r.event, s, notices⟩ := by
    rw [serve_eq]
    cases hr : r.handler? c with
    | none => exact ⟨_, rfl⟩
    | some handler => exact ⟨_, if_pos (h handler hr)⟩
  obtain ⟨notices, heq⟩ := heq
  exact ⟨by rw [heq], by rw [heq], by rw [heq], by rw [heq]⟩

theorem ignores_of_handler_eq_none (B : Backend σ η) (s : σ) (r : Request)
    (h : c.handler = none) : c.Ignores B s r :=
  ignores_of_handler_ne B s fun _ _ => by rw [h]; exact nofun

theorem serveAll_of_handler_eq_none (B : Backend σ η) (s : σ)
    (requests : List Request) (h : c.handler = none) :
    c.serveAll B s requests = (c, s) := by
  induction requests with
  | nil => rfl
  | cons r rest ih =>
      have hr := ignores_of_handler_eq_none B s r h
      rw [serveAll, hr.chart, hr.state]
      exact ih

theorem moves_serve (B : Backend σ η) (c : ToggleChart η) (s : σ) (r : Request) :
    Moves B (c, s) ((c.serve B s r).chart, (c.serve B s r).state) := by
  rw [serve_eq]
  split
  · exact .refl
  · exact moves_click ..

theorem moves_serveAll (B : Backend σ η) (c : ToggleChart η) (s : σ)
    (requests : List Request) : Moves B (c, s) (c.serveAll B s requests) := by
  induction requests generalizing c s with
  | nil => exact .refl
  | cons r rest ih => exact (moves_serve B c s r).trans (ih ..)

/-- Unmounting moves a chart on to one that has no handle left, unless it
fails. -/
theorem moves_unmount (B : Backend σ η) (c : ToggleChart η) (s : σ) :
    ∃ c', Moves B (c, s) (c', (c.unmount B s).2) ∧
      ((c.unmount B s).1.isOk → c'.handle = none) := by
  rw [unmount]
  rcases hr : c.release B s with ⟨e | c₁, s₁⟩
  · exact ⟨c, release_error hr, fun h => nomatch h⟩
  · exact ⟨c₁, (release_ok hr).2, fun _ => by rw [(release_ok hr).1]⟩

/-! ## The control

Binding, showing and hiding the control leaves the rest of a chart alone. -/

theorem rebind_eq (c : ToggleChart η) : ∃ control handler nextHandler,
    c.rebind = { c with control, handler, nextHandler } := by
  rw [rebind]
  split
  · exact ⟨_, _, _, rfl⟩
  · exact ⟨_, _, _, rfl⟩

theorem advance_eq (c : ToggleChart η) : ∃ control handler nextHandler,
    c.advance = { c with mode := c.mode.flipped, control, handler, nextHandler } := by
  obtain ⟨control, handler, nextHandler, h⟩ :=
    rebind_eq ({ c with mode := c.mode.flipped } : ToggleChart η).relabel
  exact ⟨control, handler, nextHandler, h⟩

theorem offer_of_control_eq_some {c : ToggleChart η} {b : Button}
    (h : c.control = some b) :
    c.offer = { c with
      control := some (({ b with visible := true, text := c.label } : Button).bind
        (some c.nextHandler))
      handler := some c.nextHandler
      nextHandler := c.nextHandler.next } := by
  obtain ⟨r, d, n, control, o, mode, handle, handler, next⟩ := c
  cases h
  rfl

theorem offer_of_control_eq_none {c : ToggleChart η} (h : c.control = none) :
    c.offer = c := by
  obtain ⟨r, d, n, control, o, mode, handle, handler, next⟩ := c
  cases h
  rfl

theorem advance_of_control_eq_some {c : ToggleChart η} {b : Button}
    (h : c.control = some b) :
    c.advance = { c with
      mode := c.mode.flipped
      control := some (({ b with
        text := c.options.labels.labelFor c.mode.flipped c.options.limit } :
          Button).bind (some c.nextHandler))
      handler := some c.nextHandler
      nextHandler := c.nextHandler.next } := by
  obtain ⟨r, d, n, control, o, mode, handle, handler, next⟩ := c
  cases h
  rfl

theorem isExpandable_iff {c : ToggleChart η} :
    c.isExpandable = true ↔ max c.options.limit 0 < c.dataset.length := by
  rw [isExpandable, decide_eq_true_eq, Dataset.visibleCount]
  omega

/-- The chart once it was drawn, with a control that offers the rest of the
dataset if there is any. -/
def dressed (c : ToggleChart η) : ToggleChart η :=
  if c.isExpandable then c.offer else c.hideControl

theorem dressed_eq (c : ToggleChart η) : ∃ control handler nextHandler,
    c.dressed = { c with control, handler, nextHandler } := by
  rw [dressed]
  split
  · obtain ⟨control, handler, nextHandler, h⟩ := rebind_eq
      ({ c with control := c.control.map fun b => { b with visible := true } } :
        ToggleChart η).relabel
    exact ⟨control, handler, nextHandler, h⟩
  · exact ⟨_, _, _, rfl⟩

@[simp] theorem handle_dressed (c : ToggleChart η) : c.dressed.handle = c.handle := by
  obtain ⟨_, _, _, h⟩ := dressed_eq c
  rw [h]

@[simp] theorem config_dressed (c : ToggleChart η) : c.dressed.config = c.config := by
  obtain ⟨_, _, _, h⟩ := dressed_eq c
  rw [h]
  rfl

end ToggleChart

namespace Mounting

open ToggleChart

/-- Mounting draws unless the dataset is empty, and what it mounts is what it
drew. -/
theorem mount_cases (B : Backend σ η) (m : Mounting) (s : σ) :
    (m.dataset = [] ∧ m.mount B s = (.ok (m.blank : ToggleChart η).hideControl, s,
      [.nothingToRender m.container])) ∨
    (m.dataset ≠ [] ∧ ∃ c s' notices,
      (m.blank : ToggleChart η).draw B s = (.ok c, s', notices) ∧
      m.mount B s = (.ok c.dressed, s', notices)) ∨
    (m.dataset ≠ [] ∧ ∃ e s' notices,
      (m.blank : ToggleChart η).draw B s = (.error e, s', notices) ∧
      m.mount B s = (.error e, s', notices)) := by
  by_cases hd : m.dataset = []
  · refine .inl ⟨hd, ?_⟩
    rw [mount, ToggleChart.mount, if_pos (List.isEmpty_iff.mpr hd)]
    rfl
  · have hne : ¬ m.dataset.isEmpty = true := fun h => hd (List.isEmpty_iff.mp h)
    right
    rcases hdraw : (m.blank : ToggleChart η).draw B s with ⟨e | c, s', notices⟩
    · refine .inr ⟨hd, e, s', notices, rfl, ?_⟩
      rw [blank] at hdraw
      simp only [mount, ToggleChart.mount, if_neg hne, hdraw]
    · refine .inl ⟨hd, c, s', notices, rfl, ?_⟩
      rw [blank] at hdraw
      simp only [mount, ToggleChart.mount, if_neg hne, hdraw, dressed]

/-- The chart as it is before its control is seen to, with the handle of what
was drawn. -/
def holding (m : Mounting) (handle : Option η) : ToggleChart η :=
  { (m.blank : ToggleChart η) with handle := handle }

/-- What is mounted is what was drawn, with its control seen to. Only an empty
dataset is mounted without a chart. -/
theorem mount_ok {B : Backend σ η} {m : Mounting} {s s' : σ} {c : ToggleChart η}
    {notices : List Notice} (h : m.mount B s = (.ok c, s', notices)) :
    ∃ handle, c = (m.holding handle).dressed ∧
      Moves B (m.blank, s) (m.holding handle, s') ∧
      (handle = none → m.dataset = []) := by
  rcases mount_cases B m s with ⟨hd, heq⟩ | ⟨-, c₁, s₁, n, hdraw, heq⟩ |
    ⟨-, e, s₁, n, hdraw, heq⟩
  · cases heq.symm.trans h
    refine ⟨none, ?_, .refl, fun _ => hd⟩
    rw [dressed, if_neg]
    · rfl
    · rw [isExpandable_iff]
      show ¬ max m.options.limit 0 < m.dataset.length
      rw [hd, List.length_nil]
      omega
  · cases heq.symm.trans h
    obtain ⟨⟨handle, rfl⟩, hmoves⟩ := draw_ok rfl hdraw
    exact ⟨some handle, rfl, hmoves, nofun⟩
  · cases heq.symm.trans h

theorem mount_error {B : Backend σ η} {m : Mounting} {s s' : σ} {e : RenderError}
    {notices : List Notice} (h : m.mount B s = (.error e, s', notices)) :
    Moves B (m.blank, s) (m.blank, s') := by
  rcases mount_cases B m s with ⟨-, heq⟩ | ⟨-, c₁, s₁, n, hdraw, heq⟩ |
    ⟨-, e₁, s₁, n, hdraw, heq⟩
  · cases heq.symm.trans h
  · cases heq.symm.trans h
  · cases heq.symm.trans h
    exact (draw_error rfl hdraw).2

theorem run_eq_some {B : Backend σ η} {m : Mounting} {requests : List Request}
    {s s' : σ} {c : ToggleChart η} (h : m.run B requests s = (some c, s')) :
    ∃ c₀ s₀ notices, m.mount B s = (.ok c₀, s₀, notices) ∧
      c₀.serveAll B s₀ requests = (c, s') := by
  rw [run] at h
  rcases hm : m.mount B s with ⟨e | c₀, s₀, notices⟩
  · rw [hm] at h
    cases h
  · rw [hm] at h
    refine ⟨c₀, s₀, notices, rfl, ?_⟩
    cases h
    rfl

theorem run_eq_none {B : Backend σ η} {m : Mounting} {requests : List Request}
    {s s' : σ} (h : m.run B requests s = (none, s')) :
    ∃ e notices, m.mount B s = (.error e, s', notices) := by
  rw [run] at h
  rcases hm : m.mount B s with ⟨e | c₀, s₀, notices⟩
  · rw [hm] at h
    cases h
    exact ⟨e, notices, rfl⟩
  · rw [hm] at h
    cases h

/-- A run is two chains of moves, with the control seen to in between. -/
theorem moves_of_run {B : Backend σ η} {m : Mounting} {requests : List Request}
    {s s' : σ} {c : ToggleChart η} (h : m.run B requests s = (some c, s')) :
    ∃ handle s₀, Moves B (m.blank, s) (m.holding handle, s₀) ∧
      Moves B ((m.holding handle).dressed, s₀) (c, s') := by
  obtain ⟨c₀, s₀, notices, hmount, hserve⟩ := run_eq_some h
  obtain ⟨handle, rfl, hmounted, -⟩ := mount_ok hmount
  refine ⟨handle, s₀, hmounted, ?_⟩
  rw [← hserve]
  exact moves_serveAll ..

/-- With an empty dataset nothing happens, whatever is asked. -/
theorem run_of_dataset_eq_nil (B : Backend σ η) {m : Mounting}
    (requests : List Request) (s : σ) (h : m.dataset = []) :
    m.run B requests s = (some (m.blank : ToggleChart η).hideControl, s) := by
  rcases mount_cases B m s with ⟨-, heq⟩ | ⟨hne, -⟩ | ⟨hne, -⟩
  · simp only [run, heq]
    rw [serveAll_of_handler_eq_none B s requests (handler_hideControl _)]
  · exact absurd h hne
  · exact absurd h hne

/-- A chart that shows what was mounted. -/
structure Fits (m : Mounting) (c : ToggleChart η) : Prop where
  renderer : c.renderer = m.renderer
  dataset : c.dataset = m.dataset
  container : c.container = m.container
  options : c.options = m.options

namespace Fits

variable {B : Backend σ η} {m : Mounting} {c : ToggleChart η}

theorem blank : m.Fits (m.blank : ToggleChart η) := ⟨rfl, rfl, rfl, rfl⟩

theorem dressed (h : m.Fits c) : m.Fits c.dressed := by
  obtain ⟨_, _, _, heq⟩ := dressed_eq c
  rw [heq]
  exact ⟨h.renderer, h.dataset, h.container, h.options⟩

theorem move {p q : ToggleChart η × σ} (hmove : Move B p q) (h : m.Fits p.1) :
    m.Fits q.1 := by
  cases hmove with
  | destroyed | generated =>
      exact ⟨h.renderer, h.dataset, h.container, h.options⟩
  | kept | refused => exact h
  | advanced =>
      obtain ⟨_, _, _, heq⟩ := advance_eq _
      rw [heq]
      exact ⟨h.renderer, h.dataset, h.container, h.options⟩

theorem view (h : m.Fits c) :
    c.view = m.dataset.view m.options.limit c.mode.showsAll := by
  rw [ToggleChart.view, h.dataset, h.options]

theorem config (h : m.Fits c) :
    c.config = m.renderer.config c.view m.container m.options.paddingLeft := by
  rw [ToggleChart.config, h.renderer, h.container, h.options]

theorem moves {p q : ToggleChart η × σ} (hmoves : Moves B p q) (h : m.Fits p.1) :
    m.Fits q.1 :=
  hmoves.preserve (P := fun p => m.Fits p.1) Fits.move h

theorem of_run {requests : List Request} {s s' : σ}
    (h : m.run B requests s = (some c, s')) : m.Fits c := by
  obtain ⟨handle, s₀, hmounted, hserved⟩ := moves_of_run h
  exact moves hserved (moves hmounted blank).dressed

end Fits

end Mounting

end RankedBars
