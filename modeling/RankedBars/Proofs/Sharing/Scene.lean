import Mathlib.Logic.Function.Basic
import RankedBars.Proofs.Backend.Projection

/-!
# Scenes over a shared backend

A scene is what a program has that lets several parts draw with one backend:
handles of charts that were asked for directly, and toggle charts, each
under a number. Its steps are all that such a program can do, in any order.
The handle of a toggle chart is its own and no step reaches into it; a
handle that was given out directly may be destroyed as often as one likes,
also when its container has long been given to another chart.

What keeps the parts from harming each other is ownership. `Owned` says of a
scene over a recorded backend that the chart of a toggle chart is live, was
accepted with its current configuration, and is in nobody else's hands. No
step breaks that, whatever the backend does, because a step hands to the
backend only a configuration or a handle that is the actor's own.

A backend that has an invariant of its own brings it along: `Stable` is what
has to be shown for it, two calls and no toggle chart.
-/

namespace RankedBars

open ToggleChart

variable {σ : Type u} {η : Type v} {σ' : Type w} {η' : Type x}

/-- A backend in use: its state, the handles that were given out directly,
and the toggle charts. -/
structure Scene (σ : Type u) (η : Type v) where
  state : σ
  handles : List η := []
  charts : Nat → Option (ToggleChart η) := fun _ => none

namespace Scene

/-- What can be done in a scene. -/
inductive Step
  | generate (config : ChartConfig)
  | render (renderer : Renderer) (view : Dataset) (container : String)
      (paddingLeft : Option UInt32)
  | destroy (index : Nat)
  | mount (id : Nat) (m : Mounting)
  | request (id : Nat) (r : Request)
  | unmount (id : Nat)
  | drop (id : Nat)

/-- The scene with a toggle chart that has just done something. -/
def withChart (p : Scene σ η) (id : Nat) (c : ToggleChart η) (s : σ) : Scene σ η :=
  { p with state := s, charts := Function.update p.charts id (some c) }

/-- The scene without a toggle chart. Nothing is done about what it shows. -/
def dropChart (p : Scene σ η) (id : Nat) : Scene σ η :=
  { p with charts := Function.update p.charts id none }

/-- The scene after a chart was asked for directly. -/
def gotHandle (p : Scene σ η) : Except RenderError η × σ → Scene σ η
  | (.ok handle, s) => { p with state := s, handles := p.handles ++ [handle] }
  | (.error _, s) => { p with state := s }

theorem withChart_self {p : Scene σ η} {id : Nat} {c : ToggleChart η}
    (h : p.charts id = some c) : p.withChart id c p.state = p := by
  rw [withChart, ← h, Function.update_eq_self]

theorem dropChart_withChart (p : Scene σ η) (id : Nat) (c : ToggleChart η) (s : σ) :
    (p.withChart id c s).dropChart id = { p.dropChart id with state := s } := by
  simp only [dropChart, withChart, Function.update_idem]

def step (B : Backend σ η) (p : Scene σ η) : Step → Scene σ η
  | .generate config => p.gotHandle (B.generate config p.state)
  | .render renderer view container paddingLeft =>
      let (result, s, _) := renderer.render B view container paddingLeft p.state
      p.gotHandle (result, s)
  | .destroy index =>
      match p.handles[index]? with
      | none => p
      | some handle => { p with state := (B.destroy handle p.state).2 }
  | .mount id m =>
      match m.mount B p.state with
      | (.ok c, s, _) => p.withChart id c s
      | (.error _, s, _) => { p.dropChart id with state := s }
  | .request id r =>
      match p.charts id with
      | none => p
      | some c => p.withChart id (c.serve B p.state r).chart (c.serve B p.state r).state
  | .unmount id =>
      match p.charts id with
      | none => p
      | some c => { p.dropChart id with state := (c.unmount B p.state).2 }
  | .drop id => p.dropChart id

def run (B : Backend σ η) (p : Scene σ η) (steps : List Step) : Scene σ η :=
  steps.foldl (step B) p

/-- Rendering directly is generating directly. -/
theorem render_eq (B : Backend σ η) (p : Scene σ η) (renderer : Renderer)
    (view : Dataset) (container : String) (paddingLeft : Option UInt32) :
    p.step B (.render renderer view container paddingLeft)
      = p.step B (.generate (renderer.config view container paddingLeft)) := by
  rcases hg : B.generate (renderer.config view container paddingLeft) p.state
    with ⟨e | handle, s⟩
  · simp only [step, Renderer.render, hg]
  · simp only [step, Renderer.render, hg]

/-! ## Projections -/

/-- The scene with its state and its handles seen through functions. -/
def project (f : σ' → σ) (g : η' → η) (p : Scene σ' η') : Scene σ η where
  state := f p.state
  handles := p.handles.map g
  charts := Option.map (mapHandle g) ∘ p.charts

@[simp] theorem state_project (f : σ' → σ) (g : η' → η) (p : Scene σ' η') :
    (p.project f g).state = f p.state := rfl

@[simp] theorem charts_project (f : σ' → σ) (g : η' → η) (p : Scene σ' η') (id : Nat) :
    (p.project f g).charts id = (p.charts id).map (mapHandle g) := rfl

theorem project_withChart (f : σ' → σ) (g : η' → η) (p : Scene σ' η') (id : Nat)
    (c : ToggleChart η') (s : σ') :
    (p.withChart id c s).project f g
      = (p.project f g).withChart id (c.mapHandle g) (f s) := by
  simp only [withChart, project, Function.comp_update, Option.map_some]

theorem project_dropChart (f : σ' → σ) (g : η' → η) (p : Scene σ' η') (id : Nat) :
    (p.dropChart id).project f g = (p.project f g).dropChart id := by
  simp only [dropChart, project, Function.comp_update, Option.map_none]

theorem project_gotHandle (f : σ' → σ) (g : η' → η) (p : Scene σ' η')
    (result : Except RenderError η' × σ') :
    (p.gotHandle result).project f g
      = (p.project f g).gotHandle (result.1.map g, f result.2) := by
  rcases result with ⟨e | handle, s⟩
  · rfl
  · simp only [gotHandle, Except.map, project, List.map_append, List.map_cons,
      List.map_nil]

section

variable {B' : Backend σ' η'} {B : Backend σ η} {f : σ' → σ} {g : η' → η}

theorem step_project (h : B'.Projects B f g) (p : Scene σ' η') (st : Step) :
    (p.project f g).step B st = (p.step B' st).project f g := by
  have generate (config : ChartConfig) : (p.project f g).step B (.generate config)
      = (p.step B' (.generate config)).project f g := by
    rw [step, step, state_project, h.generate, project_gotHandle]
  cases st with
  | generate config => exact generate config
  | render renderer view container paddingLeft =>
      rw [render_eq, render_eq]
      exact generate _
  | destroy index =>
      have hget : (p.project f g).handles[index]? = p.handles[index]?.map g :=
        List.getElem?_map
      simp only [step, hget]
      cases p.handles[index]? with
      | none => rfl
      | some handle =>
          simp only [Option.map_some, state_project, h.destroy]
          rfl
  | mount id m =>
      simp only [step, state_project, Mounting.mount_map h]
      rcases m.mount B' p.state with ⟨e | c, s, notices⟩
      · simp only [Except.map, ← project_dropChart]
        rfl
      · simp only [Except.map, project_withChart]
  | request id r =>
      simp only [step, charts_project]
      cases p.charts id with
      | none => rfl
      | some c =>
          simp only [Option.map_some, state_project, serve_mapHandle h,
            project_withChart]
          rfl
  | unmount id =>
      simp only [step, charts_project]
      cases p.charts id with
      | none => rfl
      | some c =>
          simp only [Option.map_some, state_project, unmount_mapHandle h,
            ← project_dropChart]
          rfl
  | drop id => exact (project_dropChart f g p id).symm

theorem run_project (h : B'.Projects B f g) (p : Scene σ' η') (steps : List Step) :
    (p.project f g).run B steps = (p.run B' steps).project f g := by
  induction steps generalizing p with
  | nil => rfl
  | cons st rest ih =>
      rw [run, List.foldl_cons, step_project h]
      exact ih _

end

/-! ## Ownership -/

/-- A property of recorded states that no call breaks, as long as only charts
that were generated are destroyed. -/
structure Stable (B : Backend σ η) (I : σ × Journal η → Prop) : Prop where
  generate : ∀ config s, s.2.Numbered → I s → I (B.recorded.generate config s).2
  destroy : ∀ chart s, s.2.Numbered → I s → chart ∈ s.2.generated →
    I (B.recorded.destroy chart s).2

/-- A chart is the one of a toggle chart. -/
def Holds (p : Scene σ η) (id : Nat) (handle : η) : Prop :=
  ∃ c, p.charts id = some c ∧ c.handle = some handle

theorem holds_withChart {p : Scene σ η} {id other : Nat} {c : ToggleChart η} {s : σ}
    {handle : η} : (p.withChart id c s).Holds other handle ↔
      (other = id ∧ c.handle = some handle) ∨ (other ≠ id ∧ p.Holds other handle) := by
  rcases eq_or_ne other id with rfl | hne
  · simp [Holds, withChart]
  · simp [Holds, withChart, hne]

theorem holds_of_dropChart {p : Scene σ η} {id other : Nat} {handle : η}
    (h : (p.dropChart id).Holds other handle) : p.Holds other handle := by
  rcases eq_or_ne other id with rfl | hne
  · simp [Holds, dropChart] at h
  · simpa [Holds, dropChart, Function.update_of_ne hne] using h

/-- What every toggle chart holds is live and its alone, and was accepted
with the configuration that it has now. `I` is whatever else is known of the
state. -/
structure Owned (I : σ × Journal η → Prop)
    (p : Scene (σ × Journal η) (GeneratedChart η)) : Prop where
  state : I p.state
  numbered : p.state.2.Numbered
  known : ∀ chart ∈ p.handles, chart ∈ p.state.2.generated
  live : ∀ {id chart}, p.Holds id chart → chart ∈ p.state.2.live
  own : ∀ {id chart}, p.Holds id chart → chart ∉ p.handles
  apart : ∀ {id other chart}, p.Holds id chart → p.Holds other chart → id = other
  config : ∀ {id c chart}, p.charts id = some c → c.handle = some chart →
    chart.config = c.config

namespace Owned

variable {B : Backend σ η} {I : σ × Journal η → Prop}
  {p : Scene (σ × Journal η) (GeneratedChart η)} {id : Nat}
  {c c' : ToggleChart (GeneratedChart η)} {s s' : σ × Journal η}

theorem drop (h : Owned I p) (id : Nat) : Owned I (p.dropChart id) where
  state := h.state
  numbered := h.numbered
  known := h.known
  live hheld := h.live (holds_of_dropChart hheld)
  own hheld := h.own (holds_of_dropChart hheld)
  apart h₁ h₂ := h.apart (holds_of_dropChart h₁) (holds_of_dropChart h₂)
  config {other d chart} hd hchart := by
    rcases eq_or_ne other id with rfl | hne
    · simp [dropChart] at hd
    · exact h.config (by simpa [dropChart, Function.update_of_ne hne] using hd) hchart

/-- A toggle chart that does something harms nobody if what it leaves is as
live as before, apart from what it held itself, and if it ends up with what
it had or with something new. -/
theorem replace (h : Owned I (p.withChart id c s)) (hI : I s')
    (hnumbered : s'.2.Numbered)
    (hknown : ∀ chart ∈ s.2.generated, chart ∈ s'.2.generated)
    (hothers : ∀ chart ∈ s.2.live, c.handle ≠ some chart → chart ∈ s'.2.live)
    (hown : ∀ chart, c'.handle = some chart →
      (c.handle = some chart ∨ chart ∉ s.2.generated) ∧ chart ∈ s'.2.live ∧
        chart.config = c'.config) :
    Owned I (p.withChart id c' s') := by
  have before {other chart} (hne : other ≠ id) (hheld : p.Holds other chart) :
      (p.withChart id c s).Holds other chart := holds_withChart.mpr (.inr ⟨hne, hheld⟩)
  have mine {chart} (hc : c.handle = some chart) : (p.withChart id c s).Holds id chart :=
    holds_withChart.mpr (.inl ⟨rfl, hc⟩)
  have differs {other chart} (hne : other ≠ id) (hheld : p.Holds other chart) :
      c'.handle ≠ some chart := by
    intro hc'
    rcases (hown chart hc').1 with hc | hnew
    · exact hne (h.apart (before hne hheld) (mine hc))
    · exact hnew (Journal.mem_live.mp (h.live (before hne hheld))).1
  constructor
  case state => exact hI
  case numbered => exact hnumbered
  case known => exact fun chart hmem => hknown chart (h.known chart hmem)
  case live =>
    intro other chart hheld
    rcases holds_withChart.mp hheld with ⟨-, hc'⟩ | ⟨hne, hheld⟩
    · exact (hown _ hc').2.1
    · refine hothers _ (h.live (before hne hheld)) fun hc => hne ?_
      exact h.apart (before hne hheld) (mine hc)
  case own =>
    intro other chart hheld
    rcases holds_withChart.mp hheld with ⟨-, hc'⟩ | ⟨hne, hheld⟩
    · rcases (hown _ hc').1 with hc | hnew
      · exact h.own (mine hc)
      · exact fun hmem => hnew (h.known chart hmem)
    · exact h.own (before hne hheld)
  case apart =>
    intro one two chart h₁ h₂
    rcases holds_withChart.mp h₁ with ⟨rfl, hc₁⟩ | ⟨hne₁, hheld₁⟩
    · rcases holds_withChart.mp h₂ with ⟨rfl, -⟩ | ⟨hne₂, hheld₂⟩
      · rfl
      · exact absurd hc₁ (differs hne₂ hheld₂)
    · rcases holds_withChart.mp h₂ with ⟨rfl, hc₂⟩ | ⟨hne₂, hheld₂⟩
      · exact absurd hc₂ (differs hne₁ hheld₁)
      · exact h.apart (before hne₁ hheld₁) (before hne₂ hheld₂)
  case config =>
    intro other d chart hd hchart
    rcases eq_or_ne other id with rfl | hne
    · have hd : some c' = some d := by simpa [withChart] using hd
      cases hd
      exact (hown chart hchart).2.2
    · have hd : (p.withChart id c s).charts other = some d := by
        simpa [withChart, hne] using hd
      exact h.config hd hchart

/-- Whatever a toggle chart does, it does no harm. -/
theorem move (hI : Stable B I)
    {q r : ToggleChart (GeneratedChart η) × (σ × Journal η)}
    (hmove : Move B.recorded q r) (h : Owned I (p.withChart id q.1 q.2)) :
    Owned I (p.withChart id r.1 r.2) := by
  have held {chart} (hc : q.1.handle = some chart) : chart ∈ q.2.2.live :=
    h.live (holds_withChart.mpr (.inl ⟨rfl, hc⟩))
  cases hmove with
  | @destroyed c chart s s' hheld call =>
      have hmem := (Journal.mem_live.mp (held hheld)).1
      obtain rfl : (B.recorded.destroy chart s).2 = s' := by rw [call]
      refine h.replace (hI.destroy chart s h.numbered h.state hmem)
        (Backend.numbered_recorded_destroy h.numbered hmem) ?_ ?_ nofun
      · rw [Backend.generated_recorded_destroy]
        exact fun _ hother => hother
      · intro other hother hne
        refine Backend.mem_live_recorded_destroy h.numbered hmem hother ?_
        rintro rfl
        exact hne hheld
  | @kept c chart e s s' hheld call =>
      -- A destruction that fails takes nothing, not even what it was for.
      have hmem := (Journal.mem_live.mp (held hheld)).1
      have hlive : ∀ other ∈ s.2.live, other ∈ s'.2.live := by
        rw [(Backend.recorded_destroy_error call).2, Journal.live_kept]
        exact fun _ hother => hother
      obtain rfl : (B.recorded.destroy chart s).2 = s' := by rw [call]
      refine h.replace (hI.destroy chart s h.numbered h.state hmem)
        (Backend.numbered_recorded_destroy h.numbered hmem) ?_
        (fun other hother _ => hlive other hother) ?_
      · rw [Backend.generated_recorded_destroy]
        exact fun _ hother => hother
      · exact fun other hc => ⟨.inl hc, hlive other (held hc),
          h.config (Function.update_self ..) hc⟩
  | @advanced c s free =>
      refine h.replace h.state h.numbered (fun _ hother => hother)
        (fun _ hother _ => hother) fun other hc => ?_
      rw [handle_advance, free] at hc
      cases hc
  | @generated c chart s s' free call =>
      obtain ⟨hnew, hlive, hconfig⟩ := Backend.new_of_recorded_generate h.numbered call
      obtain rfl : (B.recorded.generate c.config s).2 = s' := by rw [call]
      refine h.replace (hI.generate c.config s h.numbered h.state)
        (Backend.numbered_recorded_generate h.numbered c.config)
        (fun other hother => Backend.mem_generated_recorded_generate hother c.config)
        (fun other hother _ =>
          Backend.mem_live_recorded_generate h.numbered hother c.config) ?_
      intro other hc
      cases hc
      exact ⟨.inr hnew, hlive, hconfig⟩
  | @refused c e s s' free call =>
      obtain rfl : (B.recorded.generate c.config s).2 = s' := by rw [call]
      refine h.replace (hI.generate c.config s h.numbered h.state)
        (Backend.numbered_recorded_generate h.numbered c.config)
        (fun other hother => Backend.mem_generated_recorded_generate hother c.config)
        (fun other hother _ =>
          Backend.mem_live_recorded_generate h.numbered hother c.config) ?_
      intro other hc
      rw [free] at hc
      cases hc

theorem moves (hI : Stable B I)
    {q r : ToggleChart (GeneratedChart η) × (σ × Journal η)}
    (hmoves : Moves B.recorded q r) (h : Owned I (p.withChart id q.1 q.2)) :
    Owned I (p.withChart id r.1 r.2) :=
  hmoves.preserve (P := fun q => Owned I (p.withChart id q.1 q.2)) (move hI) h

theorem same (h : Owned I (p.withChart id c s)) (hhandle : c'.handle = c.handle)
    (hconfig : c'.config = c.config) : Owned I (p.withChart id c' s) := by
  refine h.replace h.state h.numbered (fun _ hother => hother)
    (fun _ hother _ => hother) fun chart hc => ?_
  rw [hhandle] at hc
  rw [hconfig]
  exact ⟨.inl hc, h.live (holds_withChart.mpr (.inl ⟨rfl, hc⟩)),
    h.config (Function.update_self ..) hc⟩

/-- A chart that shows nothing yet may take any place. -/
theorem place (h : Owned I p) (free : c.handle = none) :
    Owned I (p.withChart id c p.state) := by
  have old {other chart} (hheld : (p.withChart id c p.state).Holds other chart) :
      p.Holds other chart := by
    rcases holds_withChart.mp hheld with ⟨-, hc⟩ | ⟨-, hheld⟩
    · rw [free] at hc
      cases hc
    · exact hheld
  constructor
  case state => exact h.state
  case numbered => exact h.numbered
  case known => exact h.known
  case live => exact fun hheld => h.live (old hheld)
  case own => exact fun hheld => h.own (old hheld)
  case apart => exact fun h₁ h₂ => h.apart (old h₁) (old h₂)
  case config =>
    intro other d chart hd hchart
    rcases eq_or_ne other id with rfl | hne
    · have hd : some c = some d := by simpa [withChart] using hd
      cases hd
      rw [free] at hchart
      cases hchart
    · have hd : p.charts other = some d := by simpa [withChart, hne] using hd
      exact h.config hd hchart

/-- What is done with the handles that were given out directly leaves the
toggle charts alone if it leaves them what they hold. -/
theorem direct (h : Owned I p) {handles : List (GeneratedChart η)} (hI : I s')
    (hnumbered : s'.2.Numbered)
    (hknown : ∀ chart ∈ handles, chart ∈ s'.2.generated)
    (hheld : ∀ {id chart}, p.Holds id chart → chart ∈ s'.2.live ∧ chart ∉ handles) :
    Owned I { p with state := s', handles } where
  state := hI
  numbered := hnumbered
  known := hknown
  live h' := (hheld h').1
  own h' := (hheld h').2
  apart h₁ h₂ := h.apart (p := p) h₁ h₂
  config := h.config (p := p)

theorem generate (hI : Stable B I) (h : Owned I p) (config : ChartConfig) :
    Owned I (p.step B.recorded (.generate config)) := by
  have hstate := hI.generate config p.state h.numbered h.state
  have hnumbered := Backend.numbered_recorded_generate (B := B) h.numbered config
  have hknown {chart} (hmem : chart ∈ p.handles) :=
    Backend.mem_generated_recorded_generate (B := B) (h.known chart hmem) config
  have hlive {id chart} (hheld : p.Holds id chart) :=
    Backend.mem_live_recorded_generate (B := B) h.numbered (h.live hheld) config
  rw [step]
  rcases hg : B.recorded.generate config p.state with ⟨e | new, s'⟩
  · rw [hg] at hstate hnumbered hknown hlive
    exact h.direct hstate hnumbered (fun _ => hknown)
      fun hheld => ⟨hlive hheld, h.own hheld⟩
  · obtain ⟨hnew, hnewlive, -⟩ := Backend.new_of_recorded_generate h.numbered hg
    rw [hg] at hstate hnumbered hknown hlive
    refine h.direct hstate hnumbered ?_ fun hheld => ⟨hlive hheld, ?_⟩
    · intro chart hmem
      rcases List.mem_append.mp hmem with hold | hlast
      · exact hknown hold
      · cases List.mem_singleton.mp hlast
        exact (Journal.mem_live.mp hnewlive).1
    · rw [List.mem_append, List.mem_singleton, not_or]
      refine ⟨h.own hheld, ?_⟩
      rintro rfl
      exact hnew (Journal.mem_live.mp (h.live hheld)).1

/-- Destroying a handle that was given out, however late and however often,
takes no chart away from a toggle chart. -/
theorem destroy (hI : Stable B I) (h : Owned I p) (index : Nat) :
    Owned I (p.step B.recorded (.destroy index)) := by
  rw [step]
  cases hget : p.handles[index]? with
  | none => exact h
  | some chart =>
      have hgiven : chart ∈ p.handles := List.mem_of_getElem? hget
      have hmem := h.known chart hgiven
      refine h.direct (hI.destroy chart p.state h.numbered h.state hmem)
        (Backend.numbered_recorded_destroy h.numbered hmem) ?_ ?_
      · rw [Backend.generated_recorded_destroy]
        exact h.known
      · intro id other hheld
        refine ⟨Backend.mem_live_recorded_destroy h.numbered hmem (h.live hheld) ?_,
          h.own hheld⟩
        rintro rfl
        exact h.own hheld hgiven

theorem mount (hI : Stable B I) (h : Owned I p) (id : Nat) (m : Mounting) :
    Owned I (p.step B.recorded (.mount id m)) := by
  have hblank : Owned I (p.withChart id m.blank p.state) := h.place rfl
  rw [step]
  rcases hm : m.mount B.recorded p.state with ⟨e | c, s', notices⟩
  · have hdrop := (moves hI (Mounting.mount_error hm) hblank).drop id
    rw [dropChart_withChart] at hdrop
    exact hdrop
  · obtain ⟨handle, rfl, hmoves, -⟩ := Mounting.mount_ok hm
    exact (moves hI hmoves hblank).same (handle_dressed _) (config_dressed _)

/-- No step of a scene breaks ownership. -/
theorem step (hI : Stable B I) (h : Owned I p) (st : Step) :
    Owned I (p.step B.recorded st) := by
  cases st with
  | generate config => exact h.generate hI config
  | render renderer view container paddingLeft =>
      rw [render_eq]
      exact h.generate hI _
  | destroy index => exact h.destroy hI index
  | mount id m => exact h.mount hI id m
  | request id r =>
      rw [Scene.step]
      cases hc : p.charts id with
      | none => exact h
      | some c =>
          exact moves hI (moves_serve B.recorded c p.state r)
            (by rw [withChart_self hc]; exact h)
  | unmount id =>
      rw [Scene.step]
      cases hc : p.charts id with
      | none => exact h
      | some c =>
          obtain ⟨c', hmoves, -⟩ := moves_unmount B.recorded c p.state
          have hheld : Owned I (p.withChart id c p.state) := by
            rw [withChart_self hc]
            exact h
          have hdrop := (moves hI hmoves hheld).drop id
          rw [dropChart_withChart] at hdrop
          exact hdrop
  | drop id => exact h.drop id

theorem run (hI : Stable B I) (h : Owned I p) (steps : List Step) :
    Owned I (p.run B.recorded steps) := by
  induction steps generalizing p with
  | nil => exact h
  | cons st rest ih => exact ih (h.step hI st)

end Owned

/-- The calls that reach the backend of a scene which has nothing yet. -/
def journal (B : Backend σ η) (s : σ) (steps : List Step) : Journal η :=
  (run B.recorded { state := (s, []) } steps).state.2

theorem Owned.init {I : σ × Journal η → Prop} {s : σ} (h : I (s, [])) :
    Owned I { state := (s, []) } := by
  have nobody {id : Nat} {chart : GeneratedChart η} :
      ¬ Holds ({ state := (s, []) } : Scene (σ × Journal η) _) id chart := by
    rintro ⟨c, hc, -⟩
    cases hc
  constructor
  case state => exact h
  case numbered => exact .nil
  case known => exact fun chart hmem => absurd hmem List.not_mem_nil
  case live => exact fun hheld => absurd hheld nobody
  case own => exact fun hheld => absurd hheld nobody
  case apart => exact fun hheld => absurd hheld nobody
  case config =>
    intro id c chart hc
    cases hc

/-- What holds of a scene that began with nothing. The invariant of its
backend does, with the journal of its calls, and what a toggle chart shows is
live and was accepted as it would be asked for now. -/
theorem of_run {B : Backend σ η} {I : σ × Journal η → Prop} (hI : Stable B I) {s : σ}
    (hs : I (s, [])) (steps : List Step) :
    I ((run B { state := s } steps).state, journal B s steps) ∧
    (journal B s steps).Numbered ∧
    ∀ id c, (run B { state := s } steps).charts id = some c → c.isLive = true →
      ∃ chart ∈ (journal B s steps).live,
        c.handle = some chart.handle ∧ chart.config = c.config := by
  have howned := (Owned.init hs).run hI steps
  have hrun : run B { state := s } steps
      = (run B.recorded { state := (s, []) } steps).project Prod.fst GeneratedChart.handle :=
    run_project (Backend.recorded_projects B) { state := (s, []) } steps
  rw [hrun]
  refine ⟨howned.state, howned.numbered, fun id c hc hlive => ?_⟩
  rw [charts_project, Option.map_eq_some_iff] at hc
  obtain ⟨c, hc, rfl⟩ := hc
  rw [ToggleChart.isLive_mapHandle] at hlive
  obtain ⟨chart, hchart⟩ := ToggleChart.isLive_iff.mp hlive
  refine ⟨chart, howned.live ⟨c, hc, hchart⟩, ?_, howned.config hc hchart⟩
  rw [mapHandle, hchart]
  rfl

end Scene

end RankedBars
