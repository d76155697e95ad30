import RankedBars.Backend.Scripted
import RankedBars.Proofs.Toggle.OneChart

/-!
# What is on screen

The chart on show was drawn some time ago, and what it ought to show is
worked out anew from the mode. The two agree in every state of every run:
the configuration that the backend accepted for the live chart is the one
that the toggle chart would ask for now. That is `Accounts`, which every move
keeps.

The other part is about a state without a chart, and is a fact about the
past. A run is looked back on as a list of `Visit`s, requests with what they
found, and the visits that matter are the clicks that got past destroying
the chart, because no other request can change whether there is one.
-/

namespace RankedBars

variable {σ : Type u} {η : Type v}

namespace ToggleChart

/-- A request with the chart and the state that it finds. -/
structure Visit (σ : Type u) (η : Type v) where
  chart : ToggleChart η
  state : σ
  request : Request

namespace Visit

/-- What comes of the request. -/
def served (B : Backend σ η) (v : Visit σ η) : Clicked σ η :=
  v.chart.serve B v.state v.request

/-- Whether the request is a click on the bound handler that gets past
destroying the chart, if there is one. -/
def getsPast (B : Backend σ η) (v : Visit σ η) : Bool :=
  match v.request.handler? v.chart with
  | none => false
  | some handler =>
      v.chart.handler = some handler && (v.chart.release B v.state).1.isOk

/-- The click got as far as asking for the chart of the next mode, was
refused, and passes the refusal on. -/
def FailsInGenerate (B : Backend σ η) (v : Visit σ η) : Prop :=
  ∃ c s e s', v.chart.release B v.state = (.ok c, s) ∧
    B.generate c.advance.config s = (.error e, s') ∧
    (v.served B).result = .error e

variable {B : Backend σ η} {v : Visit σ η}

theorem handle_served_of_not_getsPast (h : v.getsPast B = false) :
    (v.served B).chart.handle = v.chart.handle := by
  rw [served, serve_eq]
  rw [getsPast] at h
  cases hr : v.request.handler? v.chart with
  | none => rfl
  | some handler =>
      simp only [hr] at h ⊢
      rcases click_cases B v.chart handler v.request.event v.state with ⟨-, heq⟩ |
        ⟨-, e, s', -, heq⟩ | ⟨hh, c₁, s₁, e, s', n, hrel, -, -⟩ |
        ⟨hh, c₁, s₁, c', s', n, hrel, -, -⟩
      · rw [heq]
      · rw [heq]
      · rw [hh, hrel] at h
        simp [Except.isOk, Except.toBool] at h
      · rw [hh, hrel] at h
        simp [Except.isOk, Except.toBool] at h

theorem failsInGenerate_of_handle_served (h : v.getsPast B = true)
    (hnone : (v.served B).chart.handle = none) : v.FailsInGenerate B := by
  rw [FailsInGenerate]
  rw [served, serve_eq] at hnone ⊢
  rw [getsPast] at h
  cases hr : v.request.handler? v.chart with
  | none =>
      rw [hr] at h
      cases h
  | some handler =>
      simp only [hr, Bool.and_eq_true, decide_eq_true_eq] at h hnone ⊢
      obtain ⟨hh, hok⟩ := h
      rcases click_cases B v.chart handler v.request.event v.state with ⟨hne, -⟩ |
        ⟨-, e, s', hrel, -⟩ | ⟨-, c₁, s₁, e, s', n, hrel, hdraw, heq⟩ |
        ⟨-, c₁, s₁, c', s', n, hrel, hdraw, heq⟩
      · exact absurd hh hne
      · rw [hrel] at hok
        cases hok
      · have hgen := (draw_error (handle_advance_of_release_ok hrel) hdraw).1
        exact ⟨c₁, s₁, e, s', hrel, hgen, by rw [heq]⟩
      · obtain ⟨⟨handle, rfl⟩, -⟩ := draw_ok (handle_advance_of_release_ok hrel) hdraw
        rw [heq] at hnone
        cases hnone

end Visit

/-- The requests of a run with what they find. -/
def visits (B : Backend σ η) (c : ToggleChart η) (s : σ) :
    List Request → List (Visit σ η)
  | [] => []
  | r :: rest =>
      let d := c.serve B s r
      ⟨c, s, r⟩ :: d.chart.visits B d.state rest

/-- The last click of a run that got past destroying the chart. -/
def lastPast? (B : Backend σ η) (c : ToggleChart η) (s : σ)
    (requests : List Request) : Option (Visit σ η) :=
  ((c.visits B s requests).filter fun v => v.getsPast B).getLast?

theorem lastPast?_cons (B : Backend σ η) (c : ToggleChart η) (s : σ) (r : Request)
    (rest : List Request) :
    c.lastPast? B s (r :: rest)
      = ((c.serve B s r).chart.lastPast? B (c.serve B s r).state rest).or
        (if (⟨c, s, r⟩ : Visit σ η).getsPast B then some ⟨c, s, r⟩ else none) := by
  rw [lastPast?, visits, List.filter_cons]
  split
  · rw [List.getLast?_cons, lastPast?]
    cases (List.filter _ _).getLast? <;> rfl
  · rw [lastPast?, Option.or_none]

/-- Without a chart in the end there was none to begin with and no click got
past, or the last click that did failed in generating. -/
theorem lastPast?_of_handle_eq_none (B : Backend σ η) (c : ToggleChart η) (s : σ)
    (requests : List Request) (h : (c.serveAll B s requests).1.handle = none) :
    (c.handle = none ∧ c.lastPast? B s requests = none) ∨
      ∃ v, c.lastPast? B s requests = some v ∧ v.FailsInGenerate B := by
  induction requests generalizing c s with
  | nil => exact .inl ⟨h, rfl⟩
  | cons r rest ih =>
      rw [lastPast?_cons]
      rcases ih _ _ h with ⟨hnone, hlast⟩ | ⟨v, hlast, hfails⟩
      · rw [hlast, Option.none_or]
        cases hpast : (⟨c, s, r⟩ : Visit σ η).getsPast B with
        | false =>
            have hkept := Visit.handle_served_of_not_getsPast hpast
            exact .inl ⟨hkept.symm.trans hnone, if_neg Bool.false_ne_true⟩
        | true =>
            exact .inr ⟨_, if_pos rfl,
              Visit.failsInGenerate_of_handle_served hpast hnone⟩
      · rw [hlast, Option.some_or]
        exact .inr ⟨v, rfl, hfails⟩

end ToggleChart

namespace Mounting

open ToggleChart

/-- The last click of a run that got past destroying the chart. -/
def lastPast? (B : Backend σ η) (m : Mounting) (requests : List Request) (s : σ) :
    Option (Visit σ η) :=
  match m.mount B s with
  | (.error _, _) => none
  | (.ok c, s, _) => c.lastPast? B s requests

/-- What is on screen is what the mode says. If a chart is live, it is the
only one, and the configuration that the backend accepted for it is that of
the view which belongs to the mode. If none is, the dataset is empty or the
last click that got past destroying the chart failed in generating. -/
theorem live_chart_is_current (B : Backend σ η) (m : Mounting)
    (requests : List Request) (s s' : σ) (c : ToggleChart η)
    (h : m.run B requests s = (some c, s')) :
    c.view = m.dataset.view m.options.limit c.mode.showsAll ∧
    (c.isLive = true → ∃ chart, (m.journal B requests s).live = [chart] ∧
      c.handle = some chart.handle ∧
      chart.config
        = m.renderer.config c.view m.container m.options.paddingLeft) ∧
    (c.isLive = false → m.dataset = [] ∨
      ∃ v, m.lastPast? B requests s = some v ∧ v.FailsInGenerate B) := by
  refine ⟨(Fits.of_run h).view, ?_, ?_⟩
  · intro hlive
    have hrun := run_map B.recorded_projects m requests (s, [])
    rcases hr : m.run B.recorded requests (s, []) with ⟨_ | c', s''⟩
    · rw [hr] at hrun
      cases hrun.symm.trans h
    · rw [hr] at hrun
      cases hrun.symm.trans h
      have hacc := accounts_of_run hr
      have hfits := Fits.of_run h
      rw [isLive_mapHandle] at hlive
      obtain ⟨chart, hchart⟩ := isLive_iff.mp hlive
      refine ⟨chart, ?_, by rw [mapHandle, hchart]; rfl, ?_⟩
      · rw [journal, hr]
        exact hacc.solo.live_eq.trans (by rw [hchart]; rfl)
      · rw [hacc.config chart hchart, ← hfits.config]
        rfl
  · intro hlive
    have hnone : c.handle = none := by simpa [isLive] using hlive
    obtain ⟨c₀, s₀, notices, hmount, hserve⟩ := run_eq_some h
    rw [lastPast?, hmount]
    obtain ⟨handle, rfl, -, hempty⟩ := mount_ok hmount
    rcases lastPast?_of_handle_eq_none B (m.holding handle).dressed s₀ requests
      (by rw [hserve]; exact hnone) with ⟨hfree, -⟩ | hfails
    · rw [handle_dressed] at hfree
      exact .inl (hempty hfree)
    · exact .inr hfails

/-- A backend that refuses its second chart leaves the first click without
one. The second click draws what its label promised, the top of the data. -/
theorem live_chart_is_current_after_refusal :
    (∃ c s', threePoints.run Scripted.backend [.activate] { failGenerateAt := [2] }
        = (some c, s') ∧ c.mode = .all ∧ c.isLive = false ∧
      ∃ v, threePoints.lastPast? Scripted.backend [.activate]
        { failGenerateAt := [2] } = some v ∧ v.FailsInGenerate Scripted.backend) ∧
    (∃ c s', threePoints.run Scripted.backend [.activate, .activate]
        { failGenerateAt := [2] } = (some c, s') ∧ c.mode = .topN ∧
      c.isLive = true ∧ ∃ chart, (threePoints.journal Scripted.backend
        [.activate, .activate] { failGenerateAt := [2] }).live = [chart] ∧
      c.handle = some chart.handle ∧ chart.config = threePoints.renderer.config c.view
        threePoints.container threePoints.options.paddingLeft) := by
  constructor
  · refine ⟨_, _, rfl, rfl, rfl, ?_⟩
    obtain ⟨-, -, hfails⟩ := live_chart_is_current Scripted.backend threePoints
      [.activate] { failGenerateAt := [2] } _ _ rfl
    exact (hfails rfl).resolve_left (by decide)
  · refine ⟨_, _, rfl, rfl, rfl, ?_⟩
    obtain ⟨-, hlive, -⟩ := live_chart_is_current Scripted.backend threePoints
      [.activate, .activate] { failGenerateAt := [2] } _ _ rfl
    exact hlive rfl

end Mounting

end RankedBars
