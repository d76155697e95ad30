import RankedBars.Backend.Scripted
import RankedBars.Proofs.Toggle.Control
import RankedBars.Proofs.Toggle.Handlers
import RankedBars.Proofs.Toggle.Steps

/-!
# What failures leave

Mounting calls a backend once and a click at most twice, and each call can
fail. Two of the three failures are as if nothing had been asked: a chart that
cannot be mounted has touched nothing, and a click that cannot destroy the
chart has not begun. The third is different by intention. When the new chart
cannot be drawn, the old one is gone already, and mode, label and handler
have moved on as if it had been drawn, so that the control says what the next
click will do.

The next click is the point of it. It has no chart to destroy and asks for the
view that the label offers, in one call. That an activation is such a click
needs a fact about the past, that a chart which listens has a control that
sends clicks where it listens (`Attended`). Every move keeps it, so it holds
as well in states that earlier failures have left.
-/

namespace RankedBars

variable {σ : Type u} {η : Type v}

/-- The configuration that a call asks for, unless the call is about a chart
that is there already. -/
def BackendCall.requested? : BackendCall η → Option ChartConfig
  | .generated chart => some chart.config
  | .refused config _ => some config
  | .destroyed _ | .kept .. => none

namespace ToggleChart

/-! ## The control of a chart that listens -/

/-- A chart with a control in sight that sends clicks to where the chart
listens, and says what they do. -/
def Attended (c : ToggleChart η) : Prop :=
  ∃ b, c.control = some b ∧ b.visible = true ∧ b.handler = c.handler ∧ b.text = c.label

namespace Attended

variable {B : Backend σ η} {c : ToggleChart η}

theorem offer {b : Button} (h : c.control = some b) : Attended c.offer := by
  rw [offer_of_control_eq_some h]
  exact ⟨_, rfl, rfl, rfl, rfl⟩

theorem advance (h : Attended c) : Attended c.advance := by
  obtain ⟨b, hcontrol, hvisible, -, -⟩ := h
  rw [advance_of_control_eq_some hcontrol]
  exact ⟨_, rfl, hvisible, rfl, rfl⟩

theorem move {p q : ToggleChart η × σ} (hmove : Move B p q) (h : Attended p.1) :
    Attended q.1 := by
  cases hmove with
  | destroyed | generated => exact h
  | kept | refused => exact h
  | advanced => exact h.advance

/-- What a click sees of the control. -/
theorem clickTarget (h : Attended c) : ∃ b, c.control = some b ∧ b.text = c.label ∧
    b.clickTarget = c.handler := by
  obtain ⟨b, hcontrol, hvisible, hbound, htext⟩ := h
  refine ⟨b, hcontrol, htext, ?_⟩
  rw [Button.clickTarget, if_pos hvisible, hbound]

end Attended

/-! ## Calls that are written down -/

section

variable {B : Backend σ η} {c : ToggleChart (GeneratedChart η)} {s : σ × Journal η}

/-- Drawing is one call, for the configuration of the chart, and its outcome
is that of the call. -/
theorem exists_call_of_draw (B : Backend σ η) (c : ToggleChart (GeneratedChart η))
    (s : σ × Journal η) : ∃ call, (c.draw B.recorded s).2.1.2 = s.2 ++ [call] ∧
      call.requested? = some c.config ∧ call.succeeded = (c.draw B.recorded s).1.isOk := by
  rcases draw_cases B.recorded c s with ⟨chart, s', n, hg, heq⟩ | ⟨e, s', n, hg, heq⟩
  · obtain ⟨-, hconfig, -, hj⟩ := Backend.recorded_generate_ok hg
    rw [heq, hj]
    exact ⟨_, rfl, congrArg some hconfig, rfl⟩
  · rw [heq, (Backend.recorded_generate_error hg).2]
    exact ⟨_, rfl, rfl, rfl⟩

/-- A click that finds no chart is one call, for the other mode. -/
theorem exists_call_of_click {handler : HandlerId} (hfree : c.handle = none)
    (hbound : c.handler = some handler) (event : ClickEvent) :
    ∃ call, (c.click B.recorded handler event s).state.2 = s.2 ++ [call] ∧
      call.requested? = some c.advance.config ∧
      call.succeeded = (c.click B.recorded handler event s).result.isOk := by
  obtain ⟨call, hj, hconfig, hresult⟩ := exists_call_of_draw B c.advance s
  have hr := release_of_handle_eq_none B.recorded hfree s
  rcases click_cases B.recorded c handler event s with ⟨hne, -⟩ | ⟨-, e, s', hr', -⟩ |
    ⟨-, c₁, s₁, e, s', n, hr', hd, heq⟩ | ⟨-, c₁, s₁, c', s', n, hr', hd, heq⟩
  · exact absurd hbound hne
  · cases hr.symm.trans hr'
  · cases hr.symm.trans hr'
    rw [hd] at hj hresult
    rw [heq]
    exact ⟨call, hj, hconfig, hresult⟩
  · cases hr.symm.trans hr'
    rw [hd] at hj hresult
    rw [heq]
    exact ⟨call, hj, hconfig, hresult⟩

end

/-! ## How a click fails -/

section

variable {B : Backend σ η} {c : ToggleChart η} {s s₁ : σ} {handler : HandlerId}

/-- Nothing stands in the way of drawing: there was no chart, or it has been
destroyed. -/
def Cleared (B : Backend σ η) (c : ToggleChart η) (s s₁ : σ) : Prop :=
  (c.handle = none ∧ s₁ = s) ∨ ∃ handle, c.handle = some handle ∧ B.destroy handle s = (.ok (), s₁)

theorem Cleared.release (h : c.Cleared B s s₁) :
    c.release B s = (.ok { c with handle := none }, s₁) := by
  rcases release_cases B c s with ⟨hc, heq⟩ | ⟨handle, s', hc, hd, heq⟩ |
    ⟨handle, e, s', hc, hd, heq⟩ <;> rcases h with ⟨hfree, rfl⟩ | ⟨held, hheld, hdestroyed⟩
  · rw [heq, ← hc]
  · cases hc.symm.trans hheld
  · cases hc.symm.trans hfree
  · cases hc.symm.trans hheld
    cases hd.symm.trans hdestroyed
    exact heq
  · cases hc.symm.trans hfree
  · cases hc.symm.trans hheld
    cases hd.symm.trans hdestroyed

theorem click_of_destroy_error {handle : η} {e : RenderError} {s' : σ}
    (hbound : c.handler = some handler) (hheld : c.handle = some handle)
    (hd : B.destroy handle s = (.error e, s')) (event : ClickEvent) :
    c.click B handler event s = ⟨.error e, c, event.prevent, s', []⟩ := by
  have hr : c.release B s = (.error e, s') := by simp only [release, hheld, hd]
  simp only [click, hbound, hr, ne_eq, not_true_eq_false, if_false]

theorem click_of_generate_error {e : RenderError} {s' : σ} (hbound : c.handler = some handler)
    (hcleared : c.Cleared B s s₁) (hg : B.generate c.advance.config s₁ = (.error e, s'))
    (event : ClickEvent) : ∃ notices, c.click B handler event s
      = ⟨.error e, { c.advance with handle := none }, event.prevent, s', notices⟩ := by
  have hr := hcleared.release
  rcases click_cases B c handler event s with ⟨hne, -⟩ | ⟨-, e', s₂, hr', -⟩ |
    ⟨-, c₁, s₂, e', s₃, n, hr', hd, heq⟩ | ⟨-, c₁, s₂, c', s₃, n, hr', hd, -⟩
  · exact absurd hbound hne
  · cases hr.symm.trans hr'
  · cases hr.symm.trans hr'
    have hg' := (draw_error (handle_advance_of_release_ok hr) hd).1
    rw [advance_withHandle] at hg'
    cases hg'.symm.trans hg
    exact ⟨n, by rw [heq, advance_withHandle]⟩
  · cases hr.symm.trans hr'
    rcases draw_cases B ({ c with handle := none } : ToggleChart η).advance s₁ with
      ⟨handle, s₄, n', hg', -⟩ | ⟨e', s₄, n', -, heq⟩
    · rw [advance_withHandle] at hg'
      cases hg'.symm.trans hg
    · cases heq.symm.trans hd

/-- A click that goes through leaves the same chart as one that fails in
generating, but for the chart that is live. -/
theorem chart_of_click_ok {event : ClickEvent}
    (h : (c.click B handler event s).result = .ok true) :
    { (c.click B handler event s).chart with handle := none }
      = ({ c.advance with handle := none } : ToggleChart η) := by
  rcases click_cases B c handler event s with ⟨-, heq⟩ | ⟨-, e, s', -, heq⟩ |
    ⟨-, c₁, s₁, e, s', n, -, -, heq⟩ | ⟨-, c₁, s₁, c', s', n, hr, hd, heq⟩
  · rw [heq] at h
    cases h
  · rw [heq] at h
    cases h
  · rw [heq] at h
    cases h
  · obtain ⟨⟨handle, rfl⟩, -⟩ := draw_ok (handle_advance_of_release_ok hr) hd
    rw [heq, (release_ok hr).1, advance_withHandle]

end

end ToggleChart

namespace Mounting

open ToggleChart

/-- The configuration of what was mounted, in a mode. -/
def configIn (m : Mounting) (mode : ViewMode) : ChartConfig :=
  m.renderer.config (m.dataset.view m.options.limit mode.showsAll) m.container
    m.options.paddingLeft

theorem Fits.config_eq {m : Mounting} {c : ToggleChart η} (h : m.Fits c) :
    c.config = m.configIn c.mode := by
  rw [h.config, h.view]
  rfl

theorem Fits.config_advance {m : Mounting} {c : ToggleChart η} (h : m.Fits c) :
    c.advance.config = m.configIn c.mode.flipped := by
  obtain ⟨control, handler, nextHandler, heq⟩ := advance_eq c
  have hfits : m.Fits c.advance := by
    rw [heq]
    exact ⟨h.renderer, h.dataset, h.container, h.options⟩
  rw [hfits.config_eq, mode_advance]

section

variable {B : Backend σ η} {m : Mounting} {requests : List Request} {s s' : σ}
  {c : ToggleChart η} {handler : HandlerId}

/-- A chart that listens is attended, in every state of a run. -/
theorem attended_of_run (h : m.run B requests s = (some c, s'))
    (hbound : c.handler = some handler) : Attended c := by
  cases hcontrol : m.control with
  | none =>
      rw [handler_of_run_without_control h hcontrol] at hbound
      cases hbound
  | some b =>
      by_cases hmore : max m.options.limit 0 < m.dataset.length
      · obtain ⟨handle, s₀, -, hserved⟩ := moves_of_run h
        rw [dressed, if_pos (isExpandable_iff.mpr hmore)] at hserved
        exact hserved.preserve (P := fun p => Attended p.1) Attended.move
          (Attended.offer hcontrol)
      · obtain ⟨handle, rfl⟩ := hidden_of_run h hmore
        cases hbound

theorem live_of_run (h : m.run B requests s = (some c, s')) (hfree : c.handle = none) :
    (m.journal B requests s).live = [] := by
  obtain ⟨c', hrec, rfl⟩ := exists_recorded_run h
  have hnone : c'.handle = none := Option.map_eq_none_iff.mp hfree
  rw [(accounts_of_run hrec).solo.live_eq, hnone]
  rfl

/-- A chart that could not be mounted was asked for once. -/
theorem journal_of_mount_error {e : RenderError} {notices : List Notice}
    (h : m.mount B s = (.error e, s', notices)) (requests : List Request) :
    m.journal B requests s = [.refused (m.configIn .topN) e] := by
  have hmap := mount_map B.recorded_projects m (s, [])
  rcases mount_cases B.recorded m (s, []) with ⟨-, heq⟩ | ⟨-, c', p, n, -, heq⟩ |
    ⟨-, e', p, n, hdraw, heq⟩
  · rw [heq] at hmap
    cases hmap.symm.trans h
  · rw [heq] at hmap
    cases hmap.symm.trans h
  · rw [heq] at hmap
    cases hmap.symm.trans h
    have hgenerate := (draw_error rfl hdraw).1
    rw [journal, run, heq, (Backend.recorded_generate_error hgenerate).2, Fits.blank.config_eq]
    rfl

/-- Without a live chart an activation asks for the chart of the other mode,
and that is its only call. -/
theorem exists_call_of_activate (h : m.run B requests s = (some c, s')) (hfree : c.handle = none)
    (hbound : c.handler = some handler) :
    ∃ call, m.journal B (requests ++ [.activate]) s = m.journal B requests s ++ [call] ∧
      call.requested? = some (m.configIn c.mode.flipped) ∧
      call.succeeded = (c.activate B s').result.isOk := by
  obtain ⟨c', hrec, rfl⟩ := exists_recorded_run h
  have hnone : c'.handle = none := Option.map_eq_none_iff.mp hfree
  have hbound' : c'.handler = some handler := hbound
  obtain ⟨b, hcontrol, -, htarget⟩ := (attended_of_run hrec hbound').clickTarget
  have hreaches : c'.control.bind Button.clickTarget = some handler := by
    rw [hcontrol, Option.bind_some, htarget, hbound']
  have hclick : c'.activate B.recorded (s', m.journal B requests s)
      = c'.click B.recorded handler {} (s', m.journal B requests s) := by
    simp only [activate, hreaches]
  have hproject := serve_mapHandle B.recorded_projects c' (s', m.journal B requests s) .activate
  obtain ⟨call, hj, hconfig, hresult⟩ :=
    exists_call_of_click (s := (s', m.journal B requests s)) hnone hbound' {}
  refine ⟨call, ?_, ?_, ?_⟩
  · rw [journal_concat hrec]
    exact (congrArg (fun d => d.state.2) hclick).trans hj
  · rw [hconfig, (Fits.of_run hrec).config_advance]
    rfl
  · rw [hresult, ← hclick]
    exact (congrArg (fun d => d.result.isOk) hproject).symm

/-- A click that cannot destroy the chart makes this one call. -/
theorem journal_of_destroy_error {handle : η} {e : RenderError} {t : σ}
    (h : m.run B requests s = (some c, s')) (hbound : c.handler = some handler)
    (hheld : c.handle = some handle) (hd : B.destroy handle s' = (.error e, t))
    (event : ClickEvent) :
    ∃ chart, chart.handle = handle ∧ m.journal B (requests ++ [.click handler event]) s
      = m.journal B requests s ++ [.kept chart e] := by
  obtain ⟨c', hrec, rfl⟩ := exists_recorded_run h
  obtain ⟨chart, hchart, rfl⟩ := Option.map_eq_some_iff.mp hheld
  have hbound' : c'.handler = some handler := hbound
  have hkept : B.recorded.destroy chart (s', m.journal B requests s)
      = (.error e, t, m.journal B requests s ++ [.kept chart e]) := by
    simp only [Backend.recorded, hd]
  refine ⟨chart, rfl, ?_⟩
  rw [journal_concat hrec, serve, click_of_destroy_error hbound' hchart hkept event]

/-- A chart that a click has taken from one view and not brought to the other
one. It has all of the other one but the chart itself. -/
structure Between (m : Mounting) (c d : ToggleChart η) : Prop where
  free : d.handle = none
  mode : d.mode = c.mode.flipped
  handler : d.handler = some c.nextHandler
  nextHandler : d.nextHandler = c.nextHandler.next
  control : ∃ b, d.control = some b ∧ b.clickTarget = some c.nextHandler ∧
    b.text = m.options.labels.labelFor c.mode.flipped m.options.limit

theorem between_advance (h : m.run B requests s = (some c, s'))
    (hbound : c.handler = some handler) :
    m.Between c ({ c.advance with handle := none } : ToggleChart η) := by
  obtain ⟨b, hcontrol, hvisible, -, -⟩ := attended_of_run h hbound
  rw [advance_of_control_eq_some hcontrol]
  refine ⟨rfl, rfl, rfl, rfl, _, rfl, if_pos hvisible, ?_⟩
  rw [(Fits.of_run h).options]
  rfl

end

/-- Failures leave what is documented. A mount that fails was refused in its
one call, nothing is live, and at the step that failed all that it was given
is as it was, the control included. Let a chart be what a run has come to and
click on the handler that it listens to. If the chart cannot be destroyed,
that is the only call and the click leaves everything but its own event as it
was. If the next one cannot be generated, nothing is live and the click leaves
what a click that goes through leaves, whatever the backend that lets it
through, but for the chart; and then an activation makes one call, which asks
for the view that the label offers. Either way the click passes on the error
of the backend. -/
theorem failures_leave_what_is_documented (B : Backend σ η) (m : Mounting)
    (requests : List Request) (s : σ) :
    (∀ e s' notices, m.mount B s = (.error e, s', notices) →
      carryOut (m.steps B) (m.blank, s) = (.error e, m.blank, s') ∧
      m.journal B requests s = [.refused (m.configIn .topN) e] ∧
      (m.journal B requests s).live = []) ∧
    ∀ c s', m.run B requests s = (some c, s') →
      ∀ handler event, c.handler = some handler →
      (∀ handle e t, c.handle = some handle → B.destroy handle s' = (.error e, t) →
        c.click B handler event s' = ⟨.error e, c, event.prevent, t, []⟩ ∧
        ∃ chart, chart.handle = handle ∧ m.journal B (requests ++ [.click handler event]) s
          = m.journal B requests s ++ [.kept chart e]) ∧
      ∀ s₁ e t, c.Cleared B s' s₁ → B.generate (m.configIn c.mode.flipped) s₁ = (.error e, t) →
        ∃ d notices, c.click B handler event s' = ⟨.error e, d, event.prevent, t, notices⟩ ∧
          m.Between c d ∧ (m.journal B (requests ++ [.click handler event]) s).live = [] ∧
          (∀ (B' : Backend σ η) s'', (c.click B' handler event s'').result = .ok true →
            { (c.click B' handler event s'').chart with handle := none } = d) ∧
          ∃ call, m.journal B (requests ++ [.click handler event, .activate]) s
              = m.journal B (requests ++ [.click handler event]) s ++ [call] ∧
            call.requested? = some (m.configIn c.mode) ∧
            call.succeeded = (d.activate B t).result.isOk := by
  constructor
  · intro e s' notices h
    have hjournal := journal_of_mount_error h requests
    have hsteps := m.carryOut_steps B s
    rw [h] at hsteps
    refine ⟨hsteps, hjournal, ?_⟩
    rw [hjournal]
    rfl
  · intro c s' h handler event hbound
    constructor
    · intro handle e t hheld hd
      exact ⟨click_of_destroy_error hbound hheld hd event,
        journal_of_destroy_error h hbound hheld hd event⟩
    · intro s₁ e t hcleared hg
      rw [← (Fits.of_run h).config_advance] at hg
      obtain ⟨notices, hclick⟩ := click_of_generate_error hbound hcleared hg event
      have hafter : m.run B (requests ++ [.click handler event]) s
          = (some ({ c.advance with handle := none } : ToggleChart η), t) := by
        rw [run_append h, serveAll, serve, hclick]
        rfl
      have hbetween := between_advance h hbound
      refine ⟨_, notices, hclick, hbetween, live_of_run hafter rfl,
        fun B' s'' hok => chart_of_click_ok hok, ?_⟩
      obtain ⟨call, hj, hconfig, hresult⟩ :=
        exists_call_of_activate hafter rfl hbetween.handler
      rw [List.append_assoc] at hj
      refine ⟨call, hj, ?_, hresult⟩
      rw [hconfig, hbetween.mode, ViewMode.flipped_flipped]

/-- A backend that refuses its first chart, one that does not destroy, and one
that refuses its second chart. -/
theorem failures_leave_what_is_documented_on_three_points :
    (threePoints.journal Scripted.backend [] { failGenerateAt := [1] }).live = [] ∧
    (∃ c s', threePoints.run Scripted.backend [] { failDestroys := 1 } = (some c, s') ∧
      c.handler = some ⟨1⟩ ∧ (c.click Scripted.backend ⟨1⟩ {} s').chart = c) ∧
    ∃ c s' d, threePoints.run Scripted.backend [] { failGenerateAt := [2] } = (some c, s') ∧
      (c.click Scripted.backend ⟨1⟩ {} s').chart = d ∧ threePoints.Between c d ∧
      (threePoints.journal Scripted.backend [.click ⟨1⟩ {}] { failGenerateAt := [2] }).live = [] ∧
      ∃ call, threePoints.journal Scripted.backend [.click ⟨1⟩ {}, .activate]
          { failGenerateAt := [2] } = threePoints.journal Scripted.backend [.click ⟨1⟩ {}]
          { failGenerateAt := [2] } ++ [call] ∧
        call.requested? = some (threePoints.configIn .topN) ∧ call.succeeded = true := by
  refine ⟨?_, ?_, ?_⟩
  · obtain ⟨hmount, -⟩ := failures_leave_what_is_documented Scripted.backend threePoints []
      { failGenerateAt := [1] }
    exact (hmount _ _ _ rfl).2.2
  · obtain ⟨-, hclick⟩ := failures_leave_what_is_documented Scripted.backend threePoints []
      { failDestroys := 1 }
    obtain ⟨hkept, -⟩ := hclick _ _ rfl ⟨1⟩ {} rfl
    obtain ⟨heq, -⟩ := hkept _ _ _ rfl rfl
    exact ⟨_, _, rfl, rfl, congrArg ToggleChart.Clicked.chart heq⟩
  · obtain ⟨-, hclick⟩ := failures_leave_what_is_documented Scripted.backend threePoints []
      { failGenerateAt := [2] }
    obtain ⟨-, hlost⟩ := hclick _ _ rfl ⟨1⟩ {} rfl
    obtain ⟨d, notices, heq, hbetween, hfree, -, call, hj, hconfig, hcalled⟩ :=
      hlost _ _ _ (.inr ⟨_, rfl, rfl⟩) rfl
    have hd := congrArg ToggleChart.Clicked.chart heq
    subst hd
    exact ⟨_, _, _, rfl, rfl, hbetween, hfree, call, hj, hconfig, hcalled.trans rfl⟩

end Mounting

end RankedBars
