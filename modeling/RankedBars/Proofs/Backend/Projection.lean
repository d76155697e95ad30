import RankedBars.Proofs.Backend.Journal
import RankedBars.Proofs.Toggle.Run

/-!
# A backend seen through another

`B'.Projects B state handle` says that `B'` carries more in its states and
its handles than `B` and does with the rest what `B` does. A toggle chart
cannot tell the two apart: whatever it is asked, it answers the same, and
what it is afterwards over the one is the projection of what it is over the
other. Nothing in a chart looks into a handle, which is all that the proofs
below use.

`recorded_projects` is the case this is for: the journal beside a backend
changes nothing about a run, so what a journal tells about a run over
`B.recorded` is a fact about the run over `B`.
-/

namespace RankedBars

variable {σ : Type u} {η : Type v} {σ' : Type w} {η' : Type x}

/-- What is left of `B'` when its states and handles are seen through `state`
and `handle` is `B`. -/
structure Backend.Projects (B' : Backend σ' η') (B : Backend σ η) (state : σ' → σ)
    (handle : η' → η) : Prop where
  generate : ∀ config s, B.generate config (state s)
    = ((B'.generate config s).1.map handle, state (B'.generate config s).2)
  destroy : ∀ h s, B.destroy (handle h) (state s)
    = ((B'.destroy h s).1, state (B'.destroy h s).2)
  notices : ∀ config h, B.notices config (handle h) = B'.notices config h

theorem Backend.recorded_projects (B : Backend σ η) :
    B.recorded.Projects B Prod.fst GeneratedChart.handle where
  generate config s := by
    rcases hg : B.generate config s.1 with ⟨e | handle, s₁⟩
    · simp only [recorded, hg, Except.map]
    · simp only [recorded, hg, Except.map]
  destroy chart s := by
    rcases hd : B.destroy chart.handle s.1 with ⟨e | _, s₁⟩
    · simp only [recorded, hd]
    · simp only [recorded, hd]
  notices config chart := rfl

namespace ToggleChart

/-- The chart with its handle seen through a function. -/
def mapHandle (f : η' → η) (c : ToggleChart η') : ToggleChart η :=
  { c with handle := c.handle.map f }

/-- What a click comes to, with states and handles seen through functions. -/
def Clicked.project (f : σ' → σ) (g : η' → η) (d : Clicked σ' η') : Clicked σ η :=
  { d with chart := d.chart.mapHandle g, state := f d.state }

@[simp] theorem isLive_mapHandle (f : η' → η) (c : ToggleChart η') :
    (c.mapHandle f).isLive = c.isLive := Option.isSome_map

@[simp] theorem advance_mapHandle (f : η' → η) (c : ToggleChart η') :
    (c.mapHandle f).advance = c.advance.mapHandle f := by
  obtain ⟨r, d, n, control, o, mode, handle, handler, next⟩ := c
  cases control <;> rfl

@[simp] theorem dressed_mapHandle (f : η' → η) (c : ToggleChart η') :
    (c.mapHandle f).dressed = c.dressed.mapHandle f := by
  have hexp : (c.mapHandle f).isExpandable = c.isExpandable := rfl
  rw [dressed, dressed, hexp]
  split
  · obtain ⟨r, d, n, control, o, mode, handle, handler, next⟩ := c
    cases control <;> rfl
  · rfl

section

variable {B' : Backend σ' η'} {B : Backend σ η} {f : σ' → σ} {g : η' → η}

theorem release_mapHandle (h : B'.Projects B f g) (c : ToggleChart η') (s : σ') :
    (c.mapHandle g).release B (f s)
      = ((c.release B' s).1.map (mapHandle g), f (c.release B' s).2) := by
  cases hc : c.handle with
  | none =>
      have hc' : (c.mapHandle g).handle = none := by rw [mapHandle, hc]; rfl
      rw [release_of_handle_eq_none B hc', release_of_handle_eq_none B' hc]
      rfl
  | some handle =>
      have hc' : (c.mapHandle g).handle = some (g handle) := by
        rw [mapHandle, hc]; rfl
      have hd := h.destroy handle s
      rcases hd' : B'.destroy handle s with ⟨e | _, s₁⟩
      · rw [hd'] at hd
        simp only [release, hc, hc', hd, hd', Except.map]
      · rw [hd'] at hd
        simp only [release, hc, hc', hd, hd', Except.map]
        rfl

theorem draw_mapHandle (h : B'.Projects B f g) (c : ToggleChart η') (s : σ') :
    (c.mapHandle g).draw B (f s)
      = ((c.draw B' s).1.map (mapHandle g), f (c.draw B' s).2.1,
        (c.draw B' s).2.2) := by
  have hg := h.generate (c.renderer.config c.view c.container c.options.paddingLeft) s
  rcases hg' : B'.generate
    (c.renderer.config c.view c.container c.options.paddingLeft) s with ⟨e | handle, s₁⟩
  · rw [hg'] at hg
    have hg : B.generate ((c.mapHandle g).renderer.config (c.mapHandle g).view
        (c.mapHandle g).container (c.mapHandle g).options.paddingLeft) (f s)
        = (.error e, f s₁) := hg
    simp only [draw, Renderer.render, hg, hg', Except.map]
    rfl
  · rw [hg'] at hg
    have hg : B.generate ((c.mapHandle g).renderer.config (c.mapHandle g).view
        (c.mapHandle g).container (c.mapHandle g).options.paddingLeft) (f s)
        = (.ok (g handle), f s₁) := hg
    simp only [draw, Renderer.render, hg, hg', h.notices, Except.map]
    rfl

theorem click_mapHandle (h : B'.Projects B f g) (c : ToggleChart η')
    (handler : HandlerId) (event : ClickEvent) (s : σ') :
    (c.mapHandle g).click B handler event (f s)
      = (c.click B' handler event s).project f g := by
  have hhandler : (c.mapHandle g).handler = c.handler := rfl
  by_cases hh : c.handler = some handler
  · have hr := release_mapHandle h c s
    rcases hr' : c.release B' s with ⟨e | c₁, s₁⟩
    · rw [hr'] at hr
      simp only [click, hhandler, hh, hr, hr', Except.map, ne_eq, not_true_eq_false,
        if_false]
      rfl
    · rw [hr'] at hr
      have hd := draw_mapHandle h c₁.advance s₁
      rw [← advance_mapHandle] at hd
      rcases hd' : c₁.advance.draw B' s₁ with ⟨e | c₂, s₂, notices⟩
      · rw [hd'] at hd
        simp only [click, hhandler, hh, hr, hr', hd, hd', Except.map, ne_eq,
          not_true_eq_false, if_false]
        rw [advance_mapHandle]
        rfl
      · rw [hd'] at hd
        simp only [click, hhandler, hh, hr, hr', hd, hd', Except.map, ne_eq,
          not_true_eq_false, if_false]
        rfl
  · rw [click, click, hhandler, if_pos hh, if_pos hh]
    rfl

theorem serve_mapHandle (h : B'.Projects B f g) (c : ToggleChart η') (s : σ')
    (r : Request) :
    (c.mapHandle g).serve B (f s) r = (c.serve B' s r).project f g := by
  have htarget : r.handler? (c.mapHandle g) = r.handler? c := by cases r <;> rfl
  rw [serve_eq, serve_eq, htarget]
  split
  · rfl
  · exact click_mapHandle h ..

theorem serveAll_mapHandle (h : B'.Projects B f g) (c : ToggleChart η') (s : σ')
    (requests : List Request) :
    (c.mapHandle g).serveAll B (f s) requests
      = ((c.serveAll B' s requests).1.mapHandle g, f (c.serveAll B' s requests).2) := by
  induction requests generalizing c s with
  | nil => rfl
  | cons r rest ih =>
      rw [serveAll, serve_mapHandle h]
      exact ih ..

theorem unmount_mapHandle (h : B'.Projects B f g) (c : ToggleChart η') (s : σ') :
    (c.mapHandle g).unmount B (f s)
      = ((c.unmount B' s).1, f (c.unmount B' s).2) := by
  have hr := release_mapHandle h c s
  rcases hr' : c.release B' s with ⟨e | c₁, s₁⟩
  · rw [hr'] at hr
    simp only [unmount, hr, hr', Except.map]
  · rw [hr'] at hr
    simp only [unmount, hr, hr', Except.map]
    rfl

end

end ToggleChart

namespace Mounting

variable {B' : Backend σ' η'} {B : Backend σ η} {f : σ' → σ} {g : η' → η}

theorem mount_map (h : B'.Projects B f g) (m : Mounting) (s : σ') :
    m.mount B (f s) = ((m.mount B' s).1.map (ToggleChart.mapHandle g),
      f (m.mount B' s).2.1, (m.mount B' s).2.2) := by
  have hdraw := ToggleChart.draw_mapHandle h (m.blank : ToggleChart η') s
  have hblank : (m.blank : ToggleChart η').mapHandle g = m.blank := rfl
  rw [hblank] at hdraw
  rcases mount_cases B' m s with ⟨hd, heq'⟩ |
    ⟨hd, c, s', notices, hdraw', heq'⟩ | ⟨hd, e, s', notices, hdraw', heq'⟩
  · rcases mount_cases B m (f s) with ⟨-, heq⟩ | ⟨hne, -⟩ | ⟨hne, -⟩
    · rw [heq, heq']
      rfl
    · exact absurd hd hne
    · exact absurd hd hne
  · rw [hdraw'] at hdraw
    rcases mount_cases B m (f s) with ⟨hd', -⟩ | ⟨-, c₁, s₁, n, h₁, heq⟩ |
      ⟨-, e, s₁, n, h₁, heq⟩
    · exact absurd hd' hd
    · cases hdraw.symm.trans h₁
      rw [heq, heq', ToggleChart.dressed_mapHandle]
      rfl
    · cases hdraw.symm.trans h₁
  · rw [hdraw'] at hdraw
    rcases mount_cases B m (f s) with ⟨hd', -⟩ | ⟨-, c₁, s₁, n, h₁, heq⟩ |
      ⟨-, e', s₁, n, h₁, heq⟩
    · exact absurd hd' hd
    · cases hdraw.symm.trans h₁
    · cases hdraw.symm.trans h₁
      rw [heq, heq']
      rfl

/-- A run over a backend is the projection of the run over any backend that
projects to it. -/
theorem run_map (h : B'.Projects B f g) (m : Mounting)
    (requests : List ToggleChart.Request) (s : σ') :
    m.run B requests (f s)
      = ((m.run B' requests s).1.map (ToggleChart.mapHandle g),
        f (m.run B' requests s).2) := by
  have hm := mount_map h m s
  rcases hm' : m.mount B' s with ⟨e | c, s₁, notices⟩
  · rw [hm'] at hm
    simp only [run, hm, hm', Except.map]
    rfl
  · rw [hm'] at hm
    simp only [run, hm, hm', Except.map]
    rw [ToggleChart.serveAll_mapHandle h]
    rfl

end Mounting

end RankedBars
