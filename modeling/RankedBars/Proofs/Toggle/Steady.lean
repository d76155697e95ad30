import Mathlib.Algebra.Ring.Parity
import RankedBars.Dashboard
import RankedBars.Proofs.Toggle.Control

/-!
# Charts over a backend that does its part

Where a chart in one container can always be destroyed and another one drawn
in its place, a toggle chart never fails, and the mode, the control and what
is live all follow from how often it was toggled. A `Stage` says what the
states of such a backend are, with and without a chart, and `Sound` that the
two calls lead from one to the other.

`Settled` is what mounting leaves and what every activation that does
something carries one further. With nothing more to show an activation does
nothing at all, so a chart that was toggled is settled either way.
-/

namespace RankedBars

variable {σ : Type u} {η : Type v}

/-- The states of a backend in which one container is free, and those in which
a chart is live there under a handle. -/
structure Stage (σ : Type u) (η : Type v) where
  free : σ → Prop
  shows : ChartConfig → η → σ → Prop

/-- Charts come and go as they are asked to. -/
structure Stage.Sound (S : Stage σ η) (B : Backend σ η) (container : String) : Prop where
  generate : ∀ config s, config.container = container → S.free s →
    ∃ handle s', B.generate config s = (.ok handle, s') ∧ S.shows config handle s'
  destroy : ∀ config handle s, S.shows config handle s →
    ∃ s', B.destroy handle s = (.ok (), s') ∧ S.free s'

/-- What a dashboard mounts for a dataset, with a control that is new. -/
def Dashboard.mounting (d : Dashboard) (data : Dataset) (container : String) : Mounting where
  renderer := d.renderer
  dataset := data
  container := container
  control := some {}
  options := d.mountOptions

namespace Mounting

open ToggleChart

/-- Whether the control has something to offer. -/
def Expandable (m : Mounting) : Prop := max m.options.limit 0 < m.dataset.length

theorem Expandable.dataset_ne_nil {m : Mounting} (h : m.Expandable) : m.dataset ≠ [] := by
  intro hnil
  rw [Expandable, hnil, List.length_nil] at h
  omega

theorem Fits.isExpandable_iff {m : Mounting} {c : ToggleChart η} (h : m.Fits c) :
    c.isExpandable = true ↔ m.Expandable := by
  rw [ToggleChart.isExpandable_iff, h.dataset, h.options, Expandable]

/-- A chart that was toggled a number of times, with the state that it draws
in. -/
structure Settled (S : Stage σ η) (m : Mounting) (toggles : Nat) (c : ToggleChart η) (s : σ) :
    Prop where
  fits : m.Fits c
  mode : c.mode = .all ↔ Odd toggles
  offered : m.Expandable → ∃ b, Offered c b
  hidden : ¬ m.Expandable → c.control.bind Button.clickTarget = none
  drawn : m.dataset ≠ [] → ∃ handle, c.handle = some handle ∧ S.shows c.config handle s
  empty : m.dataset = [] → c.handle = none ∧ S.free s

variable {S : Stage σ η} {B : Backend σ η} {m : Mounting} {c : ToggleChart η} {s : σ}
  {toggles : Nat}

theorem draw_of_free (hS : S.Sound B m.container) (hfits : m.Fits c) (hfree : S.free s) :
    ∃ handle s' notices, c.draw B s = (.ok { c with handle := some handle }, s', notices) ∧
      S.shows c.config handle s' := by
  obtain ⟨handle, s', hcall, hshows⟩ := hS.generate c.config s hfits.container hfree
  rcases draw_cases B c s with ⟨handle', s₁, notices, hg, hdraw⟩ | ⟨e, s₁, notices, hg, hdraw⟩
  · cases hcall.symm.trans hg
    exact ⟨handle, s', notices, hdraw, hshows⟩
  · cases hcall.symm.trans hg

/-- What is drawn first is settled once its control is seen to. -/
theorem settled_dressed (hne : m.dataset ≠ []) (hcontrol : m.control = some {}) {handle : η}
    (hshows : S.shows (m.blank : ToggleChart η).config handle s) :
    Settled S m 0 (m.holding (some handle)).dressed s := by
  have hfits : m.Fits (m.holding (some handle)) := ⟨rfl, rfl, rfl, rfl⟩
  constructor
  case fits => exact hfits.dressed
  case mode =>
    obtain ⟨_, _, _, heq⟩ := dressed_eq (m.holding (some handle))
    rw [heq]
    exact iff_of_false nofun (by decide)
  case offered =>
    intro hmore
    rw [dressed, if_pos (hfits.isExpandable_iff.mpr hmore)]
    exact Offered.offer hcontrol rfl rfl
  case hidden =>
    intro hall
    rw [dressed, if_neg (hfits.isExpandable_iff.not.mpr hall), hideControl, holding, blank,
      hcontrol]
    rfl
  case drawn =>
    intro _
    rw [handle_dressed, config_dressed]
    exact ⟨handle, rfl, hshows⟩
  case empty => exact fun hnil => absurd hnil hne

/-- Mounting goes through. -/
theorem settled_mount (hS : m.dataset ≠ [] → S.Sound B m.container) (hfree : S.free s)
    (hcontrol : m.control = some {}) :
    ∃ c s' notices, m.mount B s = (.ok c, s', notices) ∧ Settled S m 0 c s' := by
  rcases mount_cases B m s with ⟨hnil, heq⟩ | ⟨hne, c, s', notices, hdraw, heq⟩ |
    ⟨hne, e, s', notices, hdraw, heq⟩
  · refine ⟨_, _, _, heq, ⟨rfl, rfl, rfl, rfl⟩, iff_of_false nofun (by decide),
      fun hmore => absurd hnil hmore.dataset_ne_nil, fun _ => ?_, absurd hnil,
      fun _ => ⟨rfl, hfree⟩⟩
    rw [hideControl, blank, hcontrol]
    rfl
  · obtain ⟨handle, s₁, n, hdrawn, hshows⟩ := draw_of_free (hS hne) (Fits.blank (m := m)) hfree
    cases hdrawn.symm.trans hdraw
    exact ⟨_, _, _, heq, settled_dressed hne hcontrol hshows⟩
  · obtain ⟨handle, s₁, n, hdrawn, -⟩ := draw_of_free (hS hne) (Fits.blank (m := m)) hfree
    cases hdrawn.symm.trans hdraw

namespace Settled

/-- A settled chart gives up what it has, if it has anything. -/
theorem release (h : Settled S m toggles c s) (hS : m.dataset ≠ [] → S.Sound B m.container) :
    ∃ c' s', c.release B s = (.ok c', s') ∧ S.free s' := by
  by_cases hnil : m.dataset = []
  · obtain ⟨hnone, hfree⟩ := h.empty hnil
    exact ⟨c, s, release_of_handle_eq_none B hnone s, hfree⟩
  · obtain ⟨handle, hheld, hshows⟩ := h.drawn hnil
    obtain ⟨s', hcall, hfree⟩ := (hS hnil).destroy _ _ _ hshows
    exact ⟨{ c with handle := none }, s', by simp only [ToggleChart.release, hheld, hcall], hfree⟩

theorem unmount (h : Settled S m toggles c s) (hS : m.dataset ≠ [] → S.Sound B m.container) :
    ∃ control s', c.unmount B s = (.ok control, s') ∧ S.free s' := by
  obtain ⟨c', s', hrelease, hfree⟩ := h.release hS
  exact ⟨_, s', by rw [ToggleChart.unmount, hrelease], hfree⟩

/-- An activation shows the other mode. -/
theorem activate (h : Settled S m toggles c s) (hS : S.Sound B m.container)
    (hmore : m.Expandable) :
    ∃ c' event s' notices, c.activate B s = ⟨.ok true, c', event, s', notices⟩ ∧
      Settled S m (toggles + 1) c' s' := by
  obtain ⟨b, hb⟩ := h.offered hmore
  obtain ⟨handler, hhandler⟩ := Option.isSome_iff_exists.mp hb.listening
  obtain ⟨c₁, s₁, hrelease, hfree⟩ := h.release fun _ => hS
  obtain ⟨rfl, hreleased⟩ := release_ok hrelease
  have hfits : m.Fits ({ c with handle := none } : ToggleChart η).advance :=
    (h.fits.moves hreleased).moves (.single (.advanced (B := B) rfl))
  obtain ⟨new, s', notices, hdraw, hshown⟩ := draw_of_free hS hfits hfree
  have hactivate : c.activate B s = c.click B handler {} s := by
    rw [ToggleChart.activate, hb.control, Option.bind_some, Button.clickTarget, if_pos hb.visible,
      hb.bound, hhandler]
  have hmoves := moves_serve B c s .activate
  rw [serve, hactivate] at hmoves
  rw [hactivate]
  rcases click_cases B c handler {} s with ⟨hne, -⟩ | ⟨-, e, s₂, hrel, -⟩ |
    ⟨-, c₂, s₂, e, s₃, n, hrel, hdr, -⟩ | ⟨-, c₂, s₂, c₃, s₃, n, hrel, hdr, heq⟩
  · exact absurd hhandler hne
  · cases hrelease.symm.trans hrel
  · cases hrelease.symm.trans hrel
    cases hdraw.symm.trans hdr
  · cases hrelease.symm.trans hrel
    cases hdraw.symm.trans hdr
    rw [heq] at hmoves ⊢
    refine ⟨_, _, _, _, rfl, h.fits.moves hmoves, ?_, fun _ => ?_, absurd hmore,
      fun _ => ⟨new, rfl, hshown⟩, fun hnil => absurd hnil hmore.dataset_ne_nil⟩
    · show ToggleChart.mode (advance _) = .all ↔ _
      rw [mode_advance, Nat.odd_add_one, ← h.mode]
      cases c.mode with
      | topN => decide
      | all => decide
    · exact hmoves.preserve (P := fun p => ∃ b, Offered p.1 b) Offered.move ⟨b, hb⟩

/-- The control can be clicked exactly if there is more to show. -/
theorem clickTarget_isSome_iff (h : Settled S m toggles c s) :
    (c.control.bind Button.clickTarget).isSome = true ↔ m.Expandable := by
  by_cases hmore : m.Expandable
  · obtain ⟨b, hb⟩ := h.offered hmore
    rw [hb.control, Option.bind_some, Button.clickTarget, if_pos hb.visible, hb.bound]
    exact iff_of_true hb.listening hmore
  · rw [h.hidden hmore]
    exact iff_of_false Bool.false_ne_true hmore

/-- With nothing to offer, an activation does nothing. -/
theorem activate_of_not_expandable (h : Settled S m toggles c s) (hall : ¬ m.Expandable) :
    c.activate B s = ⟨.ok false, c, {}, s, []⟩ := by
  rw [ToggleChart.activate, h.hidden hall]

end Settled

end Mounting

end RankedBars
