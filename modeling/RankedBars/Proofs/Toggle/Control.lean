import Mathlib.Algebra.Group.Nat.Even
import RankedBars.Backend.Scripted
import RankedBars.Proofs.Toggle.Run

/-!
# The control and the mode

A mode, a label, the handler that a control is bound to and the one that the
toggle chart listens to are four things, and a click changes them one after
the other between two calls that can fail. They never fall apart.

There are three kinds of toggle charts, told apart when they are mounted and
for good. A control is `Offered` while the dataset has more points than the
limit lets through; then every move keeps text, handler and parity of the
bindings in step with the mode, since only `advance` touches any of them and
it touches all. Otherwise the control is hidden and nothing is bound, and
without a control nothing ever is. Of the last two no more is needed than
that no handler is bound: all requests are ignored, so nothing moves.
-/

namespace RankedBars

variable {σ : Type u} {η : Type v}

namespace ToggleChart

/-- A control that offers the mode which the chart is not in. It was bound
an even number of times if that is the smaller one. -/
structure Offered (c : ToggleChart η) (b : Button) : Prop where
  control : c.control = some b
  visible : b.visible = true
  bound : b.handler = c.handler
  listening : c.handler.isSome = true
  text : b.text = c.label
  parity : c.mode = .all ↔ Even b.rebinds

theorem Offered.offer {c : ToggleChart η} {b : Button} (h : c.control = some b)
    (hmode : c.mode = .topN) (hfresh : b.rebinds = 0) : ∃ b', Offered c.offer b' := by
  rw [offer_of_control_eq_some h]
  refine ⟨_, rfl, rfl, rfl, rfl, rfl, ?_⟩
  show c.mode = .all ↔ Even (b.rebinds + 1)
  rw [hmode, hfresh]
  decide

theorem Offered.advance {c : ToggleChart η} {b : Button} (h : Offered c b) :
    ∃ b', Offered c.advance b' := by
  rw [advance_of_control_eq_some h.control]
  refine ⟨_, rfl, h.visible, rfl, rfl, rfl, ?_⟩
  show c.mode.flipped = .all ↔ Even (b.rebinds + 1)
  rw [Nat.even_add_one, ← h.parity]
  cases c.mode with
  | topN => decide
  | all => decide

theorem Offered.move {B : Backend σ η} {p q : ToggleChart η × σ}
    (hmove : Move B p q) (h : ∃ b, Offered p.1 b) : ∃ b, Offered q.1 b := by
  obtain ⟨b, h⟩ := h
  cases hmove with
  | destroyed | generated =>
      exact ⟨b, h.control, h.visible, h.bound, h.listening, h.text, h.parity⟩
  | kept | refused => exact ⟨b, h⟩
  | advanced => exact h.advance

end ToggleChart

namespace Mounting

open ToggleChart

section

variable {B : Backend σ η} {m : Mounting} {requests : List Request} {s s' : σ}
  {c : ToggleChart η}

theorem offered_of_run (h : m.run B requests s = (some c, s')) {b : Button}
    (hcontrol : m.control = some b) (hfresh : b.rebinds = 0)
    (hmore : max m.options.limit 0 < m.dataset.length) : ∃ b, Offered c b := by
  obtain ⟨handle, s₀, -, hserved⟩ := moves_of_run h
  rw [dressed, if_pos (isExpandable_iff.mpr hmore)] at hserved
  exact hserved.preserve (P := fun p => ∃ b, Offered p.1 b) Offered.move
    (Offered.offer hcontrol rfl hfresh)

/-- With nothing more to show, the chart stays as it was mounted. -/
theorem hidden_of_run (h : m.run B requests s = (some c, s'))
    (hall : ¬ max m.options.limit 0 < m.dataset.length) :
    ∃ handle, c = (m.holding handle).hideControl := by
  obtain ⟨c₀, s₀, notices, hmount, hserve⟩ := run_eq_some h
  obtain ⟨handle, rfl, -, -⟩ := mount_ok hmount
  rw [dressed, if_neg (isExpandable_iff.not.mpr hall),
    serveAll_of_handler_eq_none B s₀ requests (handler_hideControl _)] at hserve
  cases hserve
  exact ⟨handle, rfl⟩

theorem handler_of_run_without_control (h : m.run B requests s = (some c, s'))
    (hcontrol : m.control = none) : c.handler = none := by
  obtain ⟨c₀, s₀, notices, hmount, hserve⟩ := run_eq_some h
  obtain ⟨handle, rfl, -, -⟩ := mount_ok hmount
  have hnone : (m.holding handle).dressed.handler = none := by
    rw [dressed]
    split
    · rw [offer_of_control_eq_none hcontrol]
      rfl
    · rfl
  rw [serveAll_of_handler_eq_none B s₀ requests hnone] at hserve
  cases hserve
  exact hnone

end

/-- Control, handler and mode agree in every state of every run. A control
that was new when it was mounted is always bound to the handler that the
toggle chart listens to. If there is more to show, it is visible, bound and
labelled for the mode, which is the larger one exactly if it was bound an
even number of times; this holds after clicks of any outcome. If there is
not, it is hidden, the mode is the first one and every request is ignored,
as it is without a control. -/
theorem control_agrees (B : Backend σ η) (m : Mounting) (requests : List Request)
    (s s' : σ) (c : ToggleChart η) (h : m.run B requests s = (some c, s')) :
    (∀ text, m.control = some { text } →
      ∃ b, c.control = some b ∧ b.handler = c.handler ∧
        (max m.options.limit 0 < m.dataset.length →
          b.visible = true ∧ b.handler.isSome = true ∧
          b.text = m.options.labels.labelFor c.mode m.options.limit ∧
          (c.mode = .all ↔ Even b.rebinds)) ∧
        (m.dataset.length ≤ max m.options.limit 0 →
          b.visible = false ∧ b.handler = none ∧ c.mode = .topN ∧
          ∀ r, c.Ignores B s' r)) ∧
    (m.control = none → ∀ r, c.Ignores B s' r) := by
  constructor
  · intro text hcontrol
    by_cases hmore : max m.options.limit 0 < m.dataset.length
    · obtain ⟨b, hb⟩ := offered_of_run h hcontrol rfl hmore
      refine ⟨b, hb.control, hb.bound, fun _ => ⟨hb.visible, ?_, ?_, hb.parity⟩, ?_⟩
      · rw [hb.bound]
        exact hb.listening
      · rw [hb.text, label, (Fits.of_run h).options]
      · intro hle
        omega
    · obtain ⟨handle, rfl⟩ := hidden_of_run h hmore
      have hhidden : (m.holding handle).hideControl.control
          = some ({ text } : Button).hide := by
        rw [hideControl, holding, blank, hcontrol]
        rfl
      refine ⟨_, hhidden, rfl, fun hlt => absurd hlt hmore, fun _ => ⟨rfl, rfl, rfl, ?_⟩⟩
      exact fun r => ignores_of_handler_eq_none B s' r (handler_hideControl _)
  · intro hcontrol r
    exact ignores_of_handler_eq_none B s' r (handler_of_run_without_control h hcontrol)

/-- A click that failed in generating leaves a control that offers what the
next click will show. -/
theorem control_agrees_after_refusal :
    ∃ c s' b, threePoints.run Scripted.backend [.activate] { failGenerateAt := [2] }
        = (some c, s') ∧ c.isLive = false ∧ c.mode = .all ∧
      c.control = some b ∧ b.handler = c.handler ∧ b.visible = true ∧
      b.handler.isSome = true ∧
      b.text = threePoints.options.labels.labelFor c.mode threePoints.options.limit ∧
      (c.mode = .all ↔ Even b.rebinds) := by
  obtain ⟨hcontrol, -⟩ := control_agrees Scripted.backend threePoints [.activate]
    { failGenerateAt := [2] } _ _ rfl
  obtain ⟨b, hb, hbound, hoffered, -⟩ := hcontrol "" rfl
  exact ⟨_, _, b, rfl, rfl, rfl, hb, hbound, hoffered (by decide)⟩

end Mounting

end RankedBars
