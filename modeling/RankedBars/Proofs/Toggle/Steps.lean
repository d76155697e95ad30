import RankedBars.Proofs.Toggle.Run

/-!
# What a failed operation leaves behind

Mounting and clicking are functions, and where they fail they return less
than where they succeed: of a chart that could not be mounted nothing is
returned, not even its control, which somebody else may hold. So that one can
say what becomes of all parts, this module writes the two operations down a
second time, as steps that change a chart and the state of a backend in
place. A step that fails ends the operation where it stands, and what the
steps before it have changed stays changed, because nobody undoes it.

`Mounting.carryOut_steps` and `carryOut_clickSteps` say that the functions come
to the same. They are what makes the steps trustworthy: the order is that of
the functions, and the only steps that can fail are destroying and drawing.
-/

namespace RankedBars

variable {σ : Type u} {η : Type v}

namespace ToggleChart

/-- One step of an operation. It may fail, and in either case it leaves a
chart and a state. -/
abbrev Step (σ : Type u) (η : Type v) :=
  ToggleChart η × σ → Except RenderError Unit × ToggleChart η × σ

/-- Takes steps in turn, up to the first one that fails. -/
def carryOut : List (Step σ η) → Step σ η
  | [], p => (.ok (), p)
  | step :: rest, p =>
      match step p with
      | (.ok (), p) => carryOut rest p
      | (.error e, p) => (.error e, p)

namespace Step

/-- A step that cannot fail and does not reach the backend. -/
def change (f : ToggleChart η → ToggleChart η) : Step σ η := fun p => (.ok (), f p.1, p.2)

/-- Destroys the live chart, if there is one, and forgets its handle. -/
def destroy (B : Backend σ η) : Step σ η := fun (c, s) =>
  match c.handle with
  | none => (.ok (), c, s)
  | some handle =>
      match B.destroy handle s with
      | (.ok (), s) => (.ok (), { c with handle := none }, s)
      | (.error e, s) => (.error e, c, s)

/-- Asks for the chart of the view and remembers its handle. -/
def generate (B : Backend σ η) : Step σ η := fun (c, s) =>
  match B.generate c.config s with
  | (.ok handle, s) => (.ok (), { c with handle := some handle }, s)
  | (.error e, s) => (.error e, c, s)

def showControl : ToggleChart η → ToggleChart η := fun c =>
  { c with control := c.control.map fun b => { b with visible := true } }

def flipMode : ToggleChart η → ToggleChart η := fun c => { c with mode := c.mode.flipped }

end Step

open Step

/-- What a click on the bound handler does. -/
def clickSteps (B : Backend σ η) : List (Step σ η) :=
  [destroy B, change flipMode, change relabel, change rebind, generate B]

theorem carryOut_of_ok {step : Step σ η} {p q : ToggleChart η × σ} (h : step p = (.ok (), q))
    (rest : List (Step σ η)) : carryOut (step :: rest) p = carryOut rest q := by
  rw [carryOut, h]

theorem carryOut_of_error {step : Step σ η} {p q : ToggleChart η × σ} {e : RenderError}
    (h : step p = (.error e, q)) (rest : List (Step σ η)) :
    carryOut (step :: rest) p = (.error e, q) := by
  rw [carryOut, h]

section

variable (B : Backend σ η) (c : ToggleChart η) (s : σ)

theorem destroy_eq : destroy B (c, s) = match c.release B s with
    | (.ok c', s') => (.ok (), c', s')
    | (.error e, s') => (.error e, c, s') := by
  rcases release_cases B c s with ⟨hc, heq⟩ | ⟨handle, s', hc, hd, heq⟩ |
    ⟨handle, e, s', hc, hd, heq⟩
  · simp only [heq, destroy, hc]
  · simp only [heq, destroy, hc, hd]
  · simp only [heq, destroy, hc, hd]

theorem generate_eq : generate B (c, s) = match c.draw B s with
    | (.ok c', s', _) => (.ok (), c', s')
    | (.error e, s', _) => (.error e, c, s') := by
  rcases draw_cases B c s with ⟨handle, s', n, hg, heq⟩ | ⟨e, s', n, hg, heq⟩
  · simp only [heq, generate, hg]
  · simp only [heq, generate, hg]

end

variable {B : Backend σ η} {c : ToggleChart η} {handler : HandlerId}

/-- A click on the bound handler comes to what its steps come to. -/
theorem carryOut_clickSteps (h : c.handler = some handler) (event : ClickEvent) (s : σ) :
    carryOut (clickSteps B) (c, s) = ((c.click B handler event s).result.map fun _ => (),
      (c.click B handler event s).chart, (c.click B handler event s).state) := by
  have hadvance (c₁ : ToggleChart η) (s₁ : σ) : carryOut [change flipMode, change relabel,
      change rebind, generate B] (c₁, s₁) = carryOut [generate B] (c₁.advance, s₁) := rfl
  have hdestroy := destroy_eq B c s
  rw [clickSteps]
  rcases click_cases B c handler event s with ⟨hne, -⟩ | ⟨-, e, s', hr, heq⟩ |
    ⟨-, c₁, s₁, e, s', n, hr, hd, heq⟩ | ⟨-, c₁, s₁, c', s', n, hr, hd, heq⟩
  · exact absurd h hne
  · rw [hr] at hdestroy
    rw [carryOut_of_error hdestroy, heq]
    rfl
  · rw [hr] at hdestroy
    have hgenerate := generate_eq B c₁.advance s₁
    rw [hd] at hgenerate
    rw [carryOut_of_ok hdestroy, hadvance, carryOut_of_error hgenerate, heq]
    rfl
  · rw [hr] at hdestroy
    have hgenerate := generate_eq B c₁.advance s₁
    rw [hd] at hgenerate
    rw [carryOut_of_ok hdestroy, hadvance, carryOut_of_ok hgenerate, heq]
    rfl

end ToggleChart

namespace Mounting

open ToggleChart Step

/-- What mounting does, beginning with the chart as it was given. -/
def steps (B : Backend σ η) (m : Mounting) : List (Step σ η) :=
  if m.dataset.isEmpty then [change hideControl]
  else if (m.blank : ToggleChart η).isExpandable then
    [generate B, change showControl, change relabel, change rebind]
  else [generate B, change hideControl]

/-- Mounting comes to what its steps come to. If it fails, the chart and with
it the control are as they were given. -/
theorem carryOut_steps (B : Backend σ η) (m : Mounting) (s : σ) :
    carryOut (m.steps B) (m.blank, s) = match m.mount B s with
      | (.ok c, s', _) => (.ok (), c, s')
      | (.error e, s', _) => (.error e, m.blank, s') := by
  have hgenerate := generate_eq B (m.blank : ToggleChart η) s
  rcases mount_cases B m s with ⟨hd, heq⟩ | ⟨hd, c, s', n, hdraw, heq⟩ |
    ⟨hd, e, s', n, hdraw, heq⟩
  · rw [heq, steps, if_pos (List.isEmpty_iff.mpr hd)]
    rfl
  · have hne : ¬ m.dataset.isEmpty = true := fun h => hd (List.isEmpty_iff.mp h)
    obtain ⟨⟨handle, hc⟩, -⟩ := draw_ok rfl hdraw
    have hsame : c.isExpandable = (m.blank : ToggleChart η).isExpandable := by rw [hc]; rfl
    rw [hdraw] at hgenerate
    rw [heq, steps, if_neg hne, dressed, hsame]
    split
    · rw [carryOut_of_ok hgenerate]
      rfl
    · rw [carryOut_of_ok hgenerate]
      rfl
  · have hne : ¬ m.dataset.isEmpty = true := fun h => hd (List.isEmpty_iff.mp h)
    rw [hdraw] at hgenerate
    rw [heq, steps, if_neg hne]
    split
    · exact carryOut_of_error hgenerate _
    · exact carryOut_of_error hgenerate _

end Mounting

end RankedBars
