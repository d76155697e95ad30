import Mathlib.Data.List.Nodup
import RankedBars.Backend

/-!
# Backends that keep a journal

A backend says whether a call succeeded and nothing else: it does not tell
which charts are live, and two of its handles may be equal. So that one can
speak of the charts that were generated and not destroyed yet, `recorded`
puts a journal beside the state of a backend. Every call is written down
with its outcome, and every chart that is generated gets the next number,
which its handle carries along. A call that fails generates nothing and
destroys nothing, so what is live can be read off the journal.

Recording is transparent: the calls end as they do without it, which
`Projection.lean` lifts to everything that is built on a backend. What is
proved here is that numbers do their work. `Numbered` journals never give
one number to two charts, and no call makes a numbered journal another one,
as long as only charts that were generated are destroyed.
-/

namespace RankedBars

variable {σ : Type u} {η : Type v}

/-- A chart that was generated: its number among all that were, the
configuration that was accepted and the handle that was given for it. -/
structure GeneratedChart (η : Type v) where
  number : Nat
  config : ChartConfig
  handle : η

/-- A call of a backend with its outcome. -/
inductive BackendCall (η : Type v)
  | generated (chart : GeneratedChart η)
  | refused (config : ChartConfig) (cause : RenderError)
  | destroyed (chart : GeneratedChart η)
  | kept (chart : GeneratedChart η) (cause : RenderError)

namespace BackendCall

/-- Whether a chart was asked for, with success or without. -/
def isGenerate : BackendCall η → Bool
  | .generated _ | .refused .. => true
  | .destroyed _ | .kept .. => false

def succeeded : BackendCall η → Bool
  | .generated _ | .destroyed _ => true
  | .refused .. | .kept .. => false

@[simp] def generated? : BackendCall η → Option (GeneratedChart η)
  | .generated chart => some chart
  | .refused .. | .destroyed _ | .kept .. => none

@[simp] def destroyed? : BackendCall η → Option (GeneratedChart η)
  | .destroyed chart => some chart
  | .generated _ | .refused .. | .kept .. => none

end BackendCall

/-- The calls of a backend in their order. -/
abbrev Journal (η : Type v) := List (BackendCall η)

namespace Journal

/-- The charts that were generated. -/
def generated (j : Journal η) : List (GeneratedChart η) :=
  j.filterMap BackendCall.generated?

/-- The charts that were destroyed, each as often as that succeeded. -/
def destroyed (j : Journal η) : List (GeneratedChart η) :=
  j.filterMap BackendCall.destroyed?

/-- The charts that were generated and not destroyed yet. -/
def live (j : Journal η) : List (GeneratedChart η) :=
  j.generated.filter fun chart => chart.number ∉ j.destroyed.map (·.number)

theorem mem_live {j : Journal η} {chart : GeneratedChart η} :
    chart ∈ j.live ↔
      chart ∈ j.generated ∧ chart.number ∉ j.destroyed.map (·.number) := by
  rw [live, List.mem_filter, decide_eq_true_eq]

@[simp] theorem generated_concat (j : Journal η) (call : BackendCall η) :
    generated (j ++ [call]) = j.generated ++ call.generated?.toList := by
  rw [generated, List.filterMap_append]
  cases call <;> rfl

@[simp] theorem destroyed_concat (j : Journal η) (call : BackendCall η) :
    destroyed (j ++ [call]) = j.destroyed ++ call.destroyed?.toList := by
  rw [destroyed, List.filterMap_append]
  cases call <;> rfl

@[simp] theorem live_refused (j : Journal η) (config : ChartConfig)
    (cause : RenderError) : live (j ++ [.refused config cause]) = j.live := by
  simp [live]

@[simp] theorem live_kept (j : Journal η) (chart : GeneratedChart η)
    (cause : RenderError) : live (j ++ [.kept chart cause]) = j.live := by
  simp [live]

theorem live_destroyed (j : Journal η) (chart : GeneratedChart η) :
    live (j ++ [.destroyed chart])
      = j.live.filter fun other => other.number ≠ chart.number := by
  rw [live, live, List.filter_filter, generated_concat, destroyed_concat]
  simp only [BackendCall.generated?, BackendCall.destroyed?, Option.toList_none,
    Option.toList_some, List.append_nil, List.map_append, List.map_cons,
    List.map_nil]
  refine List.filter_congr fun other _ => ?_
  rw [Bool.eq_iff_iff]
  simp only [decide_eq_true_eq, Bool.and_eq_true, List.mem_append,
    List.mem_singleton, not_or]
  exact and_comm

/-! ## Numbers

The invariant behind every argument about charts that are told apart: the
numbers given so far are 1, 2, 3 and so on, and whatever was destroyed was
generated before. -/

structure Numbered (j : Journal η) : Prop where
  numbers : j.generated.map (·.number) = List.range' 1 j.generated.length
  known : ∀ chart ∈ j.destroyed, chart ∈ j.generated

namespace Numbered

variable {j : Journal η}

theorem nil : Numbered ([] : Journal η) := ⟨rfl, fun _ h => nomatch h⟩

theorem generated (h : Numbered j) {chart : GeneratedChart η}
    (hn : chart.number = j.generated.length + 1) :
    Numbered (j ++ [.generated chart]) := by
  constructor
  · simp [h.numbers, hn, List.range'_concat, Nat.add_comm 1]
  · intro other hother
    rw [generated_concat]
    exact List.mem_append_left _ (h.known other (by simpa using hother))

theorem refused (h : Numbered j) (config : ChartConfig) (cause : RenderError) :
    Numbered (j ++ [.refused config cause]) :=
  ⟨by simpa using h.numbers, by simpa using h.known⟩

theorem destroyed (h : Numbered j) {chart : GeneratedChart η}
    (hmem : chart ∈ j.generated) : Numbered (j ++ [.destroyed chart]) := by
  constructor
  · simpa using h.numbers
  · intro other hother
    rw [generated_concat]
    rw [destroyed_concat] at hother
    rcases List.mem_append.mp hother with hold | hnew
    · exact List.mem_append_left _ (h.known other hold)
    · cases List.mem_singleton.mp hnew
      exact List.mem_append_left _ hmem

theorem kept (h : Numbered j) (chart : GeneratedChart η) (cause : RenderError) :
    Numbered (j ++ [.kept chart cause]) :=
  ⟨by simpa using h.numbers, by simpa using h.known⟩

theorem number_le (h : Numbered j) {chart : GeneratedChart η}
    (hmem : chart ∈ j.generated) : chart.number ≤ j.generated.length := by
  have hnumber := List.mem_map_of_mem (f := (·.number)) hmem
  rw [h.numbers, List.mem_range'_1] at hnumber
  omega

theorem eq_of_number (h : Numbered j) {chart other : GeneratedChart η}
    (hchart : chart ∈ j.generated) (hother : other ∈ j.generated)
    (hn : chart.number = other.number) : chart = other := by
  have hnodup : (j.generated.map (·.number)).Nodup := by
    rw [h.numbers]
    exact List.nodup_range'
  exact List.inj_on_of_nodup_map hnodup hchart hother hn

/-- A chart with the next number is live once it was generated: nothing of
its number was ever destroyed. -/
theorem live_generated (h : Numbered j) {chart : GeneratedChart η}
    (hn : chart.number = j.generated.length + 1) :
    live (j ++ [.generated chart]) = j.live ++ [chart] := by
  have hfresh : chart.number ∉ j.destroyed.map (·.number) := by
    intro hmem
    obtain ⟨other, hother, heq⟩ := List.mem_map.mp hmem
    have := h.number_le (h.known other hother)
    omega
  rw [live, generated_concat, destroyed_concat]
  simp only [BackendCall.generated?, BackendCall.destroyed?, Option.toList_some,
    Option.toList_none, List.append_nil, List.filter_append]
  rw [List.filter_cons_of_pos (by simpa using hfresh), List.filter_nil]
  rfl

end Numbered

end Journal

/-! ## Recording -/

namespace Backend

/-- The backend with a journal beside its state. A handle is what the journal
knows of a chart. -/
def recorded (B : Backend σ η) : Backend (σ × Journal η) (GeneratedChart η) where
  generate config s :=
    match B.generate config s.1 with
    | (.ok handle, s') =>
        let chart := ⟨s.2.generated.length + 1, config, handle⟩
        (.ok chart, s', s.2 ++ [.generated chart])
    | (.error e, s') => (.error e, s', s.2 ++ [.refused config e])
  destroy chart s :=
    match B.destroy chart.handle s.1 with
    | (.ok (), s') => (.ok (), s', s.2 ++ [.destroyed chart])
    | (.error e, s') => (.error e, s', s.2 ++ [.kept chart e])
  container chart := B.container chart.handle
  notices config chart := B.notices config chart.handle

variable {B : Backend σ η} {s s' : σ × Journal η}

theorem recorded_generate_ok {config : ChartConfig} {chart : GeneratedChart η}
    (h : B.recorded.generate config s = (.ok chart, s')) :
    chart.number = s.2.generated.length + 1 ∧ chart.config = config ∧
      B.generate config s.1 = (.ok chart.handle, s'.1) ∧
      s'.2 = s.2 ++ [.generated chart] := by
  rcases hg : B.generate config s.1 with ⟨e | handle, s₁⟩
  · simp only [recorded, hg] at h
    cases h
  · simp only [recorded, hg] at h
    cases h
    exact ⟨rfl, rfl, rfl, rfl⟩

theorem recorded_generate_error {config : ChartConfig} {e : RenderError}
    (h : B.recorded.generate config s = (.error e, s')) :
    B.generate config s.1 = (.error e, s'.1) ∧ s'.2 = s.2 ++ [.refused config e] := by
  rcases hg : B.generate config s.1 with ⟨e | handle, s₁⟩
  · simp only [recorded, hg] at h
    cases h
    exact ⟨rfl, rfl⟩
  · simp only [recorded, hg] at h
    cases h

theorem recorded_destroy_ok {chart : GeneratedChart η}
    (h : B.recorded.destroy chart s = (.ok (), s')) :
    B.destroy chart.handle s.1 = (.ok (), s'.1) ∧
      s'.2 = s.2 ++ [.destroyed chart] := by
  rcases hd : B.destroy chart.handle s.1 with ⟨e | _, s₁⟩
  · simp only [recorded, hd] at h
    cases h
  · simp only [recorded, hd] at h
    cases h
    exact ⟨rfl, rfl⟩

theorem recorded_destroy_error {chart : GeneratedChart η} {e : RenderError}
    (h : B.recorded.destroy chart s = (.error e, s')) :
    B.destroy chart.handle s.1 = (.error e, s'.1) ∧
      s'.2 = s.2 ++ [.kept chart e] := by
  rcases hd : B.destroy chart.handle s.1 with ⟨e | _, s₁⟩
  · simp only [recorded, hd] at h
    cases h
    exact ⟨rfl, rfl⟩
  · simp only [recorded, hd] at h
    cases h

/-! ### What no call breaks

Each call appends one entry to the journal. Whichever it is, the numbers stay
in order, no chart is forgotten, and the only chart that a call can take from
the live ones is the one that it is to destroy. -/

theorem numbered_recorded_generate (h : s.2.Numbered) (config : ChartConfig) :
    (B.recorded.generate config s).2.2.Numbered := by
  rcases hg : B.recorded.generate config s with ⟨e | chart, s'⟩
  · rw [(recorded_generate_error hg).2]
    exact h.refused config e
  · obtain ⟨hnumber, -, -, hj⟩ := recorded_generate_ok hg
    rw [hj]
    exact h.generated hnumber

theorem numbered_recorded_destroy (h : s.2.Numbered) {chart : GeneratedChart η}
    (hmem : chart ∈ s.2.generated) : (B.recorded.destroy chart s).2.2.Numbered := by
  rcases hd : B.recorded.destroy chart s with ⟨e | _, s'⟩
  · rw [(recorded_destroy_error hd).2]
    exact h.kept chart e
  · rw [(recorded_destroy_ok hd).2]
    exact h.destroyed hmem

theorem generated_recorded_destroy (B : Backend σ η) (chart : GeneratedChart η)
    (s : σ × Journal η) :
    (B.recorded.destroy chart s).2.2.generated = s.2.generated := by
  rcases hd : B.recorded.destroy chart s with ⟨e | _, s'⟩
  · rw [(recorded_destroy_error hd).2]
    simp
  · rw [(recorded_destroy_ok hd).2]
    simp

theorem mem_generated_recorded_generate {chart : GeneratedChart η}
    (hmem : chart ∈ s.2.generated) (config : ChartConfig) :
    chart ∈ (B.recorded.generate config s).2.2.generated := by
  rcases hg : B.recorded.generate config s with ⟨e | new, s'⟩
  · rw [(recorded_generate_error hg).2]
    simpa using hmem
  · rw [(recorded_generate_ok hg).2.2.2, Journal.generated_concat]
    exact List.mem_append_left _ hmem

theorem mem_live_recorded_generate (h : s.2.Numbered) {chart : GeneratedChart η}
    (hmem : chart ∈ s.2.live) (config : ChartConfig) :
    chart ∈ (B.recorded.generate config s).2.2.live := by
  rcases hg : B.recorded.generate config s with ⟨e | new, s'⟩
  · rw [(recorded_generate_error hg).2, Journal.live_refused]
    exact hmem
  · obtain ⟨hnumber, -, -, hj⟩ := recorded_generate_ok hg
    rw [hj, h.live_generated hnumber]
    exact List.mem_append_left _ hmem

theorem mem_live_recorded_destroy (h : s.2.Numbered) {chart other : GeneratedChart η}
    (hchart : chart ∈ s.2.generated) (hmem : other ∈ s.2.live) (hne : other ≠ chart) :
    other ∈ (B.recorded.destroy chart s).2.2.live := by
  rcases hd : B.recorded.destroy chart s with ⟨e | _, s'⟩
  · rw [(recorded_destroy_error hd).2, Journal.live_kept]
    exact hmem
  · rw [(recorded_destroy_ok hd).2, Journal.live_destroyed, List.mem_filter,
      decide_eq_true_eq]
    exact ⟨hmem, fun hn => hne (h.eq_of_number (Journal.mem_live.mp hmem).1 hchart hn)⟩

/-- A chart that was just generated is new and live. -/
theorem new_of_recorded_generate (h : s.2.Numbered) {config : ChartConfig}
    {chart : GeneratedChart η}
    (hg : B.recorded.generate config s = (.ok chart, s')) :
    chart ∉ s.2.generated ∧ chart ∈ s'.2.live ∧ chart.config = config := by
  obtain ⟨hnumber, hconfig, -, hj⟩ := recorded_generate_ok hg
  refine ⟨fun hmem => ?_, ?_, hconfig⟩
  · have := h.number_le hmem
    omega
  · rw [hj, h.live_generated hnumber]
    exact List.mem_append_right _ (List.mem_singleton_self _)

end Backend

end RankedBars
