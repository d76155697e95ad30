import RankedBars.CommandLine
import RankedBars.Proofs.Backend.ChartFile
import RankedBars.Proofs.Toggle.Steady

/-!
# Toggling a chart on the command line

The file of a chart that is toggled is removed and drawn again each time. If
it could be drawn once it always can, since nobody else is there to get in
the way (`Svg.stage_sound`), and so the chart is settled after any number of
toggles. The loop that toggles it stops early only when toggling would do
nothing. What is told about the chart then follows from its mode, and that
from the number of toggles.
-/

namespace RankedBars

open FileTree

namespace Svg

/-- The states in which the file of one container comes and goes. The files
are first as they were found. -/
def stage (settings : Settings) (found made : FileTree) (container : String) :
    Stage Store Handle where
  free s := s.live = [] ∧
    (s.files = found ∨ s.files = made.erase (settings.placeFor made container))
  shows config handle s := handle = ⟨container, settings.pathFor container⟩ ∧
    s = ⟨[container], made.put (settings.placeFor made container)
      (.file (settings.drawing config).toByteArray)⟩

theorem stage_sound {settings : Settings} {found made : FileTree} {container : String}
    (hvalid : isValidContainer container = true)
    (hmade : found.createDirectories settings.directory = (.ok (), made))
    (hroom : HasRoom settings made container) :
    (stage settings found made container).Sound (backend settings) container where
  generate config s hcontainer hfree := by
    subst hcontainer
    obtain ⟨live, files⟩ := s
    obtain ⟨rfl, hfiles⟩ := hfree
    rcases hfiles with rfl | rfl
    · exact ⟨_, _, Store.generate_of_hasRoom hvalid rfl hmade hroom, rfl, rfl⟩
    · have hagain := createDirectories_of_hasDirectory hroom.erase.directory
      refine ⟨_, _, Store.generate_of_hasRoom hvalid rfl hagain hroom.erase, rfl, ?_⟩
      exact congrArg (Store.mk _) put_erase
  destroy config handle s := by
    rintro ⟨rfl, rfl⟩
    refine ⟨_, Store.destroy_of_drawn hvalid hroom _ _, ?_, .inr rfl⟩
    rw [List.filter_cons_of_neg (by simp)]
    rfl

end Svg

namespace CommandLine

open Mounting (Settled)

section

variable {S : Stage Svg.Store Svg.Handle} {B : Backend Svg.Store Svg.Handle} {m : Mounting}
  {r : Rendering} {toggles : Nat}

/-- With more to show, every toggle goes through. -/
theorem toggleTimes_of_expandable (hS : S.Sound B m.container) (hmore : m.Expandable)
    (h : Settled S m toggles r.chart r.store) (n : Nat) :
    ∃ r', toggleTimes B n r = (.ok false, r') ∧
      Settled S m (toggles + n) r'.chart r'.store := by
  induction n generalizing toggles r with
  | zero => exact ⟨r, rfl, h⟩
  | succ n ih =>
      obtain ⟨c, event, s, notices, hactivate, hnext⟩ := h.activate hS hmore
      obtain ⟨r', hrest, hsettled⟩ := ih (r := ⟨c, s, r.notices ++ notices⟩) hnext
      refine ⟨r', ?_, ?_⟩
      · simp only [toggleTimes, hactivate]
        exact hrest
      · rw [show toggles + (n + 1) = toggles + 1 + n by omega]
        exact hsettled

/-- Otherwise the first one finds that out, and nothing happens. -/
theorem toggleTimes_of_not_expandable (hall : ¬ m.Expandable)
    (h : Settled S m toggles r.chart r.store) (n : Nat) :
    toggleTimes B n r = (.ok (decide (0 < n)), r) := by
  cases n with
  | zero => rfl
  | succ n =>
      simp only [toggleTimes, h.activate_of_not_expandable hall, List.append_nil]
      rw [decide_eq_true (Nat.succ_pos n)]

/-- A chart that was mounted is settled after any number of toggles. -/
theorem toggleTimes_of_settled (hS : m.dataset ≠ [] → S.Sound B m.container)
    (h : Settled S m 0 r.chart r.store) (n : Nat) :
    ∃ exhausted r' toggles, toggleTimes B n r = (.ok exhausted, r') ∧
      (exhausted = true ↔ 0 < n ∧ ¬ m.Expandable) ∧
      Settled S m toggles r'.chart r'.store ∧ (Odd toggles ↔ m.Expandable ∧ Odd n) := by
  by_cases hmore : m.Expandable
  · obtain ⟨r', hrun, hsettled⟩ :=
      toggleTimes_of_expandable (hS hmore.dataset_ne_nil) hmore h n
    rw [Nat.zero_add] at hsettled
    exact ⟨false, r', n, hrun, iff_of_false Bool.false_ne_true fun hn => hn.2 hmore, hsettled,
      (and_iff_right hmore).symm⟩
  · refine ⟨decide (0 < n), r, 0, toggleTimes_of_not_expandable hmore h n, ?_, h,
      iff_of_false (by decide) fun hn => hmore hn.1⟩
    rw [decide_eq_true_iff, and_iff_left hmore]

end

/-! ## What is told -/

/-- The mode that a chart ends in. -/
def finalMode (limit : Int) (data : Dataset) (toggles : Nat) : ViewMode :=
  if max limit 0 < data.length ∧ Odd toggles then .all else .topN

/-- The configuration of the chart in the end. -/
def finalConfig (request : RenderRequest) (d : Dashboard) (data : Dataset) : ChartConfig :=
  d.renderer.config (data.view d.limit (finalMode d.limit data request.toggles).showsAll)
    request.container d.paddingLeft

/-- What is told about the chart in the end. -/
def chartLines (path : String) (d : Dashboard) (data : Dataset) (mode : ViewMode) : List String :=
  (if data = [] then "Empty dataset, no chart written"
    else "Wrote " ++ toString (data.view d.limit mode.showsAll).length ++ " bars (" ++ mode.name
      ++ ") to " ++ path)
  :: if max d.limit 0 < data.length then ["Toggle: " ++ d.labels.labelFor mode d.limit] else []

/-- What is told about the configuration. -/
def configLine (data : Dataset) (path : String) : String :=
  if data = [] then "No chart rendered, skipping " ++ path else "Saved chart config to " ++ path

/-- The path of the chart. -/
def RenderRequest.chartPath (request : RenderRequest) : String :=
  FileTree.join request.outDir (request.container ++ ".svg")

/-- All that is told. -/
def report (request : RenderRequest) (d : Dashboard) (data : Dataset) : List String :=
  (if 0 < request.toggles ∧ ¬ max d.limit 0 < data.length
    then ["Nothing to toggle: every entry is already shown"] else [])
  ++ chartLines request.chartPath d data (finalMode d.limit data request.toggles)
  ++ request.emitConfig.toList.map (configLine data)

section

variable {S : Stage Svg.Store Svg.Handle} {d : Dashboard} {data : Dataset} {container : String}
  {c : ToggleChart Svg.Handle} {s : Svg.Store} {toggles : Nat}

theorem filter_clickTarget (control : Option Button) :
    control.filter (fun b => b.clickTarget.isSome)
      = if (control.bind Button.clickTarget).isSome then control else none := by
  cases control with
  | none => rfl
  | some b => rw [Option.filter_some, Option.bind_some]

theorem finalLines_of_settled (h : Settled S (d.mounting data container) toggles c s)
    {path : String} (hpath : ∀ handle, c.handle = some handle → handle.path = path) :
    finalLines c = chartLines path d data c.mode := by
  have hview : c.view = data.view d.limit c.mode.showsAll := h.fits.view
  rw [finalLines, chartLines, filter_clickTarget]
  refine congrArg₂ List.cons ?_ ?_
  · by_cases hnil : data = []
    · rw [if_pos hnil, (h.empty hnil).1]
    · obtain ⟨handle, hheld, -⟩ := h.drawn hnil
      rw [if_neg hnil, hheld, hview, ← hpath handle hheld]
  · by_cases hmore : max d.limit 0 < data.length
    · obtain ⟨b, hb⟩ := h.offered hmore
      rw [if_pos hmore, if_pos (h.clickTarget_isSome_iff.mpr hmore), hb.control]
      dsimp only
      rw [hb.text, ToggleChart.label, h.fits.options]
      rfl
    · rw [if_neg hmore, if_neg (h.clickTarget_isSome_iff.not.mpr hmore)]

end

theorem finalMode_eq {limit : Int} {data : Dataset} {toggles : Nat} {mode : ViewMode}
    (h : mode = .all ↔ max limit 0 < data.length ∧ Odd toggles) :
    mode = finalMode limit data toggles := by
  rw [finalMode]
  split
  · next hall => exact h.mpr hall
  · next htop =>
      cases mode with
      | topN => rfl
      | all => exact absurd (h.mp rfl) htop

/-- What is told in the end is the report. -/
theorem report_eq {S : Stage Svg.Store Svg.Handle} {request : RenderRequest} {d : Dashboard}
    {data : Dataset} {toggles : Nat} {r : Rendering} {exhausted : Bool}
    (hexhausted : exhausted = true ↔
      0 < request.toggles ∧ ¬ (d.mounting data request.container).Expandable)
    (hend : Settled S (d.mounting data request.container) toggles r.chart r.store)
    (hmode : r.chart.mode = finalMode d.limit data request.toggles)
    (hpath : ∀ handle, r.chart.handle = some handle →
      handle.path = request.chartPath) :
    (if exhausted then ["Nothing to toggle: every entry is already shown"] else [])
        ++ finalLines r.chart ++ request.emitConfig.toList.map (configLine data)
      = report request d data := by
  rw [report, finalLines_of_settled hend hpath, hmode]
  refine congrArg (· ++ _ ++ _) ?_
  exact if_congr hexhausted rfl rfl

end CommandLine

end RankedBars
