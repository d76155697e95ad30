import RankedBars.Proofs.Chart.LaidOut
import RankedBars.Proofs.Ranking.NotNumbers

/-!
# Bars line up, and expanding only appends

A bar has no place of its own in a configuration. It is what stands at one
index in three lists, and reading the bars off stops where the shortest list
ends. So all depends on the lists being of one length: then they can be had
back from the bars (`Balanced.labels_bars` and its companions), which is to
say that no bar was dropped and none took the color of another.

The configurations of the two modes are made from two rankings of the dataset.
A ranking does not depend on the limit, and the bars of a view are one for each
point, so cutting the view is cutting the bars.

The height is worked out in words, each step of which stops at the largest one.
It comes to the same as stopping once in the end (`heightInWords_eq`).
-/

namespace RankedBars

namespace ChartConfig

/-- The labels and the colors of a configuration are as many as its values. -/
structure Balanced (c : ChartConfig) : Prop where
  labels : c.axis.categories.length = c.barCount
  colors : c.barColors.length = c.barCount

namespace Balanced

variable {c : ChartConfig}

theorem length_zip (h : c.Balanced) :
    (c.axis.categories.zip c.data.values).length = c.barColors.length := by
  have hlabels := h.labels
  have hcolors := h.colors
  rw [barCount] at hlabels hcolors
  rw [List.length_zip]
  omega

theorem labels_bars (h : c.Balanced) : c.bars.map (·.label) = c.axis.categories := by
  calc
    c.bars.map (·.label)
      = (((c.axis.categories.zip c.data.values).zip c.barColors).map Prod.fst).map Prod.fst := by
        simp only [bars, List.map_map]
        rfl
    _ = (c.axis.categories.zip c.data.values).map Prod.fst := by
        rw [List.map_fst_zip (Nat.le_of_eq h.length_zip)]
    _ = c.axis.categories := List.map_fst_zip (Nat.le_of_eq h.labels)

theorem values_bars (h : c.Balanced) : c.bars.map (·.value) = c.data.values := by
  calc
    c.bars.map (·.value)
      = (((c.axis.categories.zip c.data.values).zip c.barColors).map Prod.fst).map Prod.snd := by
        simp only [bars, List.map_map]
        rfl
    _ = (c.axis.categories.zip c.data.values).map Prod.snd := by
        rw [List.map_fst_zip (Nat.le_of_eq h.length_zip)]
    _ = c.data.values := List.map_snd_zip (Nat.le_of_eq h.labels.symm)

theorem colors_bars (h : c.Balanced) : c.bars.map (·.color) = c.barColors := by
  calc
    c.bars.map (·.color)
      = ((c.axis.categories.zip c.data.values).zip c.barColors).map Prod.snd := by
        simp only [bars, List.map_map]
        rfl
    _ = c.barColors := List.map_snd_zip (Nat.le_of_eq h.length_zip.symm)

theorem colorAt?_eq (h : c.Balanced) (index : Nat) :
    c.colorAt? index = c.bars[index]?.map (·.color) := by
  rw [colorAt?, ← h.colors_bars, List.getElem?_map]

theorem colorAt?_eq_none_iff (h : c.Balanced) {index : Nat} :
    c.colorAt? index = none ↔ c.barCount ≤ index := by
  rw [colorAt?, List.getElem?_eq_none_iff, h.colors]

end Balanced

end ChartConfig

namespace Chart

/-- The height worked out step by step, where each step stops at the largest
word. -/
def heightInWords (bars : Nat) : Nat :=
  let count := min bars mostPixels
  let rows := min (count * rowHeight) mostPixels
  max (min (rows + chromeHeight) mostPixels) leastHeight

theorem heightInWords_eq (bars : Nat) : heightInWords bars = (heightOf bars).toNat := by
  have hmost : mostPixels = 2 ^ 32 - 1 := rfl
  have hrow : rowHeight = 25 := rfl
  have hchrome : chromeHeight = 50 := rfl
  have hleast : leastHeight = 100 := rfl
  rw [toNat_heightOf_eq_min]
  simp only [heightInWords, hmost, hrow, hchrome, hleast]
  omega

end Chart

section

variable (r : Renderer) (data : Dataset) (limit : Int) (container : String)
  (paddingLeft : Option UInt32)

theorem balanced_config (view : Dataset) : (r.config view container paddingLeft).Balanced where
  labels := by
    rw [Renderer.barCount_config]
    exact List.length_map _
  colors := by
    rw [Renderer.barCount_config]
    simp [Renderer.config, Dataset.labels]

/-- What a configuration says about its bars is what the view says about its
points. -/
structure LinedUp (view : Dataset) (c : ChartConfig) : Prop where
  count : c.barCount = view.length
  categories : c.axis.categories.length = c.barCount
  values : c.data.values.length = c.barCount
  colors : c.barColors.length = c.barCount
  bars : c.bars = view.map (Chart.barOf r)
  /-- The bars are all that the lists hold. -/
  kept : c.bars.map (·.label) = c.axis.categories ∧ c.bars.map (·.value) = c.data.values ∧
    c.bars.map (·.color) = c.barColors
  colorAt : ∀ index, c.colorAt? index = c.bars[index]?.map (·.color)
  beyond : ∀ index, c.colorAt? index = none ↔ c.barCount ≤ index
  height : c.size.height.toNat = min (max (25 * view.length + 50) 100) (2 ^ 32 - 1)
  inWords : c.size.height.toNat = Chart.heightInWords view.length

theorem linedUp_config (view : Dataset) :
    LinedUp r view (r.config view container paddingLeft) := by
  have hbalanced := balanced_config r container paddingLeft view
  exact {
    count := r.barCount_config view container paddingLeft
    categories := hbalanced.labels
    values := rfl
    colors := hbalanced.colors
    bars := r.bars_config view container paddingLeft
    kept := ⟨hbalanced.labels_bars, hbalanced.values_bars, hbalanced.colors_bars⟩
    colorAt := hbalanced.colorAt?_eq
    beyond := fun _ => hbalanced.colorAt?_eq_none_iff
    height := Chart.toNat_heightOf_eq_min view.length
    inWords := (Chart.heightInWords_eq view.length).symm }

/-- Bars line up, and expanding only appends. Whatever the values of a dataset,
in either mode a chart has one bar for each point of the view, in the order of
the view and colored by its own label, and is as high as so many bars need.
The bars of the mode with the limit are the first ones of the other mode, as
many as there are and as the limit lets through. -/
theorem expanding_only_appends :
    (∀ showAll, LinedUp r (data.view limit showAll)
      (r.config (data.view limit showAll) container paddingLeft)) ∧
    (r.config (data.view limit false) container paddingLeft).bars
      = (r.config (data.view limit true) container paddingLeft).bars.take
          (min data.length (max limit 0).toNat) ∧
    (r.config (data.view limit false) container paddingLeft).bars.length
      = min data.length (max limit 0).toNat ∧
    (r.config (data.view limit true) container paddingLeft).bars.length = data.length := by
  refine ⟨fun showAll => linedUp_config r container paddingLeft _, ?_, ?_, ?_⟩
  · have hwhole : data.view limit true = data.ranked := if_pos rfl
    have hcut : data.view limit false = data.ranked.take (Dataset.visibleCount limit) := rfl
    rw [r.bars_config, r.bars_config, hwhole, hcut, List.map_take, List.take_eq_take_iff,
      List.length_map, Dataset.length_ranked, Dataset.visibleCount_eq]
    omega
  · rw [r.bars_config, List.length_map, Dataset.length_view_eq]
    rfl
  · rw [r.bars_config, List.length_map, Dataset.length_view_eq]
    rfl

end

end RankedBars
