import RankedBars.Proofs.Chart.Marks
import RankedBars.Proofs.Chart.Truncation

/-!
# Labels in the room that is made for them

A chart without a padding makes room for its widest label and twelve pixels
more. Six of them are the gap between label and bar, so the widest label has
air enough, and the others have all the more. What ends this is the bound of
220 pixels. A label that is cut there would have reached the bound by itself,
therefore its own length decides: in the 214 pixels that are left of it 29
characters fit, or 28 and an ellipsis.
-/

namespace RankedBars.Chart

/-- In the font of the charts a character takes seven pixels and a fifth. -/
theorem widthOfCount_fontSize {n : Nat} (h : n ≤ 30) :
    36 * n ≤ 5 * widthOfCount n fontSize ∧ 5 * widthOfCount n fontSize ≤ 36 * n + 5 := by
  have hnear := widthOfCount_near (n := n) (f := fontSize) (by rw [fontSize]; omega)
  rw [show fontSize = 12 from rfl] at *
  omega

theorem le_widthOfCount_fontSize {n : Nat} (h : 30 ≤ n) : 216 ≤ widthOfCount n fontSize := by
  have hmono := widthOfCount_mono h (Nat.le_refl fontSize)
  have hthirty := widthOfCount_fontSize (Nat.le_refl 30)
  omega

variable {labels : List String} {l : String}

theorem labelArea_eq (labels : List String) (f : Nat) :
    labelArea labels f = max 48 (min 220 (widestLabel labels f + 12)) := by
  have hmost : mostPixels = 4294967295 := rfl
  rw [labelArea]
  omega

theorem textWidth_le_room (h : l ∈ labels) (hshort : l.length ≤ 29) :
    textWidth l fontSize ≤ labelArea labels fontSize - labelGap := by
  have hwidest := textWidth_le_widestLabel fontSize h
  have hown := widthOfCount_fontSize (Nat.le_succ_of_le hshort)
  have hgap : labelGap = 6 := rfl
  rw [labelArea_eq]
  rw [textWidth] at hwidest ⊢
  omega

/-- A label that does not fit has made the room as large as it gets. -/
theorem room_of_long (h : l ∈ labels) (hlong : 30 ≤ l.length) :
    labelArea labels fontSize - labelGap = 214 := by
  have hwidest := textWidth_le_widestLabel fontSize h
  have hown := le_widthOfCount_fontSize hlong
  have hgap : labelGap = 6 := rfl
  rw [labelArea_eq]
  rw [textWidth] at hwidest
  omega

theorem keepFitting_fontSize (cs : List Char) : keepFitting fontSize 214 0 cs = cs.take 28 := by
  have hone := widthOfCount_fontSize (n := 1) (by decide)
  have hword : Nat.pow 2 32 = 4294967296 := rfl
  refine keepFitting_eq_take (m := 28) (fun k _ hk => ?_) (fun _ => ?_) (Nat.zero_le 28)
  · have hpart := widthOfCount_fontSize (n := k) (by omega)
    rw [hword, Nat.mod_eq_of_lt (by omega)]
    omega
  · have hpart := widthOfCount_fontSize (n := 28 + 1) (by decide)
    rw [hword, Nat.mod_eq_of_lt (by omega)]
    omega

theorem truncate_labelArea (h : l ∈ labels) :
    truncate l fontSize (labelArea labels fontSize - labelGap) =
      if l.length ≤ 29 then l else String.ofList (l.toList.take 28 ++ [ellipsis]) := by
  split
  · next hshort => exact truncate_of_le (textWidth_le_room h hshort)
  · next hlong =>
      have hlong : 30 ≤ l.length := Nat.lt_of_not_le hlong
      have hwide : ¬ textWidth l fontSize ≤ 214 := by
        have hown := le_widthOfCount_fontSize hlong
        rw [textWidth]
        omega
      rw [room_of_long h hlong, truncate, if_neg hwide, keepFitting_fontSize]

/-- In a chart without a padding every label is shown by itself: beside the
middle of its bar stands the whole label if it has at most 29 characters, and
its first 28 with an ellipsis otherwise, whatever the other labels are. -/
theorem labels_stand_alone (c : ChartConfig) (locale : Locale) (hpadding : c.paddingLeft = none) :
    (draw c locale).labels = c.bars.mapIdx fun index bar =>
      (rowCenter index,
        if bar.label.length ≤ 29 then bar.label
        else String.ofList (bar.label.toList.take 28 ++ [ellipsis])) := by
  have hroom : labelRoom c = labelArea c.axis.categories fontSize := by
    rw [labelRoom, hpadding]
  rw [labels_draw, hroom, List.mapIdx_eq_mapIdx_iff]
  intro index hindex
  rw [truncate_labelArea (c.mem_of_mem_bars (List.getElem_mem hindex)).1]

/-- Three bars, the labels of which have 29 characters, 30 and one. -/
def longAndShort : ChartConfig :=
  ({} : Renderer).config
    [⟨"openmandriva-rolling-aarch64-", .ofNat 3⟩, ⟨"openmandriva-rolling-aarch64-x", .ofNat 2⟩,
      ⟨"a", .ofNat 1⟩]
    "chroots" none

/-- The label of 30 characters is cut, and it has no effect on the others. -/
theorem labels_stand_alone_beside_a_long_one : longAndShort.paddingLeft = none ∧
    (draw longAndShort .english).labels = [(37, "openmandriva-rolling-aarch64-"),
      (62, "openmandriva-rolling-aarch64…"), (87, "a")] := by
  refine ⟨rfl, ?_⟩
  rw [labels_stand_alone longAndShort .english rfl, longAndShort, Renderer.bars_config]
  decide +kernel

end RankedBars.Chart
