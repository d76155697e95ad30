import RankedBars.Proofs.Chart.BarLength
import RankedBars.Proofs.Chart.LabelRoom

/-!
# Positions that do not wrap around

Positions are signed words, and the room left of the bars is an unsigned one.
Beside what is drawn of a bar stands here where it belongs (`exactMarks`), and
that each number that is worked out for it on the way is a signed word as it
is (`Placed`).

Rows never come near the end of a word: 85 million of them stay below it. So
all depends on how far a bar goes to the right, with its value beside it, and
that is the condition of `nothing_wraps_iff`. It can fail, as the room left of
the bars is not bounded by anything. Then the bars start to the left of the
canvas.
-/

namespace RankedBars.Chart

/-- A number is one of the signed words of 32 bits. -/
def FitsWord (n : Int) : Prop := -2 ^ 31 ≤ n ∧ n < 2 ^ 31

instance (n : Int) : Decidable (FitsWord n) := inferInstanceAs (Decidable (_ ∧ _))

theorem pixel_of_fitsWord {n : Int} (h : FitsWord n) : pixel n = n := by
  have hword : Nat.pow 2 32 = 4294967296 := by decide
  rw [FitsWord] at h
  rw [pixel, hword]
  exact Int.bmod_eq_of_le (by omega) (by omega)

/-- Where the middle of a row belongs. -/
def exactCenter (index : Nat) : Int :=
  (chromeHeight / 2 + index * rowHeight + rowHeight / 2 : Nat)

/-- Where the rectangle of a bar belongs. -/
def exactBox (l : Layout) (index : Nat) (bar : Bar) : Box where
  left := l.labelRoom
  top := exactCenter index - barThickness / 2
  right := l.labelRoom + barLength l.largest l.plotWidth bar.value
  bottom := exactCenter index - barThickness / 2 + barThickness

/-- Where the marks of a bar belong. -/
def exactMarks (l : Layout) (locale : Locale) (valueShown : Bool) (index : Nat) (bar : Bar) :
    List Mark :=
  let box := exactBox l index bar
  let label := truncate bar.label fontSize (l.labelRoom - labelGap)
  [.rectangle box.left box.top box.right box.bottom bar.color,
    .text (box.left - labelGap) (exactCenter index) .finish label] ++
  if valueShown then
    [.text (box.right + valueGap) (exactCenter index) .start (locale.format bar.value)]
  else []

/-- Every number that is worked out to place the marks of a bar fits. -/
structure Placed (l : Layout) (valueShown : Bool) (index : Nat) (bar : Bar) : Prop where
  number : FitsWord index
  offset : FitsWord (index * rowHeight : Nat)
  row : FitsWord (chromeHeight / 2 + index * rowHeight : Nat)
  center : FitsWord (exactCenter index)
  length : FitsWord (barLength l.largest l.plotWidth bar.value)
  left : FitsWord (exactBox l index bar).left
  top : FitsWord (exactBox l index bar).top
  right : FitsWord (exactBox l index bar).right
  bottom : FitsWord (exactBox l index bar).bottom
  label : FitsWord ((exactBox l index bar).left - labelGap)
  value : valueShown = true → FitsWord ((exactBox l index bar).right + valueGap)

/-- Nothing that is worked out for a chart wraps around. -/
def NothingWraps (c : ChartConfig) : Prop :=
  ∀ index bar, c.bars[index]? = some bar → Placed (layout c) c.dataLabels index bar

variable {c : ChartConfig} {l : Layout} {locale : Locale} {valueShown : Bool} {index : Nat}
  {bar : Bar}

namespace Placed

theorem boxOf_eq (h : Placed l valueShown index bar) :
    boxOf l index bar = exactBox l index bar := by
  have hcenter : rowCenter index = exactCenter index := pixel_of_fitsWord h.center
  have hleft : pixel l.labelRoom = l.labelRoom := pixel_of_fitsWord h.left
  have htop := pixel_of_fitsWord h.top
  have hright := pixel_of_fitsWord h.right
  have hbottom := pixel_of_fitsWord h.bottom
  simp only [exactBox] at htop hright hbottom ⊢
  rw [boxOf, hcenter, hleft, htop, hright, hbottom]

theorem barMarks_eq (h : Placed l valueShown index bar) :
    barMarks l locale valueShown index bar = exactMarks l locale valueShown index bar := by
  have hbox := h.boxOf_eq
  have hcenter : rowCenter index = exactCenter index := pixel_of_fitsWord h.center
  have hleft : pixel l.labelRoom = l.labelRoom := pixel_of_fitsWord h.left
  have hlabel : pixel (l.labelRoom - labelGap) = l.labelRoom - labelGap :=
    pixel_of_fitsWord h.label
  simp only [boxOf, exactBox, Box.mk.injEq, hcenter, hleft] at hbox
  obtain ⟨-, htop, hright, hbottom⟩ := hbox
  rw [htop] at hbottom
  simp only [barMarks, exactMarks, exactBox, hcenter, hleft, hlabel, htop, hright, hbottom]
  split
  · next hshown =>
      have hvalue : pixel (l.labelRoom + barLength l.largest l.plotWidth bar.value + valueGap)
          = l.labelRoom + barLength l.largest l.plotWidth bar.value + valueGap :=
        pixel_of_fitsWord (h.value hshown)
      rw [hvalue]
  · rfl

end Placed

/-! ## What fits -/

/-- Where the rectangle of a bar ends on the right, or else where its value
starts. -/
def reach (l : Layout) (valueShown : Bool) (bar : Bar) : Int :=
  l.labelRoom + barLength l.largest l.plotWidth bar.value + if valueShown then valueGap else 0

theorem exactCenter_eq (index : Nat) : exactCenter index = 25 * index + 37 := by
  have hchrome : chromeHeight = 50 := rfl
  have hrow : rowHeight = 25 := rfl
  rw [exactCenter, hchrome, hrow]
  omega

theorem le_reach (l : Layout) (valueShown : Bool) (bar : Bar) :
    l.labelRoom + barLength l.largest l.plotWidth bar.value ≤ reach l valueShown bar := by
  have hgap : valueGap = 4 := rfl
  rw [reach]
  split <;> omega

/-- In one of the first 85 million rows it is only the right end of a bar that
may not fit. -/
theorem placed_iff (hindex : index < 85000000) :
    Placed l valueShown index bar ↔ reach l valueShown bar < 2 ^ 31 := by
  constructor
  · intro h
    have hright := h.right.2
    have hvalue (hshown : valueShown = true) := (h.value hshown).2
    simp only [exactBox] at hright hvalue
    rw [reach]
    split
    · next hshown => exact hvalue hshown
    · omega
  · intro h
    have hnonneg := barLength_nonneg l.largest l.plotWidth bar.value
    have hlength := barLength_lt l.largest l.plotWidth bar.value
    have hright := le_reach l valueShown bar
    have hchrome : chromeHeight = 50 := rfl
    have hrow : rowHeight = 25 := rfl
    have hthickness : barThickness = 18 := rfl
    have hgap : labelGap = 6 := rfl
    have hvalue (hshown : valueShown = true) : l.labelRoom
        + barLength l.largest l.plotWidth bar.value + valueGap = reach l valueShown bar := by
      rw [reach, if_pos hshown]
    constructor
    case value =>
      intro hshown
      have hend := hvalue hshown
      have hvalueGap : valueGap = 4 := rfl
      simp only [FitsWord, exactBox]
      omega
    all_goals
      simp only [FitsWord, exactBox, exactCenter_eq, hchrome, hrow, hthickness, hgap]
      omega

/-! ## Charts -/

theorem canvasWidth_lt (c : ChartConfig) : canvasWidth c < 2 ^ 32 := UInt32.toNat_lt _

theorem plotWidth_layout (c : ChartConfig) : (layout c).plotWidth
    = max (canvasWidth c - min (labelRoom c + valueLabelArea) mostPixels) 1 := rfl

theorem plotWidth_lt (c : ChartConfig) : (layout c).plotWidth < 2 ^ 53 := by
  have hwidth := canvasWidth_lt c
  rw [plotWidth_layout]
  omega

/-- No bar is longer than the room for the longest one. -/
theorem barLength_le_plotWidth (h : bar ∈ c.bars) :
    barLength (layout c).largest (layout c).plotWidth bar.value ≤ (layout c).plotWidth := by
  by_cases hfinite : bar.value.isFinite = true
  · exact barLength_le (plotWidth_lt c)
      (signedUnits_le_largestValue (c.mem_of_mem_bars h).2 hfinite)
  · rw [barLength_eq_zero fun hdrawn => hfinite hdrawn.2]
    exact Int.natCast_nonneg _

theorem reach_le (h : bar ∈ c.bars) :
    reach (layout c) c.dataLabels bar ≤ labelRoom c + (layout c).plotWidth + valueGap := by
  have hlength := barLength_le_plotWidth h
  have hroom : (layout c).labelRoom = labelRoom c := rfl
  have hgap : valueGap = 4 := rfl
  rw [reach, hroom]
  split <;> omega

/-- A bar shows the largest value of its chart, which is above zero. -/
def ShowsLargest (c : ChartConfig) (bar : Bar) : Prop :=
  bar ∈ c.bars ∧ bar.value.isFinite = true ∧ 0 < bar.value.signedUnits ∧
    ∀ value ∈ c.data.values, value.isFinite = true → value.signedUnits ≤ bar.value.signedUnits

theorem ShowsLargest.barLength_eq (h : ShowsLargest c bar) :
    barLength (layout c).largest (layout c).plotWidth bar.value
      = min ((layout c).plotWidth : Int) 2147483647 := by
  obtain ⟨hmem, hfinite, hpos, hall⟩ := h
  exact barLength_of_largest (plotWidth_lt c) hpos hfinite
    (signedUnits_eq_largestValue (c.mem_of_mem_bars hmem).2 hfinite hpos hall)

theorem nothingWraps_iff_reach (hcount : c.bars.length ≤ 85000000) :
    NothingWraps c ↔ ∀ bar ∈ c.bars, reach (layout c) c.dataLabels bar < 2 ^ 31 := by
  have hrow {index : Nat} {bar : Bar} (h : c.bars[index]? = some bar) : index < 85000000 := by
    have := (List.getElem?_eq_some_iff.mp h).1
    omega
  constructor
  · intro hplaced bar hmem
    obtain ⟨index, hindex⟩ := List.getElem?_of_mem hmem
    exact (placed_iff (hrow hindex)).mp (hplaced index bar hindex)
  · intro hreach index bar hindex
    exact (placed_iff (hrow hindex)).mpr (hreach bar (List.mem_of_getElem? hindex))

theorem NothingWraps.marks_draw (h : NothingWraps c) (locale : Locale) : (draw c locale).marks
    = (c.bars.mapIdx (exactMarks (layout c) locale c.dataLabels)).flatten := by
  refine congrArg List.flatten (List.mapIdx_eq_mapIdx_iff.mpr ?_)
  intro index hindex
  exact (h index _ (List.getElem?_eq_getElem hindex)).barMarks_eq

theorem NothingWraps.boxes_draw (h : NothingWraps c) (locale : Locale) :
    (draw c locale).boxes = c.bars.mapIdx (exactBox (layout c)) := by
  rw [Chart.boxes_draw, List.mapIdx_eq_mapIdx_iff]
  intro index hindex
  exact (h index _ (List.getElem?_eq_getElem hindex)).boxOf_eq

/-- When nothing wraps around. A chart of up to 85 million bars is drawn where
it belongs exactly if no bar, with the start of its value, reaches out of the
signed words to the right. So it is as long as the width of the canvas is a
signed word and the room left of the bars does not come within six pixels of
the last one, and for a chart that shows its largest value beside its bar it is
a question of that room and the room for the longest bar alone. -/
theorem nothing_wraps_iff (c : ChartConfig) (hcount : c.bars.length ≤ 85000000) :
    (NothingWraps c ↔ ∀ bar ∈ c.bars, reach (layout c) c.dataLabels bar < 2 ^ 31) ∧
    (NothingWraps c → ∀ locale, (draw c locale).marks
      = (c.bars.mapIdx (exactMarks (layout c) locale c.dataLabels)).flatten) ∧
    (canvasWidth c < 2 ^ 31 → labelRoom c ≤ 2 ^ 31 - 6 → NothingWraps c) ∧
    ((∃ bar, ShowsLargest c bar) → c.dataLabels = true →
      (NothingWraps c ↔ labelRoom c + (layout c).plotWidth + valueGap < 2 ^ 31)) := by
  have hiff := nothingWraps_iff_reach hcount
  have hwide : labelRoom c + (layout c).plotWidth + valueGap < 2 ^ 31 → NothingWraps c :=
    fun h => hiff.mpr fun bar hmem => (reach_le hmem).trans_lt h
  refine ⟨hiff, NothingWraps.marks_draw, fun hwidth hroom => hwide ?_, ?_⟩
  · have hmost : mostPixels = 4294967295 := rfl
    have harea : valueLabelArea = 56 := rfl
    have hgap : valueGap = 4 := rfl
    rw [plotWidth_layout]
    omega
  · rintro ⟨bar, hlargest⟩ hshown
    refine ⟨fun hplaced => ?_, hwide⟩
    have hreach := hiff.mp hplaced bar hlargest.1
    have hroom : (layout c).labelRoom = labelRoom c := rfl
    have hgap : valueGap = 4 := rfl
    rw [reach, hlargest.barLength_eq, if_pos hshown, hroom] at hreach
    omega

theorem nothing_wraps_beside_a_long_label : longAndShort.bars.length ≤ 85000000 ∧
    NothingWraps longAndShort ∧
    (draw longAndShort .english).marks
      = (longAndShort.bars.mapIdx (exactMarks (layout longAndShort) .english true)).flatten ∧
    (draw longAndShort .english).boxes
      = [⟨220, 28, 344, 46⟩, ⟨220, 53, 303, 71⟩, ⟨220, 78, 261, 96⟩] := by
  have hcount : longAndShort.bars.length ≤ 85000000 := by decide +kernel
  obtain ⟨-, hmarks, hfits, -⟩ := nothing_wraps_iff longAndShort hcount
  have hplaced := hfits (by decide +kernel) (by decide +kernel)
  refine ⟨hcount, hplaced, hmarks hplaced .english, ?_⟩
  rw [hplaced.boxes_draw, longAndShort, Renderer.bars_config]
  decide +kernel

/-- One bar, with all the room that a word can hold to its left. -/
def farPadding : ChartConfig :=
  ({} : Renderer).config [⟨"a", .ofNat 1⟩] "chroots" (some 4294967295)

/-- The room left of the bar is taken for a position one pixel to the left of
the canvas. -/
theorem far_padding_wraps_around : farPadding.bars.length ≤ 85000000 ∧
    (∀ value ∈ farPadding.data.values, value.isFinite = true) ∧
    labelRoom farPadding = 4294967295 ∧
    (draw farPadding .english).boxes = [⟨-1, 28, 0, 46⟩] ∧ ¬ NothingWraps farPadding := by
  have hbar : farPadding.bars = [⟨"a", .ofNat 1, Palette.builtin.classify (some "a")⟩] :=
    Renderer.bars_config _ _ _ _
  refine ⟨?_, by decide +kernel, rfl, ?_, fun hplaced => ?_⟩
  · rw [hbar]
    decide
  · rw [boxes_draw, hbar]
    decide +kernel
  · have hleft := (hplaced 0 _ (by rw [hbar]; rfl)).left
    exact absurd hleft (by decide)

end RankedBars.Chart
