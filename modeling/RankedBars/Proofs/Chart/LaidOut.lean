import RankedBars.Proofs.Chart.Positions
import RankedBars.Proofs.Ranking.Numbers

/-!
# How the bars of a view are laid out

What one relies on when one reads a chart is put together in `LaidOut`.
Rows are as far apart as they are high, and the height of the canvas, which is
worked out elsewhere and cannot grow past a word, has room for all of them.
Along the width, bars begin where the labels end, and they stay in what is left
when the room for the values is taken from the canvas. Their lengths are
in the order of the values, and so they never increase from top to bottom.

All of it is said about the rectangles as they are written, therefore one of
its parts is that no rectangle is cut at the edge of the canvas.
-/

namespace RankedBars.Chart

/-- The rectangles of a drawing are the bars of a view, to the right of some
room for the labels. A finite value counts as its number of units. -/
structure LaidOut (view : Dataset) (room : Nat) (d : Drawing) : Prop where
  count : d.boxes.length = view.length
  inside : ∀ b ∈ d.boxes, 0 ≤ b.top ∧ b.top < b.bottom ∧ b.bottom ≤ d.height
  apart : d.boxes.Pairwise fun a b => a.bottom < b.top
  start : ∀ b ∈ d.boxes, b.left = room
  short : ∀ b ∈ d.boxes, 0 ≤ b.length ∧ b.length ≤ d.width - room - valueLabelArea
  finish : ∀ b ∈ d.boxes, b.right ≤ d.width - valueLabelArea
  uncut : ∀ b ∈ d.boxes, d.cutX b.left = b.left ∧ d.cutX b.right = b.right ∧
    d.cutY b.top = b.top ∧ d.cutY b.bottom = b.bottom
  ordered : ∀ x ∈ view.zip d.boxes, ∀ y ∈ view.zip d.boxes,
    x.1.value.signedUnits ≤ y.1.value.signedUnits → x.2.length ≤ y.2.length
  falling : d.boxes.Pairwise fun a b => b.length ≤ a.length
  nothing : ∀ x ∈ view.zip d.boxes, x.1.value.signedUnits ≤ 0 → x.2.length = 0
  longest : (∃ p ∈ view, 0 < p.value.signedUnits) → ∀ x ∈ view.zip d.boxes,
    (∀ p ∈ view, p.value.signedUnits ≤ x.1.value.signedUnits) →
      x.2.length = d.width - room - valueLabelArea

/-! ## Rows -/

theorem toNat_heightOf_eq_min (n : Nat) :
    (heightOf n).toNat = min (max (25 * n + 50) 100) (2 ^ 32 - 1) := by
  have hword : Nat.pow 2 32 = 4294967296 := by decide
  have hrow : rowHeight = 25 := rfl
  have hchrome : chromeHeight = 50 := rfl
  have hleast : leastHeight = 100 := rfl
  rw [heightOf, hword, hrow, hchrome, hleast, UInt32.toNat_ofNat']
  omega

theorem toNat_heightOf {n : Nat} (h : n ≤ 85000000) :
    (heightOf n).toNat = max (25 * n + 50) 100 := by
  rw [toNat_heightOf_eq_min]
  omega

theorem top_exactBox (l : Layout) (index : Nat) (bar : Bar) :
    (exactBox l index bar).top = 25 * index + 28 := by
  have hthickness : barThickness = 18 := rfl
  simp only [exactBox, exactCenter_eq, hthickness]
  omega

theorem bottom_exactBox (l : Layout) (index : Nat) (bar : Bar) :
    (exactBox l index bar).bottom = 25 * index + 46 := by
  have htop := top_exactBox l index bar
  have hthickness : barThickness = 18 := rfl
  simp only [exactBox, hthickness] at htop ⊢
  omega

theorem length_exactBox (l : Layout) (index : Nat) (bar : Bar) :
    (exactBox l index bar).length = barLength l.largest l.plotWidth bar.value := by
  simp only [Box.length, exactBox]
  omega

theorem right_exactBox (l : Layout) (index : Nat) (bar : Bar) :
    (exactBox l index bar).right = l.labelRoom + (exactBox l index bar).length := by
  rw [length_exactBox, exactBox]

/-! ## The canvas -/

section

variable {d : Drawing} {n : Int}

theorem cutX_of_le (hwidth : d.width < 2 ^ 31) (h : 0 ≤ n) (hn : n ≤ d.width) :
    d.cutX n = n := by
  have hpixel : pixel d.width = d.width := pixel_of_fitsWord (by rw [FitsWord]; omega)
  rw [Drawing.cutX, hpixel]
  omega

theorem cutY_of_le (hheight : d.height < 2 ^ 31) (h : 0 ≤ n) (hn : n ≤ d.height) :
    d.cutY n = n := by
  have hpixel : pixel d.height = d.height := pixel_of_fitsWord (by rw [FitsWord]; omega)
  rw [Drawing.cutY, hpixel]
  omega

end

section

variable {c : ChartConfig}

theorem plotWidth_of_room (hroom : labelRoom c + valueLabelArea < canvasWidth c) :
    ((layout c).plotWidth : Int) = canvasWidth c - labelRoom c - valueLabelArea := by
  have hmost : mostPixels = 4294967295 := rfl
  have hword := canvasWidth_lt c
  rw [plotWidth_layout]
  omega

theorem nothingWraps_of_room (hcount : c.bars.length ≤ 85000000)
    (hwidth : canvasWidth c < 2 ^ 31) (hroom : labelRoom c + valueLabelArea < canvasWidth c) :
    NothingWraps c := by
  have hplot := plotWidth_of_room hroom
  have harea : valueLabelArea = 56 := rfl
  have hgap : valueGap = 4 := rfl
  refine (nothingWraps_iff_reach hcount).mpr fun bar hmem => ?_
  have hreach := reach_le hmem
  omega

variable {locale : Locale} {b : Box}

theorem exists_of_mem_boxes (h : NothingWraps c) (hb : b ∈ (draw c locale).boxes) :
    ∃ index bar, index < c.bars.length ∧ bar ∈ c.bars ∧ b = exactBox (layout c) index bar := by
  rw [h.boxes_draw, List.mem_mapIdx] at hb
  obtain ⟨index, hindex, rfl⟩ := hb
  exact ⟨index, c.bars[index], hindex, List.getElem_mem hindex, rfl⟩

theorem boxes_apart (h : NothingWraps c) :
    (draw c locale).boxes.Pairwise fun a b => a.bottom < b.top := by
  rw [h.boxes_draw, List.pairwise_iff_getElem]
  intro i j hi hj hlt
  rw [List.getElem_mapIdx, List.getElem_mapIdx, bottom_exactBox, top_exactBox]
  omega

theorem rows_of_mem_boxes (h : NothingWraps c) (hb : b ∈ (draw c locale).boxes) :
    0 ≤ b.top ∧ b.top < b.bottom ∧ b.bottom ≤ 25 * c.bars.length + 50 := by
  obtain ⟨index, bar, hindex, -, rfl⟩ := exists_of_mem_boxes h hb
  rw [top_exactBox, bottom_exactBox]
  omega

theorem columns_of_mem_boxes (h : NothingWraps c)
    (hroom : labelRoom c + valueLabelArea < canvasWidth c) (hb : b ∈ (draw c locale).boxes) :
    b.left = labelRoom c ∧ b.right = labelRoom c + b.length ∧
      0 ≤ b.length ∧ b.length ≤ canvasWidth c - labelRoom c - valueLabelArea := by
  obtain ⟨index, bar, -, hbar, rfl⟩ := exists_of_mem_boxes h hb
  refine ⟨rfl, right_exactBox _ _ _, ?_⟩
  rw [length_exactBox, ← plotWidth_of_room hroom]
  exact ⟨barLength_nonneg _ _ _, barLength_le_plotWidth hbar⟩

end

/-! ## Views -/

/-- In a view the finite values are in the order of what they count. -/
theorem pairwise_finite_view (data : Dataset) (limit : Int) (showAll : Bool) :
    (data.view limit showAll).Pairwise fun p q => p.value.isFinite = true →
      q.value.isFinite = true → q.value.signedUnits ≤ p.value.signedUnits := by
  have hsorted := data.pairwise_ranked.sublist (data.view_prefix_ranked limit showAll).sublist
  refine hsorted.imp fun {p q} houtranks hp hq => ?_
  have hpnumber : p.value.isNaN = false := Binary.isNaN_of_isFinite hp
  have hqnumber : q.value.isNaN = false := Binary.isNaN_of_isFinite hq
  rw [Dataset.outranks, decide_eq_true_eq, Binary64.rankingKey_le_iff hqnumber hpnumber,
    Binary64.amount_le_iff hqnumber hpnumber] at houtranks
  exact houtranks

theorem pairwise_signedUnits_view (data : Dataset) (limit : Int) (showAll : Bool)
    (hfinite : ∀ p ∈ data.view limit showAll, p.value.isFinite = true) :
    (data.view limit showAll).Pairwise fun p q => q.value.signedUnits ≤ p.value.signedUnits :=
  (pairwise_finite_view data limit showAll).imp_of_mem fun hp hq hle =>
    hle (hfinite _ hp) (hfinite _ hq)

/-- The bar of a point in the chart of a renderer. -/
def barOf (r : Renderer) (p : DataPoint) : Bar :=
  ⟨p.label, p.value, r.palette.classify (some p.label)⟩

section

variable {r : Renderer} {view : Dataset} {container : String} {paddingLeft : Option UInt32}
  {locale : Locale}

theorem boxes_config (h : NothingWraps (r.config view container paddingLeft)) :
    (draw (r.config view container paddingLeft) locale).boxes = view.mapIdx fun index p =>
      exactBox (layout (r.config view container paddingLeft)) index (barOf r p) := by
  rw [h.boxes_draw, Renderer.bars_config]
  refine List.ext_getElem? fun index => ?_
  rw [List.getElem?_mapIdx, List.getElem?_mapIdx, List.getElem?_map, Option.map_map]
  rfl

theorem barOf_mem {p : DataPoint} (h : p ∈ view) :
    barOf r p ∈ (r.config view container paddingLeft).bars := by
  rw [Renderer.bars_config]
  exact List.mem_map_of_mem h

theorem exists_of_mem_zip_boxes (h : NothingWraps (r.config view container paddingLeft))
    {x : DataPoint × Box}
    (hx : x ∈ view.zip (draw (r.config view container paddingLeft) locale).boxes) :
    x.1 ∈ view ∧ x.2.length = barLength (layout (r.config view container paddingLeft)).largest
      (layout (r.config view container paddingLeft)).plotWidth x.1.value := by
  obtain ⟨index, hindex⟩ := List.getElem?_of_mem hx
  obtain ⟨hpoint, hbox⟩ := List.getElem?_zip_eq_some.mp hindex
  rw [boxes_config h, List.getElem?_mapIdx, hpoint, Option.map_some, Option.some_inj] at hbox
  rw [← hbox, length_exactBox]
  exact ⟨List.mem_of_getElem? hpoint, rfl⟩

/-- The rectangles of a sorted view get no longer from top to bottom. -/
theorem boxes_falling (h : NothingWraps (r.config view container paddingLeft))
    (hfinite : ∀ p ∈ view, p.value.isFinite = true)
    (hsorted : view.Pairwise fun p q => q.value.signedUnits ≤ p.value.signedUnits) :
    (draw (r.config view container paddingLeft) locale).boxes.Pairwise
      fun a b => b.length ≤ a.length := by
  rw [boxes_config h, List.pairwise_iff_getElem]
  intro i j hi hj hlt
  rw [List.length_mapIdx] at hi hj
  rw [List.getElem_mapIdx, List.getElem_mapIdx, length_exactBox, length_exactBox]
  exact barLength_mono (hfinite _ (List.getElem_mem hi))
    (List.pairwise_iff_getElem.mp hsorted i j hi hj hlt)

theorem showsLargest_barOf {p : DataPoint} (h : p ∈ view)
    (hfinite : ∀ p ∈ view, p.value.isFinite = true)
    (hpositive : ∃ q ∈ view, 0 < q.value.signedUnits)
    (hall : ∀ q ∈ view, q.value.signedUnits ≤ p.value.signedUnits) :
    ShowsLargest (r.config view container paddingLeft) (barOf r p) := by
  obtain ⟨q, hq, hpos⟩ := hpositive
  refine ⟨barOf_mem h, hfinite p h, hpos.trans_le (hall q hq), fun value hvalue _ => ?_⟩
  obtain ⟨other, hother, rfl⟩ := List.mem_map.mp hvalue
  exact hall other hother

end

/-- Bars are where they should be, and they are as long as they should be. In
the chart of a view of finite values all rectangles lie inside the canvas, one
below the other, and begin where the labels end. Their lengths stay in the room
that is left of the room for the values and are in the order of the values,
therefore they never increase; those of values up to zero are zero, and the one
of the largest value takes all the room. -/
theorem bars_are_laid_out (r : Renderer) (data : Dataset) (limit : Int) (showAll : Bool)
    (container : String) (paddingLeft : Option UInt32) (locale : Locale)
    (hfinite : ∀ p ∈ data.view limit showAll, p.value.isFinite = true)
    (hcount : (data.view limit showAll).length ≤ 85000000) :
    let c := r.config (data.view limit showAll) container paddingLeft
    canvasWidth c ≤ 2 ^ 31 - 1 → labelRoom c + valueLabelArea < canvasWidth c →
      LaidOut (data.view limit showAll) (labelRoom c) (draw c locale) := by
  have hsorted := pairwise_signedUnits_view data limit showAll hfinite
  generalize data.view limit showAll = view at *
  intro c hwidth hroom
  have hbars : c.bars.length = view.length := by
    rw [Renderer.bars_config, List.length_map]
  have hplaced : NothingWraps c := nothingWraps_of_room (by omega) (by omega) hroom
  have hplot := plotWidth_of_room hroom
  have hheight : (draw c locale).height = max (25 * view.length + 50) 100 := toNat_heightOf hcount
  have hcanvas : (draw c locale).width = canvasWidth c := rfl
  have hrows {b : Box} (hb : b ∈ (draw c locale).boxes) := rows_of_mem_boxes hplaced hb
  have hcolumns {b : Box} (hb : b ∈ (draw c locale).boxes) := columns_of_mem_boxes hplaced hroom hb
  rw [hbars] at hrows
  constructor
  case count => rw [boxes_config hplaced, List.length_mapIdx]
  case inside =>
    intro b hb
    have hrow := hrows hb
    omega
  case apart => exact boxes_apart hplaced
  case start => exact fun b hb => (hcolumns hb).1
  case short => exact fun b hb => (hcolumns hb).2.2
  case finish =>
    intro b hb
    have hcolumn := hcolumns hb
    omega
  case uncut =>
    intro b hb
    have hrow := hrows hb
    have hcolumn := hcolumns hb
    refine ⟨cutX_of_le ?_ ?_ ?_, cutX_of_le ?_ ?_ ?_, cutY_of_le ?_ ?_ ?_, cutY_of_le ?_ ?_ ?_⟩
    all_goals omega
  case ordered =>
    intro x hx y hy hle
    obtain ⟨-, hlength⟩ := exists_of_mem_zip_boxes hplaced hx
    obtain ⟨hmem, hother⟩ := exists_of_mem_zip_boxes hplaced hy
    rw [hlength, hother]
    exact barLength_mono (hfinite _ hmem) hle
  case falling => exact boxes_falling hplaced hfinite hsorted
  case nothing =>
    intro x hx hle
    rw [(exists_of_mem_zip_boxes hplaced hx).2]
    exact barLength_of_nonpos hle
  case longest =>
    intro hpositive x hx hall
    obtain ⟨hmem, hlength⟩ := exists_of_mem_zip_boxes hplaced hx
    have hlargest : ShowsLargest c (barOf r x.1) :=
      showsLargest_barOf hmem hfinite hpositive hall
    refine hlength.trans (hlargest.barLength_eq.trans ?_)
    omega

/-- A value below zero, a zero and two that are equal. -/
def aroundZero : Dataset :=
  [⟨"down", -.ofNat 3⟩, ⟨"none", -.zero⟩, ⟨"first", .ofNat 2⟩, ⟨"second", .ofNat 2⟩]

theorem bars_are_laid_out_around_zero :
    (∀ p ∈ aroundZero.view 10 true, p.value.isFinite = true) ∧
    (aroundZero.view 10 true).length ≤ 85000000 ∧
    defaultWidth.toNat ≤ 2 ^ 31 - 1 ∧ 100 + valueLabelArea < defaultWidth.toNat ∧
    LaidOut (aroundZero.view 10 true) 100
      (draw (({} : Renderer).config (aroundZero.view 10 true) "chroots" (some 100)) .english) := by
  have hfinite : ∀ p ∈ aroundZero.view 10 true, p.value.isFinite = true := by
    have hall : ∀ p ∈ aroundZero, p.value.isFinite = true := by decide +kernel
    exact fun p hp => hall p (aroundZero.ranked_perm.mem_iff.mp hp)
  have hcount : (aroundZero.view 10 true).length ≤ 85000000 := by
    rw [show aroundZero.view 10 true = aroundZero.ranked from if_pos rfl, Dataset.length_ranked]
    decide
  have hwidth : defaultWidth.toNat ≤ 2 ^ 31 - 1 := by decide
  have hroom : 100 + valueLabelArea < defaultWidth.toNat := by decide
  exact ⟨hfinite, hcount, hwidth, hroom,
    bars_are_laid_out {} aroundZero 10 true "chroots" (some 100) .english hfinite hcount
      hwidth hroom⟩

end RankedBars.Chart
