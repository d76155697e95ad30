import RankedBars.Chart.Drawing

/-!
# What is drawn of a bar

A drawing is one list in which the marks of the bars follow each other. What
there is to say about it is about one kind of mark at a time, the rectangles,
the labels or the values, and each bar has exactly one of a kind, if values are
shown. So these lists have one entry for each bar, in the order of the bars, and
`boxes_draw`, `labels_draw` and `values_draw` say which.
-/

namespace RankedBars

namespace ChartConfig

variable {c : ChartConfig} {bar : Bar}

theorem mem_of_mem_bars (h : bar ∈ c.bars) :
    bar.label ∈ c.axis.categories ∧ bar.value ∈ c.data.values := by
  rw [bars, List.mem_map] at h
  obtain ⟨x, hx, rfl⟩ := h
  exact List.of_mem_zip (List.of_mem_zip hx).1

end ChartConfig

namespace Chart

/-- The place of a rectangle. -/
structure Box where
  left : Int
  top : Int
  right : Int
  bottom : Int
deriving DecidableEq

namespace Box

/-- How long the bar is that a rectangle shows. -/
def length (b : Box) : Int := b.right - b.left

end Box

namespace Mark

/-- The place of a mark that is a rectangle. -/
def box? : Mark → Option Box
  | .rectangle left top right bottom _ => some ⟨left, top, right, bottom⟩
  | .text .. => none

/-- The height and the content of a text that ends where it is put. -/
def label? : Mark → Option (Int × String)
  | .text _ y .finish content => some (y, content)
  | _ => none

/-- The height and the content of a text that starts where it is put. -/
def value? : Mark → Option (Int × String)
  | .text _ y .start content => some (y, content)
  | _ => none

end Mark

namespace Drawing

/-- The rectangles of a drawing. -/
def boxes (d : Drawing) : List Box := d.marks.filterMap Mark.box?

/-- The labels of a drawing, each with the height of its bar. -/
def labels (d : Drawing) : List (Int × String) := d.marks.filterMap Mark.label?

/-- The values of a drawing, each with the height of its bar. -/
def values (d : Drawing) : List (Int × String) := d.marks.filterMap Mark.value?

end Drawing

/-- The place of the rectangle of a bar. -/
def boxOf (l : Layout) (index : Nat) (bar : Bar) : Box where
  left := pixel l.labelRoom
  top := pixel (rowCenter index - barThickness / 2)
  right := pixel (pixel l.labelRoom + barLength l.largest l.plotWidth bar.value)
  bottom := pixel (pixel (rowCenter index - barThickness / 2) + barThickness)

variable {c : ChartConfig} {locale : Locale}

/-- Where the marks of every bar have one of a kind, the drawing has that one
for each bar. -/
theorem filterMap_marks_draw {α : Type} {f : Mark → Option α} {g : Nat → Bar → α}
    (h : ∀ index bar,
      (barMarks (layout c) locale c.dataLabels index bar).filterMap f = [g index bar]) :
    (draw c locale).marks.filterMap f = c.bars.mapIdx g := by
  rw [draw, List.filterMap_flatten, List.mapIdx_eq_zipIdx_map, List.map_map,
    ← List.flatMap_def, List.mapIdx_eq_zipIdx_map, List.map_eq_flatMap]
  exact congrArg (List.flatMap · c.bars.zipIdx) (funext fun x => h x.2 x.1)

theorem boxes_draw (c : ChartConfig) (locale : Locale) :
    (draw c locale).boxes = c.bars.mapIdx (boxOf (layout c)) := by
  refine filterMap_marks_draw fun index bar => ?_
  rw [barMarks]
  split <;> rfl

theorem labels_draw (c : ChartConfig) (locale : Locale) :
    (draw c locale).labels = c.bars.mapIdx fun index bar =>
      (rowCenter index, truncate bar.label fontSize (labelRoom c - labelGap)) := by
  refine filterMap_marks_draw fun index bar => ?_
  rw [barMarks]
  split <;> rfl

theorem values_draw (hshown : c.dataLabels = true) (locale : Locale) :
    (draw c locale).values = c.bars.mapIdx fun index bar =>
      (rowCenter index, locale.format bar.value) := by
  refine filterMap_marks_draw fun index bar => ?_
  rw [barMarks, if_pos hshown]
  rfl

end Chart

end RankedBars
