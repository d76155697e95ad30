import RankedBars.DataPoint

/-!
# Ranking

A dataset is ranked by value, largest first, and points with equal values keep
the order of the dataset. The view of a dataset is its ranking, whole or cut to
the largest few. It is derived from the dataset whenever it is needed and never
stored.

The order is the total order of the values' words, with one change: the two
zeros are equal. So what is not a number has a place too, ahead of every number
or behind all of them, depending on its sign.
-/

namespace RankedBars

namespace Binary64

/-- The bit that tells the two kinds of values that are no numbers apart. -/
def quietBit : Nat := Nat.pow 2 51

/-- Where a value stands among others when they are ranked. -/
def rankingKey (x : Binary64) : Int :=
  if x.isNaN then
    let magnitude : Nat := x.magnitude ||| quietBit
    if x.negative then -(magnitude : Int) - 1 else magnitude
  else if x.magnitude = 0 then 0
  else x.rank

end Binary64

namespace Dataset

/-- The whole dataset, largest values first. -/
def ranked (data : Dataset) : Dataset :=
  data.mergeSort fun a b => Binary64.rankingKey b.value ≤ Binary64.rankingKey a.value

theorem ranked_perm (data : Dataset) : data.ranked.Perm data := List.mergeSort_perm _ _

@[simp] theorem length_ranked (data : Dataset) : data.ranked.length = data.length :=
  List.length_mergeSort _

/-- How many points a limit lets through. -/
def visibleCount (limit : Int) : Nat := limit.toNat

/-- The ranked dataset, whole or cut to a limit. -/
def view (data : Dataset) (limit : Int) (showAll : Bool) : Dataset :=
  if showAll then data.ranked else data.ranked.take (visibleCount limit)

theorem view_prefix_ranked (data : Dataset) (limit : Int) (showAll : Bool) :
    data.view limit showAll <+: data.ranked := by
  rw [view]
  split
  · exact List.prefix_refl _
  · exact List.take_prefix _ _

theorem length_view (data : Dataset) (limit : Int) :
    (data.view limit false).length = min (visibleCount limit) data.length := by
  rw [view, if_neg Bool.false_ne_true, List.length_take, length_ranked]

def labels (data : Dataset) : List String := data.map (·.label)

end Dataset

end RankedBars
