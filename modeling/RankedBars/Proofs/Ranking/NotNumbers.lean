import RankedBars.Proofs.Ranking.Numbers

/-!
# Ranking what is not a number

A value that is not a number has a key like any other, so a dataset with such
values is ranked all the same. Where they go is decided by a bit of their
words that says nothing about them, the sign: with the sign of positive
numbers they stand ahead of all numbers, with the other one behind them.

Keys matter here only up to this much, which is `standing`, and
`standing_mono` is the one place where words are looked at. A ranking then
falls into three stretches, and a view goes wrong exactly if it reaches into
the last one and there are numbers before it.
-/

namespace RankedBars

namespace Binary64

/-- Whether a value stands ahead of all numbers, among them, or behind. -/
def standing (x : Binary64) : Int :=
  if x.isNaN then if x.negative then -1 else 1 else 0

/-- Whether a value is no number and has a negative sign. -/
def trails (x : Binary64) : Bool := x.isNaN && x.negative

variable {x y : Binary64}

theorem standing_of_not_isNaN (h : x.isNaN = false) : x.standing = 0 := by
  rw [standing, h]
  rfl

theorem standing_eq_one_iff : x.standing = 1 ↔ x.isNaN = true ∧ x.trails = false := by
  rw [standing, trails]
  cases x.isNaN <;> cases x.negative <;> decide

theorem standing_nonneg_iff : 0 ≤ x.standing ↔ x.trails = false := by
  rw [standing, trails]
  cases x.isNaN <;> cases x.negative <;> decide

/-- The keys of numbers lie between those of the infinities, and all other
keys outside. -/
theorem standing_cases (x : Binary64) :
    (x.standing = 1 ∧ (Format.double.infinity : Int) < x.rankingKey) ∨
    (x.standing = 0 ∧ -(Format.double.infinity : Int) - 1 ≤ x.rankingKey ∧
      x.rankingKey ≤ Format.double.infinity) ∨
    (x.standing = -1 ∧ x.rankingKey < -(Format.double.infinity : Int) - 1) := by
  cases hx : x.isNaN with
  | false =>
      have hle : x.magnitude ≤ Format.double.infinity := Nat.le_of_not_lt (of_decide_eq_false hx)
      refine .inr (.inl ⟨standing_of_not_isNaN hx, ?_⟩)
      simp only [rankingKey, hx, Bool.false_eq_true, if_false, Binary.rank]
      split
      · omega
      · split <;> omega
  | true =>
      have hlt : Format.double.infinity < x.magnitude := of_decide_eq_true hx
      have hquiet : x.magnitude ≤ x.magnitude ||| quietBit := Nat.left_le_or
      cases hsign : x.negative with
      | false =>
          left
          simp only [standing, rankingKey, hx, hsign, if_true, Bool.false_eq_true, if_false,
            true_and]
          omega
      | true =>
          right
          right
          simp only [standing, rankingKey, hx, hsign, if_true, true_and]
          omega

theorem standing_mono (h : x.rankingKey ≤ y.rankingKey) : x.standing ≤ y.standing := by
  rcases x.standing_cases with ⟨hx, hxkey⟩ | ⟨hx, hxkey⟩ | ⟨hx, hxkey⟩ <;>
    rcases y.standing_cases with ⟨hy, hykey⟩ | ⟨hy, hykey⟩ | ⟨hy, hykey⟩ <;> omega

end Binary64

namespace Dataset

/-- A list in which all points of some kind come before the others falls into
the two. -/
theorem filter_append_filter_not {P : DataPoint → Bool} {points : List DataPoint}
    (h : points.Pairwise fun p q => P q = true → P p = true) :
    points.filter P ++ points.filter (fun p => !P p) = points := by
  induction points with
  | nil => rfl
  | cons p rest ih =>
      obtain ⟨hfirst, hrest⟩ := List.pairwise_cons.mp h
      cases hp : P p with
      | true =>
          rw [List.filter_cons_of_pos hp, List.filter_cons_of_neg (by simp [hp]), List.cons_append,
            ih hrest]
      | false =>
          have hnone : rest.filter P = [] := by
            rw [List.filter_eq_nil_iff]
            intro q hq hPq
            rw [hfirst q hq hPq] at hp
            cases hp
          have hall := ih hrest
          rw [hnone, List.nil_append] at hall
          rw [List.filter_cons_of_neg (by simp [hp]), List.filter_cons_of_pos (by simp [hp]), hnone,
            List.nil_append, hall]

theorem pairwise_standing_ranked (data : Dataset) :
    data.ranked.Pairwise fun p q => q.value.standing ≤ p.value.standing :=
  data.pairwise_ranked.imp fun h => Binary64.standing_mono (of_decide_eq_true h)

/-- Of a ranking, the points that do not trail come first. -/
theorem ranked_eq_append (data : Dataset) :
    data.ranked.filter (fun p => !p.value.trails) ++ data.ranked.filter (fun p => p.value.trails)
      = data.ranked := by
  have hleads : data.ranked.Pairwise fun p q =>
      (!q.value.trails) = true → (!p.value.trails) = true := by
    refine data.pairwise_standing_ranked.imp fun {p q} hle hq => ?_
    simp only [Bool.not_eq_true', ← Binary64.standing_nonneg_iff] at hq ⊢
    omega
  have hsplit := filter_append_filter_not hleads
  simp only [Bool.not_not] at hsplit
  exact hsplit

/-- How many points of a dataset come before those that trail. -/
def leading (data : Dataset) : Nat := data.countP fun p => !p.value.trails

theorem length_filter_ranked (data : Dataset) :
    (data.ranked.filter fun p => !p.value.trails).length = data.leading := by
  rw [← List.countP_eq_length_filter]
  exact data.ranked_perm.countP_eq _

theorem pairwise_standing_view (data : Dataset) (limit : Int) (showAll : Bool) :
    (data.view limit showAll).Pairwise fun p q => q.value.standing ≤ p.value.standing :=
  data.pairwise_standing_ranked.sublist (data.view_prefix_ranked limit showAll).sublist

section

variable {data : Dataset} {limit : Int} {showAll : Bool}

/-- A view that ends before the points that trail has none of them. -/
theorem trails_of_mem_view (h : (data.view limit showAll).length ≤ data.leading) {p : DataPoint}
    (hp : p ∈ data.view limit showAll) : p.value.trails = false := by
  have hprefix := data.view_prefix_ranked limit showAll
  rw [← data.ranked_eq_append] at hprefix
  rw [← length_filter_ranked] at h
  have hmem := (List.prefix_of_prefix_length_le hprefix (List.prefix_append _ _) h).subset hp
  simpa using (List.mem_filter.mp hmem).2

/-- A view that goes on has a point that trails and, before it, all that do
not. -/
theorem view_eq_append (h : data.leading < (data.view limit showAll).length) :
    ∃ p rest, p.value.trails = true ∧
      data.view limit showAll = data.ranked.filter (fun p => !p.value.trails) ++ p :: rest := by
  have hprefix := data.view_prefix_ranked limit showAll
  rw [← data.ranked_eq_append] at hprefix
  rw [← length_filter_ranked] at h
  obtain ⟨tail, htail⟩ :=
    List.prefix_of_prefix_length_le (List.prefix_append _ _) hprefix (Nat.le_of_lt h)
  rw [← htail] at hprefix h ⊢
  cases tail with
  | nil =>
      rw [List.append_nil] at h
      exact absurd h (Nat.lt_irrefl _)
  | cons p rest =>
      have hmem := ((List.prefix_append_right_inj _).mp hprefix).subset List.mem_cons_self
      exact ⟨p, rest, by simpa using (List.mem_filter.mp hmem).2, rfl⟩

theorem pairwise_isNaN_view_iff :
    ((data.view limit showAll).Pairwise fun p q => q.value.isNaN = true → p.value.isNaN = true) ↔
      (∀ p ∈ data, p.value.isNaN = true) ∨ (data.view limit showAll).length ≤ data.leading := by
  by_cases hlength : (data.view limit showAll).length ≤ data.leading
  · refine iff_of_true ?_ (.inr hlength)
    refine (data.pairwise_standing_view limit showAll).imp_of_mem fun {p q} hp hq hle hnan => ?_
    have hqone := Binary64.standing_eq_one_iff.mpr ⟨hnan, trails_of_mem_view hlength hq⟩
    have hpone : p.value.standing = 1 := by
      rcases p.value.standing_cases with ⟨h, -⟩ | ⟨h, -⟩ | ⟨h, -⟩ <;> omega
    exact (Binary64.standing_eq_one_iff.mp hpone).1
  · obtain ⟨z, rest, hz, hview⟩ := view_eq_append (Nat.lt_of_not_le hlength)
    have hznan : z.value.isNaN = true := (Bool.and_eq_true _ _ ▸ hz : _ ∧ _).1
    rw [or_iff_left hlength]
    constructor
    · intro hpairwise p hp
      rw [hview] at hpairwise
      by_cases htrails : p.value.trails = true
      · exact (Bool.and_eq_true _ _ ▸ htrails : _ ∧ _).1
      · refine (List.pairwise_append.mp hpairwise).2.2 p ?_ z List.mem_cons_self hznan
        rw [List.mem_filter]
        exact ⟨data.ranked_perm.mem_iff.mpr hp, by simpa using htrails⟩
    · intro hall
      refine List.pairwise_of_forall_mem_list fun p hp _ _ _ => hall p ?_
      exact data.ranked_perm.mem_iff.mp ((data.view_prefix_ranked limit showAll).subset hp)

end

theorem length_view_eq (data : Dataset) (limit : Int) (showAll : Bool) :
    (data.view limit showAll).length
      = if showAll then data.length else min data.length (max limit 0).toNat := by
  cases showAll with
  | true => exact data.length_ranked
  | false =>
      rw [length_view, visibleCount_eq, Nat.min_comm]
      rfl

theorem length_le_leading_iff {data : Dataset} :
    data.length ≤ data.leading ↔ ∀ p ∈ data, p.value.trails = false := by
  have hle : data.leading ≤ data.length := List.countP_le_length
  have hall : data.leading = data.length ↔ ∀ p ∈ data, (!p.value.trails) = true :=
    List.countP_eq_length
  simp only [Bool.not_eq_true'] at hall
  rw [← hall]
  omega

/-- What is not a number is ranked by its sign. Whatever the words of the
values, any two points can be compared and comparing is transitive, so that a
dataset always has a ranking and a view of it as many points as the limit
says. In it the positive ones of what is not a number come first, numbers
after them and the negative ones in the end. Hence everything that is not a
number comes before every number exactly if there are no numbers, or nothing
that is not a number is negative, or the limit cuts such points off. -/
theorem not_numbers_rank_first_iff (data : Dataset) (limit : Int) (showAll : Bool) :
    (∀ p q, (outranks p q || outranks q p) = true) ∧
    (∀ p q r, outranks p q = true → outranks q r = true → outranks p r = true) ∧
    (data.view limit showAll).length
      = (if showAll then data.length else min data.length (max limit 0).toNat) ∧
    (data.view limit showAll).Pairwise (fun p q => q.value.standing ≤ p.value.standing) ∧
    ((data.view limit showAll).Pairwise
        (fun p q => q.value.isNaN = true → p.value.isNaN = true) ↔
      (∀ p ∈ data, p.value.isNaN = true) ∨
      (∀ p ∈ data, p.value.isNaN = true → p.value.negative = false) ∨
      (showAll = false ∧ max limit 0 ≤ data.countP fun p => !p.value.trails)) := by
  refine ⟨outranks_total, outranks_trans, data.length_view_eq limit showAll,
    data.pairwise_standing_view limit showAll, ?_⟩
  have hpositive : (∀ p ∈ data, p.value.isNaN = true → p.value.negative = false) ↔
      data.length ≤ data.leading := by
    rw [length_le_leading_iff]
    simp only [Binary64.trails, Bool.and_eq_false_imp]
  have hleading : (data.countP fun p => !p.value.trails) = data.leading := rfl
  rw [pairwise_isNaN_view_iff, length_view_eq, hpositive, hleading]
  refine or_congr_right ?_
  cases showAll with
  | true => simp
  | false =>
      simp only [Bool.false_eq_true, if_false, true_and]
      omega

/-- A negative value that is not a number. -/
def negativeNaN : DataPoint := ⟨"a", .ofBits 0xfff8000000000000⟩

def numberOne : DataPoint := ⟨"b", .ofInt 1⟩

/-- The sign is enough to rank what is not a number behind a number. -/
theorem negative_nan_ranks_last :
    negativeNaN.value.isNaN = true ∧ numberOne.value.isNaN = false ∧
    view [negativeNaN, numberOne] 10 true = [numberOne, negativeNaN] ∧
    ¬ (view [negativeNaN, numberOne] 10 true).Pairwise
      (fun p q => q.value.isNaN = true → p.value.isNaN = true) := by
  have hkey : ¬ numberOne.value.rankingKey ≤ negativeNaN.value.rankingKey := by decide +kernel
  have hview : view [negativeNaN, numberOne] 10 true = [numberOne, negativeNaN] := by
    simp [view, ranked, List.mergeSort, List.MergeSort.Internal.splitInTwo, hkey]
  have hnan : negativeNaN.value.isNaN = true := by decide +kernel
  have hnumber : numberOne.value.isNaN = false := by decide +kernel
  refine ⟨hnan, hnumber, hview, ?_⟩
  rw [hview, List.pairwise_pair, hnan, hnumber]
  decide

end Dataset

end RankedBars
