import Mathlib.Data.Int.ConditionallyCompleteOrder
import Mathlib.Order.ConditionallyCompleteLattice.Basic
import RankedBars.Proofs.Number.Nearest
import RankedBars.Ranking

/-!
# Ranking numbers

A dataset is ranked by a key that is taken from the words of its values. As
long as every value is a number, the order of the keys is the order of the
numbers: between two magnitudes it is the order of the units that they stand
for, the negative half runs backwards in both, and the one place where words
and numbers disagree, the two zeros, has one key.

`rankingKey_le_iff` says so, and it is all that has to be known about the
key. What is left is sorting. It is stable, which is said for the points of
one number at a time: taken out of the ranking they are the points of that
number in the dataset, one after the other.
-/

namespace RankedBars

namespace Binary

variable {F : Format} {x y : Binary F}

/-- The number that a value is, in units, with an infinity at either end. -/
def amount (x : Binary F) : WithBot (WithTop Int) :=
  if x.isFinite then ((x.signedUnits : WithTop Int) : WithBot (WithTop Int))
  else if x.negative then ⊥ else ⊤

/-- A number is an infinity, which counts as one magnitude more than the last
finite one, or it lies between the two. -/
theorem amount_cases (h : x.isNaN = false) :
    (x.amount = ((x.signedUnits : WithTop Int) : WithBot (WithTop Int)) ∧
      -(F.units F.infinity : Int) < x.signedUnits ∧ x.signedUnits < F.units F.infinity) ∨
    (x.amount = ⊤ ∧ x.signedUnits = F.units F.infinity) ∨
    (x.amount = ⊥ ∧ x.signedUnits = -(F.units F.infinity : Int)) := by
  cases hfinite : x.isFinite with
  | true =>
      have hlt : x.units < F.units F.infinity := F.units_strictMono (of_decide_eq_true hfinite)
      refine .inl ⟨by rw [amount, if_pos hfinite], ?_⟩
      rw [signedUnits]
      split <;> omega
  | false =>
      have hmagnitude : x.magnitude = F.infinity := by
        simp only [isNaN, isFinite, decide_eq_false_iff_not] at h hfinite
        omega
      right
      cases hsign : x.negative with
      | true =>
          right
          simp [amount, hfinite, hsign, signedUnits, units, hmagnitude]
      | false =>
          left
          simp [amount, hfinite, hsign, signedUnits, units, hmagnitude]

end Binary

namespace Binary64

variable {x y : Binary64}

theorem amount_le_iff (hx : x.isNaN = false) (hy : y.isNaN = false) :
    x.amount ≤ y.amount ↔ x.signedUnits ≤ y.signedUnits := by
  have hpos : 0 < Format.double.units Format.double.infinity := by
    have hlt : Format.double.units 0 < Format.double.units Format.double.infinity :=
      Format.double.units_strictMono (by decide)
    exact Nat.zero_lt_of_lt hlt
  rcases Binary.amount_cases hx with ⟨hax, hlx, hux⟩ | ⟨hax, hux⟩ | ⟨hax, hux⟩ <;>
    rcases Binary.amount_cases hy with ⟨hay, hly, huy⟩ | ⟨hay, huy⟩ | ⟨hay, huy⟩ <;>
    rw [hax, hay] <;> simp <;> omega

/-- Of two numbers the larger one has the larger key, and equal numbers have
one key. -/
theorem rankingKey_le_iff (hx : x.isNaN = false) (hy : y.isNaN = false) :
    x.rankingKey ≤ y.rankingKey ↔ x.amount ≤ y.amount := by
  rw [amount_le_iff hx hy]
  have hmono (m n : Nat) : Format.double.units m ≤ Format.double.units n ↔ m ≤ n :=
    (strictMono_nat_of_lt_succ Format.double.units_lt_succ).le_iff_le
  have hxy := hmono x.magnitude y.magnitude
  have hyx := hmono y.magnitude x.magnitude
  have hx0 := hmono x.magnitude 0
  have hy0 := hmono y.magnitude 0
  have hzero : Format.double.units 0 = 0 := rfl
  rw [hzero] at hx0 hy0
  simp only [rankingKey, hx, hy, Binary.rank, Binary.signedUnits, Binary.units,
    Bool.false_eq_true, if_false]
  cases x.negative <;> cases y.negative <;>
    simp only [if_true, if_false, Bool.false_eq_true] <;> split <;> split <;> omega

end Binary64

namespace Dataset

/-- Whether a point may stand before another one in the ranking. -/
def outranks (p q : DataPoint) : Bool :=
  Binary64.rankingKey q.value ≤ Binary64.rankingKey p.value

theorem outranks_trans (p q r : DataPoint) (hpq : outranks p q = true)
    (hqr : outranks q r = true) : outranks p r = true := by
  simp only [outranks, decide_eq_true_eq] at hpq hqr ⊢
  omega

theorem outranks_total (p q : DataPoint) : (outranks p q || outranks q p) = true := by
  simp only [outranks, Bool.or_eq_true, decide_eq_true_eq]
  omega

theorem pairwise_ranked (data : Dataset) : data.ranked.Pairwise (outranks · ·) :=
  List.pairwise_mergeSort outranks_trans outranks_total data

/-- Ranking is stable: points of which each may stand before each other keep
their order. -/
theorem filter_ranked (data : Dataset) {P : DataPoint → Bool}
    (h : ∀ p ∈ data, ∀ q ∈ data, P p = true → P q = true → outranks p q = true) :
    data.ranked.filter P = data.filter P := by
  have hsorted : (data.filter P).Pairwise (outranks · ·) := by
    refine List.pairwise_of_forall_mem_list fun p hp q hq => ?_
    rw [List.mem_filter] at hp hq
    exact h p hp.1 q hq.1 hp.2 hq.2
  have hsub : (data.filter P).Sublist data.ranked :=
    List.sublist_mergeSort outranks_trans outranks_total hsorted List.filter_sublist
  have hfilter := hsub.filter P
  rw [List.filter_filter] at hfilter
  simp only [Bool.and_self] at hfilter
  exact (hfilter.eq_of_length ((ranked_perm data).filter P).length_eq.symm).symm

theorem visibleCount_eq (limit : Int) : visibleCount limit = (max limit 0).toNat := by
  rw [visibleCount]
  omega

section

variable {data : Dataset}

theorem outranks_iff (hnumbers : ∀ p ∈ data, p.value.isNaN = false) {p q : DataPoint}
    (hp : p ∈ data) (hq : q ∈ data) : outranks p q = true ↔ q.value.amount ≤ p.value.amount := by
  rw [outranks, decide_eq_true_eq]
  exact Binary64.rankingKey_le_iff (hnumbers q hq) (hnumbers p hp)

theorem pairwise_amount_ranked (hnumbers : ∀ p ∈ data, p.value.isNaN = false) :
    data.ranked.Pairwise fun p q => q.value.amount ≤ p.value.amount := by
  refine data.pairwise_ranked.imp_of_mem ?_
  intro p q hp hq houtranks
  have hmem {r : DataPoint} (hr : r ∈ data.ranked) : r ∈ data := data.ranked_perm.mem_iff.mp hr
  exact (outranks_iff hnumbers (hmem hp) (hmem hq)).mp houtranks

theorem filter_amount_ranked (hnumbers : ∀ p ∈ data, p.value.isNaN = false)
    (number : WithBot (WithTop Int)) :
    data.ranked.filter (fun p => p.value.amount = number)
      = data.filter fun p => p.value.amount = number := by
  refine data.filter_ranked fun p hp q hq hpn hqn => ?_
  rw [outranks_iff hnumbers hp hq, of_decide_eq_true hpn, of_decide_eq_true hqn]

/-- Ranking is exact. As long as every value is a number, one of the
infinities included, the whole view holds the very points of the dataset, no
value is followed by a larger one, and the points of one number, be it
either zero, stand in the order of the dataset. The view that is cut to a
limit is what the whole one begins with, as many points as the limit lets
through, so no point that it leaves out has a larger value than one that it
shows. -/
theorem ranking_is_exact (data : Dataset) (limit : Int)
    (hnumbers : ∀ p ∈ data, p.value.isNaN = false) :
    (data.view limit true).Perm data ∧
    (data.view limit true).Pairwise (fun p q => q.value.amount ≤ p.value.amount) ∧
    (∀ number, (data.view limit true).filter (fun p => p.value.amount = number)
      = data.filter fun p => p.value.amount = number) ∧
    data.view limit false
      = (data.view limit true).take (min data.length (max limit 0).toNat) ∧
    (data.view limit false).length = min data.length (max limit 0).toNat ∧
    ∀ shown ∈ data.view limit false,
      ∀ omitted ∈ (data.view limit true).drop (data.view limit false).length,
        omitted.value.amount ≤ shown.value.amount := by
  have hwhole : data.view limit true = data.ranked := if_pos rfl
  have hlength : (data.view limit false).length = min data.length (max limit 0).toNat := by
    rw [length_view, visibleCount_eq, Nat.min_comm]
  have hcut : data.view limit false = data.ranked.take (min data.length (max limit 0).toNat) := by
    show data.ranked.take (visibleCount limit) = _
    rw [visibleCount_eq, List.take_eq_take_iff, length_ranked]
    omega
  rw [hwhole]
  refine ⟨data.ranked_perm, pairwise_amount_ranked hnumbers, filter_amount_ranked hnumbers,
    hcut, hlength, ?_⟩
  intro shown hshown omitted homitted
  have hsplit := pairwise_amount_ranked hnumbers
  rw [← List.take_append_drop (min data.length (max limit 0).toNat) data.ranked] at hsplit
  rw [hcut] at hshown
  rw [hlength] at homitted
  exact (List.pairwise_append.mp hsplit).2.2 shown hshown omitted homitted

/-- Both zeros between both infinities, and one number more. -/
def zerosAndInfinities : Dataset :=
  [⟨"down", -Binary.infinity⟩, ⟨"minus", -Binary.zero⟩, ⟨"plus", Binary.zero⟩,
    ⟨"up", Binary.infinity⟩, ⟨"again", -Binary.zero⟩]

/-- The zeros keep their order and their signs, and a limit cuts between
them. -/
theorem ranking_is_exact_over_zeros :
    (∀ p ∈ zerosAndInfinities, p.value.isNaN = false) ∧
    (zerosAndInfinities.view 2 true).Perm zerosAndInfinities ∧
    (zerosAndInfinities.view 2 true).filter (fun p => p.value.amount = 0)
      = [⟨"minus", -Binary.zero⟩, ⟨"plus", Binary.zero⟩, ⟨"again", -Binary.zero⟩] ∧
    (zerosAndInfinities.view 2 false).length = 2 ∧
    zerosAndInfinities.view 2 false = (zerosAndInfinities.view 2 true).take 2 := by
  have hnumbers : ∀ p ∈ zerosAndInfinities, p.value.isNaN = false := by decide
  obtain ⟨hperm, -, hzeros, hcut, hlength, -⟩ := ranking_is_exact zerosAndInfinities 2 hnumbers
  exact ⟨hnumbers, hperm, (hzeros 0).trans (by decide), hlength, hcut⟩

end

end Dataset

end RankedBars
