import RankedBars.Proofs.Number.Monotone

/-!
# The order of values

Finite values are in the order of their counts of units, and so are their
places in the total order of words, except that the two zeros have one count.
The larger of two values is chosen by place. Of a list that is gone through
like this the largest place is left, and it is the place of one of the values.
-/

namespace RankedBars

namespace Binary

variable {F : Format} {x y : Binary F}

@[simp] theorem units_zero : (zero : Binary F).units = 0 := F.units_zero

theorem isNaN_of_isFinite (h : x.isFinite = true) : x.isNaN = false := by
  have hlt : x.magnitude < F.infinity := of_decide_eq_true h
  exact decide_eq_false (by omega)

theorem signedUnits_le_of_rank_le (h : x.rank ≤ y.rank) : x.signedUnits ≤ y.signedUnits := by
  have hmono {m n : Nat} (hle : m ≤ n) : F.units m ≤ F.units n := F.units_mono hle
  obtain ⟨sx, mx, _⟩ := x
  obtain ⟨sy, my, _⟩ := y
  cases sx <;> cases sy <;>
    simp only [rank, signedUnits, units, Bool.false_eq_true, if_false, if_true] at h ⊢
  · exact Int.ofNat_le.mpr (hmono (by omega))
  · omega
  · omega
  · exact Int.neg_le_neg (Int.ofNat_le.mpr (hmono (by omega)))

theorem units_pos_iff : 0 < x.units ↔ x.magnitude ≠ 0 := by
  have hzero := F.units_zero
  constructor
  · intro hpos heq
    rw [units, heq] at hpos
    omega
  · intro hne
    have hlt := F.units_strictMono (Nat.pos_of_ne_zero hne)
    rw [units]
    omega

/-! ## The largest of some values -/

theorem rank_max (x y : Binary F) : x.rank ≤ (max x y).rank ∧ y.rank ≤ (max x y).rank := by
  rw [max]
  split <;> omega

theorem max_eq_or (x y : Binary F) : max x y = x ∨ max x y = y := by
  rw [max]
  split
  · exact .inr rfl
  · exact .inl rfl

theorem rank_foldl_max (xs : List (Binary F)) (x : Binary F) :
    x.rank ≤ (xs.foldl max x).rank ∧ ∀ y ∈ xs, y.rank ≤ (xs.foldl max x).rank := by
  induction xs generalizing x with
  | nil => exact ⟨Int.le_refl _, fun y hy => absurd hy List.not_mem_nil⟩
  | cons z rest ih =>
      obtain ⟨hstart, hrest⟩ := ih (max x z)
      obtain ⟨hx, hz⟩ := rank_max x z
      rw [List.foldl_cons]
      refine ⟨hx.trans hstart, fun y hy => ?_⟩
      rcases List.mem_cons.mp hy with rfl | hmem
      · exact hz.trans hstart
      · exact hrest y hmem

theorem foldl_max_eq_or_mem (xs : List (Binary F)) (x : Binary F) :
    xs.foldl max x = x ∨ xs.foldl max x ∈ xs := by
  induction xs generalizing x with
  | nil => exact .inl rfl
  | cons z rest ih =>
      rw [List.foldl_cons]
      rcases ih (max x z) with heq | hmem
      · rcases max_eq_or x z with hx | hz
        · exact .inl (heq.trans hx)
        · exact .inr (List.mem_cons.mpr (.inl (heq.trans hz)))
      · exact .inr (List.mem_cons_of_mem _ hmem)

end Binary

end RankedBars
