import Mathlib.Data.List.Forall2

/-!
# Row by row

A list is read by reading its items, and not at all if one of them is refused.
What holds of each item's reading holds of the list's.
-/

namespace RankedBars

theorem toOption_mapError {α ε ε' : Type} (f : ε → ε') (x : Except ε α) :
    (x.mapError f).toOption = x.toOption := by
  cases x <;> rfl

theorem toOption_eq_some_iff {α ε : Type} {x : Except ε α} {a : α} :
    x.toOption = some a ↔ x = .ok a := by
  cases x <;> simp [Except.toOption]

variable {β : Type}

/-- Reading row by row succeeds where every row does. -/
theorem mapM_eq_some_iff {α : Type} {f : β → Option α} {rows : List β} {as : List α} :
    rows.mapM f = some as ↔ List.Forall₂ (fun b a => f b = some a) rows as := by
  induction rows generalizing as with
  | nil =>
      rw [List.mapM_nil, List.forall₂_nil_left_iff]
      exact ⟨fun h => (Option.some.inj h).symm, fun h => congrArg some h.symm⟩
  | cons b rows ih =>
      rw [List.mapM_cons, List.forall₂_cons_left_iff, Option.bind_eq_bind, Option.bind_eq_some_iff]
      constructor
      · rintro ⟨a, hb, hrest⟩
        obtain ⟨as', has', heq⟩ := Option.bind_eq_some_iff.mp hrest
        exact ⟨a, as', hb, ih.mp has', (Option.some.inj heq).symm⟩
      · rintro ⟨a, as', hb, hrest, rfl⟩
        exact ⟨a, hb, Option.bind_eq_some_iff.mpr ⟨as', ih.mpr hrest, rfl⟩⟩

theorem isSome_mapM_iff {α : Type} {f : β → Option α} {rows : List β} :
    (rows.mapM f).isSome ↔ ∀ b ∈ rows, (f b).isSome := by
  induction rows with
  | nil => exact iff_of_true rfl fun b hb => absurd hb List.not_mem_nil
  | cons b rows ih =>
      rw [List.mapM_cons, List.forall_mem_cons, ← ih]
      cases f b <;> cases rows.mapM f <;> simp

theorem mapM_some {α : Type} (items : List α) : (items.mapM fun a => some a) = some items :=
  List.mapM_pure.trans (congrArg some (List.map_id' items))

theorem rel_eq_iff {α : Type} {x y : Option α} : Option.Rel (· = ·) x y ↔ x = y := by
  cases x <;> cases y <;> simp

/-- Two readings of the same rows are related if they are row by row. -/
theorem rel_mapM {α α' : Type} {R : α → α' → Prop} {f : β → Option α} {g : β → Option α'}
    {rows : List β} (h : ∀ b ∈ rows, Option.Rel R (f b) (g b)) :
    Option.Rel (List.Forall₂ R) (rows.mapM f) (rows.mapM g) := by
  induction rows with
  | nil => exact .some .nil
  | cons b rows ih =>
      have hb := h b List.mem_cons_self
      have hrest := ih fun b' hb' => h b' (List.mem_cons_of_mem b hb')
      rw [List.mapM_cons, List.mapM_cons]
      generalize f b = x, g b = y at hb
      generalize rows.mapM f = xs, rows.mapM g = ys at hrest
      cases hb with
      | none => exact .none
      | some hb =>
          cases hrest with
          | none => exact .none
          | some hrest => exact .some (.cons hb hrest)

theorem mapM_congr {α : Type} {f g : β → Option α} {rows : List β}
    (h : ∀ b ∈ rows, f b = g b) : rows.mapM f = rows.mapM g := by
  rw [← rel_eq_iff, ← List.forall₂_eq_eq_eq]
  exact rel_mapM fun b hb => rel_eq_iff.mpr (h b hb)

/-- If one of two readings succeeds and they are related, they are row by row.
-/
theorem rel_of_rel_mapM {α α' : Type} {R : α → α' → Prop} {f : β → Option α}
    {g : β → Option α'} {rows : List β}
    (hsome : (rows.mapM f).isSome ∨ (rows.mapM g).isSome)
    (h : Option.Rel (List.Forall₂ R) (rows.mapM f) (rows.mapM g)) :
    ∀ b ∈ rows, Option.Rel R (f b) (g b) := by
  cases hf : rows.mapM f with
  | none =>
      cases hg : rows.mapM g with
      | none => simp [hf, hg] at hsome
      | some as' =>
          rw [hf, hg] at h
          exact absurd h Option.not_rel_none_some
  | some as =>
      cases hg : rows.mapM g with
      | none =>
          rw [hf, hg] at h
          exact absurd h Option.not_rel_some_none
      | some as' =>
          rw [hf, hg, Option.rel_some_some] at h
          have hleft := mapM_eq_some_iff.mp hf
          have hright := mapM_eq_some_iff.mp hg
          clear hf hg hsome
          induction hleft generalizing as' with
          | nil => exact fun b hb => absurd hb List.not_mem_nil
          | cons hb _ ih =>
              cases hright with
              | cons hb' hright =>
                  cases h with
                  | cons hR h =>
                      rw [List.forall_mem_cons, hb, hb']
                      exact ⟨.some hR, ih _ h hright⟩

end RankedBars
