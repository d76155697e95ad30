import RankedBars.Proofs.Json.Whole

/-!
# Records whose fields are given once

A strict record refuses a field that it does not have and a field that it was
given before, and what a field is given goes into a place of its own in the
draft. An object is then read if its fields are different ones and each value
is read, in whatever order they stand (`StrictRecord.fills`), and the draft has
these values and no others. Conversely an object that is read has different
fields, all of them the record's own (`StrictRecord.accepted`), so that one
that has others is refused, whatever its values are (`StrictRecord.fills_none`).
-/

namespace RankedBars

open Json (Token)

/-- A record with drafts in `σ` that is given parts in `π`, each the value of
the field that it names. -/
structure StrictRecord (σ π : Type) where
  field : String → σ → Except ShapeError (Reader σ)
  name : π → String
  put : π → σ → σ
  Has : σ → π → Prop
  has_put_self : ∀ p draft, Has (put p draft) p
  has_put_of_ne : ∀ p q draft, name q ≠ name p → (Has (put p draft) q ↔ Has draft q)
  /-- A field is refused by its name, or its value becomes a part of the draft
  if there was none of that name. -/
  field_cases : ∀ n draft, (∃ cause, field n draft = .error cause) ∨
    ∃ (β : Type) (r : Reader β) (current : Option β) (part : β → π),
      field n draft = Reader.once n current r (fun b => put (part b) draft) ∧ TakesWhole r ∧
      (∀ b, name (part b) = n) ∧ (current = none → ∀ q, name q = n → ¬ Has draft q)

/-- A field of an object stands in it twice, or it is none of these. -/
def Flawed (known : List String) (members : List (String × List Token)) : Prop :=
  ¬ (members.map Prod.fst).Nodup ∨ ∃ m ∈ members, m.1 ∉ known

namespace StrictRecord

variable {σ π : Type} (R : StrictRecord σ π) {draft : σ} {n : String} {r : Reader σ}

/-- The draft has nothing of this name. -/
def Fresh (draft : σ) (n : String) : Prop := ∀ q, R.name q = n → ¬ R.Has draft q

/-- The tokens are a value of the field that the part names, and they are read
as the part. -/
def Reads (p : π) (ts : List Token) : Prop :=
  ∀ draft, R.Fresh draft (R.name p) →
    ∃ r, R.field (R.name p) draft = .ok r ∧ Gives r ts (some (R.put p draft))

theorem takesWhole (h : R.field n draft = .ok r) : TakesWhole r := by
  obtain ⟨cause, he⟩ | ⟨β, r', current, part, heq, hr', -, -⟩ := R.field_cases n draft
  · cases h.symm.trans he
  · exact hr'.once (heq.symm.trans h)

/-- A field that is read was not given before, and its value is put in its
place. -/
theorem fresh_and_exists_put {ts : List Token} {next : σ} (h : R.field n draft = .ok r)
    (hr : Gives r ts (some next)) :
    R.Fresh draft n ∧ ∃ p, R.name p = n ∧ next = R.put p draft := by
  obtain ⟨cause, he⟩ | ⟨β, r', current, part, heq, hr', hname, hfresh⟩ := R.field_cases n draft
  · cases h.symm.trans he
  · obtain ⟨hnone, rfl⟩ := once_eq_ok_iff.mp (heq.symm.trans h)
    obtain ⟨b, rfl⟩ := hr.exists_of_map
    exact ⟨hfresh hnone, part b, hname b, rfl⟩

theorem fresh_put {p : π} (hne : n ≠ R.name p) (h : R.Fresh draft n) :
    R.Fresh (R.put p draft) n := by
  intro q hq
  rw [R.has_put_of_ne p q draft (hq.trans_ne hne)]
  exact h q hq

theorem reads_of_once {β : Type} {r : Reader β} {b : β} {ts : List Token} (part : β → π)
    (current : σ → Option β)
    (hfield : ∀ draft, R.field (R.name (part b)) draft
      = Reader.once (R.name (part b)) (current draft) r fun c => R.put (part c) draft)
    (hcurrent : ∀ draft c, current draft = some c →
      R.name (part c) = R.name (part b) ∧ R.Has draft (part c))
    (hr : Gives r ts (some b)) : R.Reads (part b) ts := by
  intro draft hfresh
  have hnone : current draft = none := Option.eq_none_iff_forall_ne_some.mpr fun c hc =>
    hfresh (part c) (hcurrent draft c hc).1 (hcurrent draft c hc).2
  exact ⟨_, (hfield draft).trans (once_eq_ok_iff.mpr ⟨hnone, rfl⟩), hr.map _⟩

/-- The draft with these parts put in, one after the other. -/
def fill (parts : List π) (draft : σ) : σ := parts.foldl (fun draft p => R.put p draft) draft

/-- A place that is not given anything stays as it is. -/
theorem has_fill_of_forall_ne {parts : List π} {q : π} (h : ∀ p ∈ parts, R.name q ≠ R.name p) :
    R.Has (R.fill parts draft) q ↔ R.Has draft q := by
  induction parts generalizing draft with
  | nil => exact Iff.rfl
  | cons p parts ih =>
      obtain ⟨hp, hparts⟩ := List.forall_mem_cons.mp h
      exact (ih hparts).trans (R.has_put_of_ne p q draft hp)

/-- With different names every part is in its place in the end. -/
theorem has_fill_of_mem {parts : List π} (hnames : (parts.map R.name).Nodup) {p : π}
    (hp : p ∈ parts) : R.Has (R.fill parts draft) p := by
  induction parts generalizing draft with
  | nil => cases hp
  | cons q parts ih =>
      obtain ⟨hq, hnames⟩ := List.nodup_cons.mp hnames
      rcases List.mem_cons.mp hp with rfl | hp
      · have hother : ∀ q ∈ parts, R.name p ≠ R.name q :=
          fun q hmem heq => hq (List.mem_map.mpr ⟨q, hmem, heq.symm⟩)
        -- The parts behind it have other names and leave its place alone.
        rw [fill, List.foldl_cons]
        exact (R.has_fill_of_forall_ne hother).mpr (R.has_put_self p draft)
      · exact ih hnames hp

/-- What is in a draft that was blank was given under its name. -/
theorem exists_mem_of_has_fill (hblank : ∀ q, ¬ R.Has draft q) {parts : List π}
    (hnames : (parts.map R.name).Nodup) {q : π} (h : R.Has (R.fill parts draft) q) :
    ∃ p ∈ parts, R.name p = R.name q ∧ R.Has (R.fill parts draft) p := by
  by_contra hnone
  push Not at hnone
  have hother : ∀ p ∈ parts, R.name q ≠ R.name p := fun p hp heq =>
    hnone p hp heq.symm (R.has_fill_of_mem hnames hp)
  exact hblank q ((R.has_fill_of_forall_ne hother).mp h)

/-- Different fields whose values are read fill the draft, in any order. -/
theorem fills {ι : Type} (part : ι → π) (tok : ι → List Token) {items : List ι}
    (hnames : ((items.map part).map R.name).Nodup)
    (hfresh : ∀ i ∈ items, R.Fresh draft (R.name (part i)))
    (hreads : ∀ i ∈ items, R.Reads (part i) (tok i)) :
    Fills R.field (items.map fun i => (R.name (part i), tok i)) draft
      (some (R.fill (items.map part) draft)) := by
  induction items generalizing draft with
  | nil => exact .nil draft
  | cons i items ih =>
      obtain ⟨hnotin, hnames⟩ := List.nodup_cons.mp hnames
      have hother (j : ι) (hj : j ∈ items) : R.name (part j) ≠ R.name (part i) :=
        fun heq => hnotin (List.mem_map.mpr ⟨part j, List.mem_map_of_mem hj, heq⟩)
      obtain ⟨r, hfield, hr⟩ := hreads i List.mem_cons_self draft (hfresh i List.mem_cons_self)
      refine .cons hfield hr (ih hnames (fun j hj => ?_) fun j hj => ?_)
      · exact R.fresh_put (hother j hj) (hfresh j (List.mem_cons_of_mem i hj))
      · exact hreads j (List.mem_cons_of_mem i hj)

/-- The fields of an object are different ones of the record, and each was read.
-/
structure Accepted (members : List (String × List Token)) : Prop where
  nodup : (members.map Prod.fst).Nodup
  known : ∀ m ∈ members, ∃ p, R.name p = m.1
  read : ∀ m ∈ members, ∃ draft r next, R.field m.1 draft = .ok r ∧ Gives r m.2 (some next)

/-- An object that is read is accepted field by field. -/
theorem accepted {members : List (String × List Token)} {done : σ}
    (h : Fills R.field members draft (some done)) :
    R.Accepted members ∧ ∀ m ∈ members, R.Fresh draft m.1 := by
  generalize ho : some done = o at h
  induction h with
  | nil draft => exact ⟨⟨List.nodup_nil, nofun, nofun⟩, nofun⟩
  | @cons name ts draft next r members o hfield hr h ih =>
      obtain ⟨hrest, hfreshRest⟩ := ih ho
      obtain ⟨hfresh, p, rfl, rfl⟩ := R.fresh_and_exists_put hfield hr
      -- No later field has the name, since the draft has a part of it from here
      -- on.
      have hother (m : String × List Token) (hm : m ∈ members) : m.1 ≠ R.name p :=
        fun heq => hfreshRest m hm p heq.symm (R.has_put_self p draft)
      refine ⟨⟨List.nodup_cons.mpr ⟨?_, hrest.nodup⟩, ?_, ?_⟩, ?_⟩
      · rintro hmem
        obtain ⟨m, hm, heq⟩ := List.mem_map.mp hmem
        exact hother m hm heq
      · exact List.forall_mem_cons.mpr ⟨⟨p, rfl⟩, hrest.known⟩
      · exact List.forall_mem_cons.mpr ⟨⟨draft, r, _, hfield, hr⟩, hrest.read⟩
      · refine List.forall_mem_cons.mpr ⟨hfresh, fun m hm q hq => ?_⟩
        rw [← R.has_put_of_ne p q draft (hq.trans_ne (hother m hm))]
        exact hfreshRest m hm q hq
  | stop hfield hr => cases ho
  | refused hfield => cases ho

/-- An object of values is refused if a field stands in it twice or is not
known. -/
theorem fills_none {known : List String} (hknown : ∀ p, R.name p ∈ known)
    {members : List (String × List Token)} (hmembers : ∀ m ∈ members, OneValue m.2)
    (hflawed : Flawed known members) (draft : σ) : Fills R.field members draft none := by
  obtain ⟨o, hfills⟩ := exists_fills (fun _ _ _ => R.takesWhole) hmembers draft
  cases o with
  | none => exact hfills
  | some done =>
      obtain ⟨haccepted, -⟩ := R.accepted hfills
      rcases hflawed with hrepeated | ⟨m, hm, hunknown⟩
      · exact absurd haccepted.nodup hrepeated
      · obtain ⟨p, hp⟩ := haccepted.known m hm
        exact absurd (hknown p) (hp ▸ hunknown)

end StrictRecord

end RankedBars
