import Mathlib.Data.List.TakeWhile
import RankedBars.Proofs.Text.LowerCase

/-!
# Lower case of a part of a text

A text that is a part of another one need not stay a part of it in lower case.
A capital sigma is lowered by what is around it, and what is around it in the
part may be less than what is around it in the whole: alone, `ΑΣ` ends in the
sigma that ends words, and in `ΑΣΑ` it does not.

Nothing else can happen. Of what is around a sigma only the nearest character
on either side counts that casing does not pass over. A part is steady if these
characters stand in it as far as they decide. The lower-case form of a steady
part is found in the lower-case form of every text that holds the part, and
that is so of no other part (`steady_iff_found`): an `A` in front of a part that
is not steady, or behind it, is enough to turn the one sigma in question.
-/

namespace RankedBars.Text

/-! ## Neighbors -/

/-- The first character that casing does not pass over. -/
def neighbor? (cs : List Char) : Option Char :=
  cs.find? fun c => !inRanges caseIgnorableRanges c

/-- The surroundings of a sigma, nearest character first on both sides, that
decide its form, whatever stands farther away. If both neighbors are among them
they do; and one of them alone does if it rules out that a word ends here. -/
def Decides (before after : List Char) : Prop :=
  (∃ c, neighbor? before = some c ∧ inRanges casedRanges c = false) ∨
  (∃ c, neighbor? after = some c ∧ inRanges casedRanges c = true) ∨
  ((neighbor? before).isSome ∧ (neighbor? after).isSome)

/-- The form of a capital sigma. -/
def sigmaForm (before after : List Char) : Char :=
  if meetsCased before && !meetsCased after then 'ς' else 'σ'

variable {before before' after after' cs : List Char} {c : Char}

theorem meetsCased_eq (cs : List Char) :
    meetsCased cs = (neighbor? cs).any (inRanges casedRanges) := by
  rw [neighbor?, List.find?_eq_head?_dropWhile_not, meetsCased]
  simp only [Bool.not_not]
  cases cs.dropWhile (inRanges caseIgnorableRanges) <;> rfl

theorem neighbor?_append (cs after : List Char) :
    neighbor? (cs ++ after) = (neighbor? cs).or (neighbor? after) := by
  rw [neighbor?, List.find?_append]
  rfl

theorem meetsCased_append (cs after : List Char) :
    meetsCased (cs ++ after)
      = if (neighbor? cs).isSome then meetsCased cs else meetsCased after := by
  rw [meetsCased_eq, meetsCased_eq, meetsCased_eq, neighbor?_append]
  cases neighbor? cs <;> rfl

theorem meetsCased_append_of_none (h : neighbor? cs = none) (after : List Char) :
    meetsCased (cs ++ after) = meetsCased after := by
  rw [meetsCased_append, h, Option.isSome_none, if_neg Bool.false_ne_true]

theorem meetsCased_append_congr (cs : List Char) (h : meetsCased after = meetsCased after') :
    meetsCased (cs ++ after) = meetsCased (cs ++ after') := by
  rw [meetsCased_append, meetsCased_append, h]

theorem passes_sigma : inRanges caseIgnorableRanges 'Σ' = false := by decide +kernel

theorem meetsCased_sigma (cs : List Char) : meetsCased ('Σ' :: cs) = true := by
  have hcased : inRanges casedRanges 'Σ' = true := by decide +kernel
  rw [meetsCased, List.dropWhile_cons_of_neg (by rw [passes_sigma]; decide)]
  exact hcased

theorem not_mem_of_neighbor?_eq_none (h : neighbor? cs = none) : 'Σ' ∉ cs := by
  intro hmem
  have hpassed := List.find?_eq_none.mp h 'Σ' hmem
  rw [passes_sigma] at hpassed
  exact hpassed rfl

theorem sigmaForm_congr (hbefore : meetsCased before = meetsCased before')
    (hafter : meetsCased after = meetsCased after') :
    sigmaForm before after = sigmaForm before' after' := by
  rw [sigmaForm, sigmaForm, hbefore, hafter]

theorem sigmaForm_of_decides (h : Decides before after) (farBefore farAfter : List Char) :
    sigmaForm (before ++ farBefore) (after ++ farAfter) = sigmaForm before after := by
  rw [sigmaForm, sigmaForm, meetsCased_append, meetsCased_append]
  obtain ⟨c, hc, huncased⟩ | ⟨c, hc, hcased⟩ | ⟨hbefore, hafter⟩ := h
  · have hnot : meetsCased before = false := by rw [meetsCased_eq, hc]; exact huncased
    rw [hc, Option.isSome_some, if_pos rfl, hnot, Bool.false_and, Bool.false_and]
  · have hmeets : meetsCased after = true := by rw [meetsCased_eq, hc]; exact hcased
    rw [hc, Option.isSome_some, if_pos rfl, hmeets, Bool.not_true, Bool.and_false, Bool.and_false]
  · rw [if_pos hbefore, if_pos hafter]

/-! ## The lower-case form of a part -/

/-- Lower-cases `cs` where it stands between `before`, nearest character first,
and `after`. -/
def lowerWithin (before : List Char) : (cs : List Char) → (after : List Char) → List Char
  | [], _ => []
  | c :: rest, after =>
      (if c = 'Σ' then [sigmaForm before (rest ++ after)] else lowerChar c) ++
        lowerWithin (c :: before) rest after

theorem lowerAfter_append (before cs after : List Char) :
    lowerAfter before (cs ++ after)
      = lowerWithin before cs after ++ lowerAfter (cs.reverse ++ before) after := by
  induction cs generalizing before with
  | nil => rfl
  | cons c rest ih =>
      rw [List.cons_append, lowerAfter, ih, lowerWithin, List.append_assoc, List.reverse_cons,
        List.append_assoc, List.singleton_append]
      rfl

theorem lowerWithin_nil_right (before cs : List Char) :
    lowerWithin before cs [] = lowerAfter before cs := by
  have happend := lowerAfter_append before cs []
  rw [List.append_nil] at happend
  rw [happend, lowerAfter, List.append_nil]

/-- Only as much of the surroundings counts as a sigma next to them would see.
-/
theorem lowerWithin_congr (hbefore : meetsCased before = meetsCased before')
    (hafter : meetsCased after = meetsCased after') :
    lowerWithin before cs after = lowerWithin before' cs after' := by
  induction cs generalizing before before' with
  | nil => rfl
  | cons c rest ih =>
      have hnext : meetsCased (c :: before) = meetsCased (c :: before') :=
        meetsCased_append_congr [c] hbefore
      rw [lowerWithin, lowerWithin, ih hnext,
        sigmaForm_congr hbefore (meetsCased_append_congr rest hafter)]

theorem lowerAfter_congr (h : meetsCased before = meetsCased before') :
    lowerAfter before cs = lowerAfter before' cs := by
  rw [← lowerWithin_nil_right, ← lowerWithin_nil_right, lowerWithin_congr h rfl]

theorem lowerWithin_of_not_mem (h : 'Σ' ∉ cs) :
    lowerWithin before cs after = cs.flatMap lowerChar := by
  induction cs generalizing before with
  | nil => rfl
  | cons c rest ih =>
      rw [List.mem_cons, not_or] at h
      rw [lowerWithin, if_neg (Ne.symm h.1), ih h.2, List.flatMap_cons]

/-- A text cut open at one of its sigmas. -/
theorem lowerAfter_at_sigma (far before after : List Char) :
    lowerAfter far (before ++ 'Σ' :: after)
      = lowerWithin far before ('Σ' :: after) ++
          sigmaForm (before.reverse ++ far) after :: lowerAfter ['Σ'] after := by
  have hfar : lowerAfter ('Σ' :: (before.reverse ++ far)) after = lowerAfter ['Σ'] after :=
    lowerAfter_congr (by rw [meetsCased_sigma, meetsCased_sigma])
  rw [lowerAfter_append, lowerAfter, if_pos rfl, hfar]
  rfl

-- A word goes on behind a mark.
example : lowerCase (String.ofList ['Α', 'Σ', Char.ofNat 0x10EFC, 'Α'])
    = String.ofList ['α', 'σ', Char.ofNat 0x10EFC, 'α'] := by decide +kernel

/-! ## Steady texts -/

/-- What stands around its sigmas in a text decides their forms. -/
def Steady (cs : List Char) : Prop :=
  ∀ before after, cs = before ++ 'Σ' :: after → Decides before.reverse after

theorem steady_of_not_mem (h : 'Σ' ∉ cs) : Steady cs := by
  rintro before after rfl
  exact absurd (List.mem_append_right before List.mem_cons_self) h

theorem lowerWithin_of_steady (h : Steady cs) (before after : List Char) :
    lowerWithin before cs after = lowerAfter [] cs := by
  -- `seen` is the part of the text that has been passed, nearest character
  -- first
  have hgeneral (seen rest : List Char)
      (hrest : ∀ x y, rest = x ++ 'Σ' :: y → Decides (x.reverse ++ seen) y) :
      lowerWithin (seen ++ before) rest after = lowerAfter seen rest := by
    induction rest generalizing seen with
    | nil => rfl
    | cons c rest ih =>
        have htail :
            lowerWithin (c :: seen ++ before) rest after = lowerAfter (c :: seen) rest := by
          refine ih (c :: seen) fun x y hxy => ?_
          have hdecides := hrest (c :: x) y (by rw [hxy]; rfl)
          rwa [List.reverse_cons, List.append_assoc] at hdecides
        rw [List.cons_append] at htail
        rw [lowerWithin, lowerAfter, htail]
        split
        · next hsigma =>
            have hdecides : Decides seen rest := hrest [] rest (by rw [hsigma]; rfl)
            rw [sigmaForm_of_decides hdecides]
            rfl
        · rfl
  exact hgeneral [] cs fun x y hxy => by
    rw [List.append_nil]
    exact h x y hxy

/-! ## Found in lower case -/

theorem toList_lowerCase (s : String) : (lowerCase s).toList = lowerAfter [] s.toList := by
  rw [lowerCase, String.toList_ofList]

variable {part whole : String}

theorem infix_lowerCase_of_steady (hsteady : Steady part.toList)
    (hpart : part.toList <:+: whole.toList) :
    (lowerCase part).toList <:+: (lowerCase whole).toList := by
  obtain ⟨before, after, hwhole⟩ := hpart
  rw [toList_lowerCase, toList_lowerCase, ← hwhole, List.append_assoc, lowerAfter_append,
    lowerAfter_append, lowerWithin_of_steady hsteady, ← List.append_assoc]
  exact List.infix_append _ _ _

/-- A text is not found where one of its characters has become another one and
nothing else has been added that could stand for it. -/
theorem not_infix_of_turned {xs ys front back : List Char} {s t : Char} (hst : s ≠ t)
    (hfront : s ∉ front) (hback : s ∉ back) :
    ¬ xs ++ s :: ys <:+: front ++ (xs ++ t :: ys) ++ back := by
  intro hinfix
  -- the part has one `s` more than the whole
  have hcount := hinfix.sublist.count_le s
  simp only [List.count_append, List.count_cons_self, List.count_cons_of_ne (Ne.symm hst),
    List.count_eq_zero_of_not_mem hfront, List.count_eq_zero_of_not_mem hback] at hcount
  omega

theorem meetsCased_letter : meetsCased ['A'] = true := by decide +kernel

/-- A cased character in front makes a word end at a sigma. -/
theorem not_infix_behind_letter {before after : List Char}
    (hbefore : neighbor? before.reverse = none) (hafter : meetsCased after = false) :
    ¬ lowerAfter [] (before ++ 'Σ' :: after) <:+:
      lowerAfter [] ('A' :: (before ++ 'Σ' :: after)) := by
  have hnone : 'Σ' ∉ before := fun hmem =>
    not_mem_of_neighbor?_eq_none hbefore (List.mem_reverse.mpr hmem)
  have hmeets := meetsCased_append_of_none hbefore
  have halone : sigmaForm (before.reverse ++ []) after = 'σ' := by
    rw [sigmaForm, hmeets, hafter]
    rfl
  have hwhole : sigmaForm (before.reverse ++ ['A']) after = 'ς' := by
    rw [sigmaForm, hmeets, meetsCased_letter, hafter]
    rfl
  have hfront : lowerAfter [] ('A' :: (before ++ 'Σ' :: after))
      = ['a'] ++ lowerAfter ['A'] (before ++ 'Σ' :: after) := rfl
  rw [hfront, lowerAfter_at_sigma, lowerAfter_at_sigma, halone, hwhole,
    lowerWithin_of_not_mem hnone, lowerWithin_of_not_mem hnone, ← List.append_nil (['a'] ++ _)]
  exact not_infix_of_turned (by decide) (by decide) List.not_mem_nil

/-- A cased character behind keeps a word from ending at a sigma. -/
theorem not_infix_before_letter {before after : List Char}
    (hbefore : meetsCased before.reverse = true) (hafter : neighbor? after = none) :
    ¬ lowerAfter [] (before ++ 'Σ' :: after) <:+:
      lowerAfter [] (before ++ 'Σ' :: after ++ ['A']) := by
  have hnone : 'Σ' ∉ after := not_mem_of_neighbor?_eq_none hafter
  have hmeets := meetsCased_append_of_none hafter
  have halone : sigmaForm (before.reverse ++ []) after = 'ς' := by
    have hend := hmeets []
    rw [List.append_nil] at hend
    rw [sigmaForm, List.append_nil, hbefore, hend]
    rfl
  have hwhole : sigmaForm (before.reverse ++ []) (after ++ ['A']) = 'σ' := by
    rw [sigmaForm, List.append_nil, hbefore, hmeets, meetsCased_letter]
    rfl
  have hfar : lowerWithin [] before ('Σ' :: (after ++ ['A']))
      = lowerWithin [] before ('Σ' :: after) :=
    lowerWithin_congr rfl (by rw [meetsCased_sigma, meetsCased_sigma])
  have hback : lowerAfter ['Σ'] (after ++ ['A']) = after.flatMap lowerChar ++ ['a'] := by
    rw [lowerAfter_append, lowerWithin_of_not_mem hnone]
    rfl
  have hend : lowerAfter ['Σ'] after = after.flatMap lowerChar := by
    rw [← lowerWithin_nil_right, lowerWithin_of_not_mem hnone]
  rw [List.append_assoc, List.cons_append, lowerAfter_at_sigma, lowerAfter_at_sigma, halone, hwhole,
    hfar, hback, hend, ← List.nil_append (_ ++ 'σ' :: _), ← List.cons_append, ← List.append_assoc,
    ← List.append_assoc]
  exact not_infix_of_turned (by decide) List.not_mem_nil (by decide)

/-- A text that is not steady is missed in some text that holds it. -/
theorem exists_not_infix (h : ¬ Steady part.toList) : ∃ whole : String,
    part.toList <:+: whole.toList ∧ ¬ (lowerCase part).toList <:+: (lowerCase whole).toList := by
  rw [Steady] at h
  push Not at h
  obtain ⟨before, after, hpart, hopen⟩ := h
  obtain ⟨hleft, hright, hboth⟩ : ¬ _ ∧ ¬ _ ∧ ¬ _ := by rwa [Decides, not_or, not_or] at hopen
  -- what is open about the sigma is its left side, or else its right one
  cases hbefore : neighbor? before.reverse with
  | none =>
      have hafter : meetsCased after = false := by
        rw [meetsCased_eq, Option.any_eq_false]
        exact fun c hc => Bool.eq_false_iff.mpr fun hcased => hright ⟨c, hc, hcased⟩
      refine ⟨String.ofList ('A' :: part.toList), ?_, ?_⟩
      · rw [String.toList_ofList]
        exact (List.suffix_cons 'A' part.toList).isInfix
      · rw [toList_lowerCase, toList_lowerCase, String.toList_ofList, hpart]
        exact not_infix_behind_letter hbefore hafter
  | some l =>
      have hmeets : meetsCased before.reverse = true := by
        rw [meetsCased_eq, hbefore]
        by_contra huncased
        exact hleft ⟨l, hbefore, Bool.eq_false_iff.mpr huncased⟩
      have hafter : neighbor? after = none := Option.not_isSome_iff_eq_none.mp fun hsome =>
        hboth ⟨by rw [hbefore]; rfl, hsome⟩
      refine ⟨String.ofList (part.toList ++ ['A']), ?_, ?_⟩
      · rw [String.toList_ofList]
        exact (List.prefix_append part.toList ['A']).isInfix
      · rw [toList_lowerCase, toList_lowerCase, String.toList_ofList, hpart]
        exact not_infix_before_letter hmeets hafter

/-- Which texts are found in lower case wherever they stand. -/
theorem steady_iff_found : Steady part.toList ↔ ∀ whole : String,
    part.toList <:+: whole.toList → (lowerCase part).toList <:+: (lowerCase whole).toList := by
  refine ⟨fun hsteady whole => infix_lowerCase_of_steady hsteady, fun hfound => ?_⟩
  by_contra hopen
  obtain ⟨whole, hpart, hmissed⟩ := exists_not_infix hopen
  exact hmissed (hfound whole hpart)

end RankedBars.Text
