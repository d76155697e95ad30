import Mathlib.Data.List.Basic
import Mathlib.Order.Nat
import RankedBars.Text.LowerCase

/-!
# Lower case does not change again

A character on its own has one lower-case form, but a text is not lowered one
character at a time: a sigma looks at what is around it, and a dotted capital
becomes two characters. Two things hold of whole texts all the same.

Lowering a text that is in lower case already leaves it alone. What comes out
of lowering are settled characters, which no rule applies to, and settled
characters stay as they are wherever they stand. All that has to be looked at
is the table: no run moves its characters onto another one (`runs_apart`).

Letters of ASCII may change their case without any effect. They are lowered to
the same letter themselves, and a sigma that looks for cased characters sees
them as such in either case.
-/

namespace RankedBars.Text

/-! ## Runs -/

namespace CaseRun

variable {run other : CaseRun} {n : Nat}

theorem holds_iff : run.holds n = true ↔
    run.first ≤ n ∧ n ≤ run.last ∧ (n - run.first) % run.step = 0 := by
  simp [holds, and_assoc]

/-- What the characters of a run become, as a run that leads nowhere else. -/
def moved (run : CaseRun) : CaseRun where
  first := (run.first + run.shift).toNat
  last := (run.last + run.shift).toNat
  step := run.step
  shift := 0

/-- Two runs stand one behind the other, or the second one has every other
character and the first one is among the rest. -/
def apart (run other : CaseRun) : Bool :=
  -- this is evaluated for all pairs of the table, hence no decided inequality
  Nat.blt run.last other.first || Nat.blt other.last run.first ||
    other.step == 2 && (run.step == 2 || run.first == run.last) &&
      (run.first + other.first) % 2 == 1

theorem holds_moved (hpos : 0 ≤ run.first + run.shift) (h : run.holds n = true) :
    run.moved.holds (n + run.shift).toNat = true := by
  obtain ⟨hfirst, hlast, hstep⟩ := holds_iff.mp h
  have hdistance : (n + run.shift).toNat - (run.first + run.shift).toNat = n - run.first := by
    omega
  refine holds_iff.mpr ⟨?_, ?_, ?_⟩
  · exact Int.toNat_le_toNat (by omega)
  · exact Int.toNat_le_toNat (by omega)
  · rw [moved, hdistance, hstep]

theorem holds_of_apart (h : run.apart other = true) (hn : run.holds n = true) :
    other.holds n = false := by
  rw [Bool.eq_false_iff]
  intro hother
  obtain ⟨hfirst, hlast, hstep⟩ := holds_iff.mp hn
  obtain ⟨hfirst', hlast', hstep'⟩ := holds_iff.mp hother
  simp only [apart, Bool.and_eq_true, Bool.or_eq_true, Nat.blt_eq, beq_iff_eq] at h
  obtain (hbelow | habove) | ⟨⟨htwo, hown⟩, hodd⟩ := h
  · omega
  · omega
  · rw [htwo] at hstep'
    rcases hown with hown | hown
    · rw [hown] at hstep
      omega
    · omega

end CaseRun

/-! ## Settled characters -/

/-- The characters that have another lower-case form: the capitals of ASCII,
the dotted one, and those of the table. -/
def capitals : List CaseRun := ⟨0x41, 0x5A, 1, 32⟩ :: ⟨0x130, 0x130, 1, 0⟩ :: lowerCaseRuns

/-- A character is in lower case, as far as it has one. -/
def Settled (c : Char) : Prop := ∀ run ∈ capitals, run.holds c.toNat = false

instance (c : Char) : Decidable (Settled c) := inferInstanceAs (Decidable (∀ _ ∈ _, _))

theorem moved_nonneg : ∀ run ∈ lowerCaseRuns, 0 ≤ run.first + run.shift := by decide +kernel

theorem runs_apart :
    (lowerCaseRuns.all fun run => capitals.all (run.moved.apart ·)) = true := by decide +kernel

variable {c d : Char}

theorem isUpper_iff_val : c.isUpper = true ↔ 'A'.val ≤ c.val ∧ c.val ≤ 'Z'.val :=
  decide_eq_true_iff

theorem isUpper_iff : c.isUpper = true ↔ 65 ≤ c.toNat ∧ c.toNat ≤ 90 := by
  rw [isUpper_iff_val, UInt32.le_iff_toNat_le, UInt32.le_iff_toNat_le]
  rfl

theorem isUpper_of_le (h : 128 ≤ c.toNat) : c.isUpper = false := by
  rw [← Bool.not_eq_true, isUpper_iff]
  omega

/-- The number of a small letter is that of the capital and 32. -/
theorem toNat_toLower (c : Char) :
    c.toLower.toNat = if c.isUpper then c.toNat + 32 else c.toNat := by
  split
  · next hupper =>
      have hmoved : c.toLower = ⟨c.val + 32, _⟩ := dif_pos (isUpper_iff_val.mp hupper)
      have hbounds := isUpper_iff.mp hupper
      have hword : c.toNat + 32 < 2 ^ 32 := by omega
      rw [hmoved]
      show (c.val + 32).toNat = c.val.toNat + 32
      rw [UInt32.toNat_add]
      exact Nat.mod_eq_of_lt hword
  · next hother => exact congrArg Char.toNat (dif_neg (mt isUpper_iff_val.mpr hother))

theorem toLower_eq_self (h : c.isUpper = false) : c.toLower = c := by
  rw [← Char.toNat_inj, toNat_toLower, h, if_neg Bool.false_ne_true]

theorem isUpper_toLower (c : Char) : c.toLower.isUpper = false := by
  rw [← Bool.not_eq_true, isUpper_iff, toNat_toLower]
  split
  · next hupper =>
      have hbounds := isUpper_iff.mp hupper
      omega
  · next hother => exact mt isUpper_iff.mpr hother

theorem toNat_toLower_lt_iff : c.toLower.toNat < 128 ↔ c.toNat < 128 := by
  rw [toNat_toLower]
  split
  · next hupper =>
      have hbounds := isUpper_iff.mp hupper
      omega
  · exact Iff.rfl

theorem holds_ascii_iff : CaseRun.holds ⟨0x41, 0x5A, 1, 32⟩ c.toNat = true ↔ c.isUpper = true := by
  rw [CaseRun.holds_iff, isUpper_iff, Nat.mod_one]
  exact ⟨fun h => ⟨h.1, h.2.1⟩, fun h => ⟨h.1, h.2, rfl⟩⟩

theorem holds_dotted_iff : CaseRun.holds ⟨0x130, 0x130, 1, 0⟩ c.toNat = true ↔ c = 'İ' := by
  have hnumber : c = 'İ' ↔ c.toNat = 0x130 := Char.toNat_inj.symm
  rw [CaseRun.holds_iff, hnumber, Nat.mod_one]
  exact ⟨fun h => Nat.le_antisymm h.2.1 h.1, fun h => ⟨h.ge, h.le, rfl⟩⟩

/-- The three rules of `lowerChar`, none of which applies. -/
theorem settled_iff : Settled c ↔
    c.isUpper = false ∧ c ≠ 'İ' ∧ ∀ run ∈ lowerCaseRuns, run.holds c.toNat = false := by
  rw [Settled, capitals, List.forall_mem_cons, List.forall_mem_cons, ← Bool.not_eq_true,
    ← Bool.not_eq_true, holds_ascii_iff, holds_dotted_iff, Bool.not_eq_true]

theorem settled_of_lt (h : c.toNat < 128) (hupper : c.isUpper = false) : Settled c := by
  have hpast : ∀ run ∈ lowerCaseRuns, 128 ≤ run.first := by decide +kernel
  refine settled_iff.mpr ⟨hupper, ?_, fun run hrun => ?_⟩
  · rintro rfl
    exact absurd h (by decide)
  · have hle := hpast run hrun
    rw [← Bool.not_eq_true, CaseRun.holds_iff]
    omega

theorem settled_moved {run : CaseRun} (h : run ∈ lowerCaseRuns) (hc : run.holds c.toNat = true) :
    Settled (Char.ofNat (c.toNat + run.shift).toNat) := by
  intro other hother
  have hmoved := CaseRun.holds_moved (moved_nonneg run h) hc
  by_cases hvalid : (c.toNat + run.shift).toNat.isValidChar
  · have hchar : Char.ofNat (c.toNat + run.shift).toNat = .ofNatAux _ hvalid := dif_pos hvalid
    have hall := List.all_eq_true.mp (List.all_eq_true.mp runs_apart run h)
    rw [hchar]
    exact CaseRun.holds_of_apart (hall other hother) hmoved
  · -- what is no character is read as the one with number zero
    have hchar : Char.ofNat (c.toNat + run.shift).toNat = '\x00' := dif_neg hvalid
    have hzero : Settled '\x00' := by decide +kernel
    rw [hchar]
    exact hzero other hother

theorem settled_of_mem_lowerChar (h : d ∈ lowerChar c) : Settled d := by
  rw [lowerChar] at h
  split at h
  · next hascii =>
      rw [List.mem_singleton] at h
      rw [h]
      exact settled_of_lt (toNat_toLower_lt_iff.mpr hascii) (isUpper_toLower c)
  · next hascii =>
      split at h
      · rcases List.mem_pair.mp h with rfl | rfl
        · exact settled_of_lt (by decide) (by decide)
        · decide +kernel
      · next hdotted =>
          split at h
          · next run hfound =>
              rw [List.mem_singleton] at h
              rw [h]
              exact settled_moved (List.mem_of_find?_eq_some hfound)
                (by simpa using List.find?_some hfound)
          · next hnone =>
              rw [List.mem_singleton] at h
              rw [h]
              refine settled_iff.mpr
                ⟨isUpper_of_le (Nat.le_of_not_lt hascii), hdotted, fun run hrun => ?_⟩
              exact Bool.eq_false_iff.mpr (List.find?_eq_none.mp hnone run hrun)

theorem lowerChar_ne_nil (c : Char) : lowerChar c ≠ [] := by
  rw [lowerChar]
  repeat' split
  all_goals exact List.cons_ne_nil _ _

theorem lowerChar_of_settled (h : Settled c) : lowerChar c = [c] := by
  obtain ⟨hupper, hdotted, hruns⟩ := settled_iff.mp h
  rw [lowerChar]
  split
  · rw [toLower_eq_self hupper]
  · have hnone : lowerCaseRuns.find? (·.holds c.toNat) = none :=
      List.find?_eq_none.mpr fun run hrun => Bool.eq_false_iff.mp (hruns run hrun)
    rw [hnone]

theorem ne_sigma_of_settled (h : Settled c) : c ≠ 'Σ' := by
  rintro rfl
  exact absurd h (by decide +kernel)

/-! ## Texts in lower case -/

variable {before cs : List Char}

theorem settled_of_mem_lowerAfter (h : d ∈ lowerAfter before cs) : Settled d := by
  induction cs generalizing before with
  | nil => exact absurd h List.not_mem_nil
  | cons c rest ih =>
      rw [lowerAfter, List.mem_append] at h
      rcases h with hhead | hrest
      · split at hhead
        · rw [List.mem_singleton] at hhead
          rw [hhead]
          split <;> decide +kernel
        · exact settled_of_mem_lowerChar hhead
      · exact ih hrest

theorem lowerAfter_of_settled (h : ∀ c ∈ cs, Settled c) : lowerAfter before cs = cs := by
  induction cs generalizing before with
  | nil => rfl
  | cons c rest ih =>
      obtain ⟨hc, hrest⟩ := List.forall_mem_cons.mp h
      rw [lowerAfter, if_neg (ne_sigma_of_settled hc), lowerChar_of_settled hc, ih hrest]
      rfl

/-- A text in lower case is its own lower-case form. -/
theorem lowerCase_lowerCase (s : String) : lowerCase (lowerCase s) = lowerCase s := by
  have hsettled : ∀ c ∈ (lowerCase s).toList, Settled c := by
    rw [lowerCase, String.toList_ofList]
    exact fun c hc => settled_of_mem_lowerAfter hc
  rw [lowerCase, lowerAfter_of_settled hsettled, String.ofList_toList]

example : lowerCase "ΣİΣ" = "σi\u0307ς" := by decide +kernel

/-- Nothing but the empty text has no characters left in lower case. -/
theorem lowerCase_eq_empty_iff {s : String} : lowerCase s = "" ↔ s = "" := by
  rw [lowerCase, String.ofList_eq_empty_iff, ← String.toList_eq_nil_iff]
  cases hs : s.toList with
  | nil => exact iff_of_true rfl rfl
  | cons c rest =>
      refine iff_of_false (fun hnil => ?_) (List.cons_ne_nil c rest)
      rw [lowerAfter, List.append_eq_nil_iff] at hnil
      have hhead := hnil.1
      split at hhead
      · exact absurd hhead (List.cons_ne_nil _ _)
      · exact lowerChar_ne_nil c hhead

/-! ## Letters of ASCII -/

theorem isLower_iff : c.isLower = true ↔ 97 ≤ c.toNat ∧ c.toNat ≤ 122 := by
  have hval : c.isLower = true ↔ 'a'.val ≤ c.val ∧ c.val ≤ 'z'.val := by
    show (decide _ && decide _) = true ↔ _
    rw [Bool.and_eq_true, decide_eq_true_iff, decide_eq_true_iff]
  rw [hval, UInt32.le_iff_toNat_le, UInt32.le_iff_toNat_le]
  rfl

theorem isAlpha_iff : c.isAlpha = true ↔
    (65 ≤ c.toNat ∧ c.toNat ≤ 90) ∨ (97 ≤ c.toNat ∧ c.toNat ≤ 122) := by
  show (c.isUpper || c.isLower) = true ↔ _
  rw [Bool.or_eq_true, isUpper_iff, isLower_iff]

/-- Letters are cased, small ones and capitals. -/
theorem inRanges_cased_of_isAlpha (h : c.isAlpha = true) : inRanges casedRanges c = true := by
  rw [inRanges, List.any_eq_true]
  rcases isAlpha_iff.mp h with hupper | hlower
  · exact ⟨(0x41, 0x5A), by decide, by simpa using hupper⟩
  · exact ⟨(0x61, 0x7A), by decide, by simpa using hlower⟩

/-- Casing passes over no letter. -/
theorem inRanges_caseIgnorable_of_isAlpha (h : c.isAlpha = true) :
    inRanges caseIgnorableRanges c = false := by
  have hbeside : ∀ range ∈ caseIgnorableRanges,
      range.2 < 65 ∨ (90 < range.1 ∧ range.2 < 97) ∨ 122 < range.1 := by decide +kernel
  have hletter := isAlpha_iff.mp h
  rw [inRanges, List.any_eq_false]
  intro range hrange hholds
  have hplace := hbeside range hrange
  simp only [Bool.and_eq_true, decide_eq_true_eq] at hholds
  omega

/-- A set of characters that holds all letters or none does not tell their case
apart. -/
theorem inRanges_toLower {ranges : List (Nat × Nat)} {b : Bool}
    (h : ∀ c : Char, c.isAlpha = true → inRanges ranges c = b) (c : Char) :
    inRanges ranges c.toLower = inRanges ranges c := by
  cases hupper : c.isUpper with
  | false => rw [toLower_eq_self hupper]
  | true =>
      have hcapital := isUpper_iff.mp hupper
      have hsmall : 97 ≤ c.toLower.toNat ∧ c.toLower.toNat ≤ 122 := by
        rw [toNat_toLower, if_pos hupper]
        omega
      rw [h c (isAlpha_iff.mpr (.inl hcapital)), h c.toLower (isAlpha_iff.mpr (.inr hsmall))]

theorem meetsCased_map_toLower (cs : List Char) :
    meetsCased (cs.map Char.toLower) = meetsCased cs := by
  have hpassed : (inRanges caseIgnorableRanges ∘ Char.toLower) = inRanges caseIgnorableRanges :=
    funext (inRanges_toLower fun _ => inRanges_caseIgnorable_of_isAlpha)
  rw [meetsCased, meetsCased, List.dropWhile_map, hpassed]
  cases cs.dropWhile (inRanges caseIgnorableRanges) with
  | nil => rfl
  | cons c rest => exact inRanges_toLower (fun _ => inRanges_cased_of_isAlpha) c

theorem lowerChar_toLower (c : Char) : lowerChar c.toLower = lowerChar c := by
  by_cases hascii : c.toNat < 128
  · rw [lowerChar, lowerChar, if_pos hascii, if_pos (toNat_toLower_lt_iff.mpr hascii),
      toLower_eq_self (isUpper_toLower c)]
  · rw [toLower_eq_self (isUpper_of_le (Nat.le_of_not_lt hascii))]

theorem toLower_eq_sigma_iff : c.toLower = 'Σ' ↔ c = 'Σ' := by
  by_cases hascii : c.toNat < 128
  · have hlower := toNat_toLower_lt_iff.mpr hascii
    refine iff_of_false ?_ ?_
    · intro heq
      rw [heq] at hlower
      exact absurd hlower (by decide)
    · intro heq
      rw [heq] at hascii
      exact absurd hascii (by decide)
  · rw [toLower_eq_self (isUpper_of_le (Nat.le_of_not_lt hascii))]

theorem lowerAfter_map_toLower (before cs : List Char) :
    lowerAfter (before.map Char.toLower) (cs.map Char.toLower) = lowerAfter before cs := by
  induction cs generalizing before with
  | nil => rfl
  | cons c rest ih =>
      have hrest := ih (c :: before)
      rw [List.map_cons] at hrest
      rw [List.map_cons, lowerAfter, lowerAfter, hrest, meetsCased_map_toLower,
        meetsCased_map_toLower, lowerChar_toLower]
      simp only [toLower_eq_sigma_iff]

/-- Texts that differ in the case of letters of ASCII have one lower-case
form. -/
theorem lowerCase_congr {s t : String} (h : s.toLower = t.toLower) :
    lowerCase s = lowerCase t := by
  have hlower (s : String) : lowerCase s.toLower = lowerCase s := by
    show lowerCase (s.map Char.toLower) = lowerCase s
    rw [lowerCase, lowerCase, String.toList_map]
    exact congrArg String.ofList (lowerAfter_map_toLower [] s.toList)
  rw [← hlower s, ← hlower t, h]

end RankedBars.Text
