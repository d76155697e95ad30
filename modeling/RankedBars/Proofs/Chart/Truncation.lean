import RankedBars.Chart.Drawing
import RankedBars.Proofs.Chart.LabelWidth

/-!
# Labels that were cut

A label that is too wide keeps as many characters as fit beside an ellipsis,
and whether they fit is decided by the sum of two widths. Each of them grows
with the characters, so the loop stops at the longest part that qualifies
(`LongestFitting`) as soon as one sum is above the room and still a word.
There is only one such part, which is all that a second cut needs.

A sum that is no word any more comes out below the width of the ellipsis, and
so it never stops the loop. If no sum tells that the room is full, nothing of
the label is left out, and the ellipsis stands behind the whole of it.

What is left is one text, and its width is not that sum. It is estimated as a
whole, in floating point, and can come out one pixel above. If the width of
the ellipsis is more than three fifths of the font size, there is air enough in
the sum. If it is exactly that, some label is cut to be a pixel too wide.
-/

namespace RankedBars.Chart

variable {s : String} {f room : Nat} {p q cs : List Char}

@[simp] theorem textWidth_ofList (p : List Char) (f : Nat) :
    textWidth (String.ofList p) f = widthOfCount p.length f := by
  rw [textWidth, String.length_ofList]

theorem textWidth_ellipsis (f : Nat) : textWidth "…" f = widthOfCount 1 f := rfl

/-- Characters that are not too wide together with an ellipsis, each of the
two measured by itself. -/
def Qualifies (f room : Nat) (p : List Char) : Prop :=
  textWidth (String.ofList p) f + textWidth "…" f ≤ room

theorem qualifies_iff : Qualifies f room p ↔
    widthOfCount p.length f + widthOfCount 1 f ≤ room := by
  rw [Qualifies, textWidth_ofList, textWidth_ellipsis]

/-- The longest initial part that qualifies, or nothing if none does. -/
structure LongestFitting (f room : Nat) (cs p : List Char) : Prop where
  initial : p <+: cs
  fits : p = [] ∨ Qualifies f room p
  longest : ∀ q, q <+: cs → Qualifies f room q → q.length ≤ p.length

namespace LongestFitting

theorem length_le (hp : LongestFitting f room cs p) (hq : LongestFitting f room cs q) :
    p.length ≤ q.length := by
  rcases hp.fits with rfl | hfits
  · exact Nat.zero_le _
  · exact hq.longest p hp.initial hfits

theorem unique (hp : LongestFitting f room cs p) (hq : LongestFitting f room cs q) : p = q :=
  (List.prefix_of_prefix_length_le hp.initial hq.initial (hp.length_le hq)).eq_of_length
    (Nat.le_antisymm (hp.length_le hq) (hq.length_le hp))

/-- A text that has been cut is cut at the same place, if at all. -/
theorem cut (h : LongestFitting f room cs p) (hwide : room < widthOfCount (p.length + 1) f) :
    LongestFitting f room (p ++ [ellipsis]) p := by
  refine ⟨List.prefix_append _ _, h.fits, fun q hq hfits => ?_⟩
  have hlength := hq.length_le
  rw [List.length_append, List.length_singleton] at hlength
  rw [qualifies_iff] at hfits
  by_contra hlonger
  have hwhole : q.length = p.length + 1 := by omega
  rw [hwhole] at hfits
  omega

end LongestFitting

/-! ## The loop -/

/-- How many characters are kept, where it is known how many fit. Sums of
longer parts do not matter then. -/
theorem keepFitting_eq_take {m kept : Nat}
    (hfits : ∀ k, 0 < k → k ≤ m → (widthOfCount k f + widthOfCount 1 f) % Nat.pow 2 32 ≤ room)
    (hover : m < kept + cs.length →
      room < (widthOfCount (m + 1) f + widthOfCount 1 f) % Nat.pow 2 32)
    (hkept : kept ≤ m) : keepFitting f room kept cs = cs.take (m - kept) := by
  induction cs generalizing kept with
  | nil => rw [keepFitting, List.take_nil]
  | cons c rest ih =>
      rw [List.length_cons] at hover
      rw [keepFitting]
      rcases Nat.lt_or_eq_of_le hkept with hlt | rfl
      · have hmore : m - kept = m - (kept + 1) + 1 := by omega
        have hlast (h : m < kept + 1 + rest.length) := hover (by omega)
        rw [if_neg (Nat.not_lt.mpr (hfits _ (Nat.succ_pos kept) hlt)), ih hlast hlt, hmore,
          List.take_succ_cons]
      · rw [if_pos (hover (by omega)), Nat.sub_self, List.take_zero]

/-- A sum that is no word any more never stops the loop. -/
theorem wrapped_sum_le {k : Nat} (hroom : widthOfCount 1 f ≤ room)
    (hsum : widthOfCount k f + widthOfCount 1 f ≤ room ∨
      2 ^ 32 ≤ widthOfCount k f + widthOfCount 1 f) :
    (widthOfCount k f + widthOfCount 1 f) % Nat.pow 2 32 ≤ room := by
  have hword : Nat.pow 2 32 = 2 ^ 32 := by decide
  have hmost : mostPixels + 1 = 2 ^ 32 := by decide
  have hcount := widthOfCount_le k f
  have hone := widthOfCount_le 1 f
  rw [hword]
  omega

/-- If no sum tells that the room is full, nothing is left out. -/
theorem keepFitting_eq_self (hroom : widthOfCount 1 f ≤ room)
    (hsum : ∀ k ≤ cs.length, widthOfCount k f + widthOfCount 1 f ≤ room ∨
      2 ^ 32 ≤ widthOfCount k f + widthOfCount 1 f) : keepFitting f room 0 cs = cs := by
  rw [keepFitting_eq_take (fun k _ hk => wrapped_sum_le hroom (hsum k hk))
    (fun h => absurd h (by omega)) (Nat.zero_le _), Nat.sub_zero, List.take_length]

/-- The last character that fits, if a later one does not. -/
theorem exists_last_fitting {n : Nat} (hpos : 0 < n)
    (hover : room < widthOfCount n f + widthOfCount 1 f) :
    ∃ m < n, (0 < m → widthOfCount m f + widthOfCount 1 f ≤ room) ∧
      room < widthOfCount (m + 1) f + widthOfCount 1 f := by
  induction n with
  | zero => exact absurd hpos (Nat.lt_irrefl 0)
  | succ n ih =>
      by_cases hlast : 0 < n → widthOfCount n f + widthOfCount 1 f ≤ room
      · exact ⟨n, Nat.lt_succ_self n, hlast, hover⟩
      · obtain ⟨hn, hnot⟩ := Classical.not_imp.mp hlast
        obtain ⟨m, hlt, hm⟩ := ih hn (Nat.lt_of_not_le hnot)
        exact ⟨m, Nat.lt_succ_of_lt hlt, hm⟩

theorem longestFitting_take {m : Nat} (hlength : m ≤ cs.length)
    (hfits : 0 < m → widthOfCount m f + widthOfCount 1 f ≤ room)
    (hover : room < widthOfCount (m + 1) f + widthOfCount 1 f) :
    LongestFitting f room cs (cs.take m) := by
  have hkept : (cs.take m).length = m := List.length_take_of_le hlength
  refine ⟨List.take_prefix m cs, ?_, fun q _ hqualifies => ?_⟩
  · rw [qualifies_iff, hkept]
    rcases Nat.eq_zero_or_pos m with rfl | hpos
    · exact .inl List.take_zero
    · exact .inr (hfits hpos)
  · by_contra hlonger
    have hmore : m + 1 ≤ q.length := by omega
    have hmono := widthOfCount_mono hmore (Nat.le_refl f)
    rw [qualifies_iff] at hqualifies
    omega

/-- One sum that is above the room and a word is enough for the loop to stop
where it should, since the sums before it are words too. -/
theorem longestFitting_keepFitting {n : Nat} (hpos : 0 < n) (hlength : n ≤ cs.length)
    (hover : room < widthOfCount n f + widthOfCount 1 f)
    (hword : widthOfCount n f + widthOfCount 1 f < 2 ^ 32) :
    LongestFitting f room cs (keepFitting f room 0 cs) ∧
      (keepFitting f room 0 cs).length < cs.length := by
  obtain ⟨m, hm, hlast, hnext⟩ := exists_last_fitting hpos hover
  have hkept : keepFitting f room 0 cs = cs.take m := by
    refine keepFitting_eq_take (fun k hk hkm => (Nat.mod_le _ _).trans ?_) (fun _ => ?_)
      (Nat.zero_le m)
    · have hmono := widthOfCount_mono hkm (Nat.le_refl f)
      have hfits := hlast (hk.trans_le hkm)
      omega
    · have hmono := widthOfCount_mono hm (Nat.le_refl f)
      have hpow : Nat.pow 2 32 = 2 ^ 32 := by decide
      rwa [hpow, Nat.mod_eq_of_lt ((Nat.add_le_add_right hmono _).trans_lt hword)]
  rw [hkept, List.length_take_of_le (by omega)]
  exact ⟨longestFitting_take (by omega) hlast hnext, by omega⟩

theorem truncate_of_le (h : textWidth s f ≤ room) : truncate s f room = s := if_pos h

theorem sum_lt_of_le (hsize : (s.length + 1) * f ≤ 2 ^ 32) {k : Nat} (hk : k ≤ s.length) :
    widthOfCount k f + widthOfCount 1 f < 2 ^ 32 :=
  widthOfCount_add_lt ((Nat.mul_le_mul_right f (Nat.succ_le_succ hk)).trans hsize)

/-- What becomes of a text that is too wide. -/
theorem exists_longestFitting (hwide : room < textWidth s f) {n : Nat} (hpos : 0 < n)
    (hlength : n ≤ s.length) (hover : room < widthOfCount n f + widthOfCount 1 f)
    (hword : widthOfCount n f + widthOfCount 1 f < 2 ^ 32) :
    ∃ p, LongestFitting f room s.toList p ∧ p.length < s.length ∧
      truncate s f room = String.ofList (p ++ [ellipsis]) := by
  rw [← String.length_toList] at hlength ⊢
  obtain ⟨hlongest, hproper⟩ := longestFitting_keepFitting hpos hlength hover hword
  exact ⟨_, hlongest, hproper, if_neg (Nat.not_le.mpr hwide)⟩

theorem length_pos_of_wide (hwide : room < textWidth s f) : 0 < s.length := by
  refine Nat.pos_of_ne_zero fun hzero => ?_
  rw [textWidth, hzero, widthOfCount_zero] at hwide
  exact Nat.not_lt_zero _ hwide

/-- In a short text the last sum is above the room and a word. -/
theorem exists_longestFitting_of_le (hsize : (s.length + 1) * f ≤ 2 ^ 32)
    (hwide : room < textWidth s f) : ∃ p, LongestFitting f room s.toList p ∧
      p.length < s.length ∧ truncate s f room = String.ofList (p ++ [ellipsis]) :=
  exists_longestFitting hwide (length_pos_of_wide hwide) (Nat.le_refl _)
    (hwide.trans_le (Nat.le_add_right _ _)) (widthOfCount_add_lt hsize)

theorem length_truncated (p : List Char) : (p ++ [ellipsis]).length = p.length + 1 := by
  rw [List.length_append, List.length_singleton]

/-- A second cut finds nothing to do, or does the same. -/
theorem truncate_truncate (hsize : (s.length + 1) * f ≤ 2 ^ 32) :
    truncate (truncate s f room) f room = truncate s f room := by
  by_cases hfits : textWidth s f ≤ room
  · rw [truncate_of_le hfits, truncate_of_le hfits]
  · obtain ⟨p, hlongest, hlength, heq⟩ :=
      exists_longestFitting_of_le hsize (Nat.lt_of_not_le hfits)
    rw [heq]
    by_cases hagain : textWidth (String.ofList (p ++ [ellipsis])) f ≤ room
    · exact truncate_of_le hagain
    · have hwide := Nat.lt_of_not_le hagain
      have hshorter : ((String.ofList (p ++ [ellipsis])).length + 1) * f ≤ 2 ^ 32 := by
        rw [String.length_ofList, length_truncated]
        exact (Nat.mul_le_mul_right f (Nat.succ_le_succ hlength)).trans hsize
      obtain ⟨q, hq, -, hcut⟩ := exists_longestFitting_of_le hshorter hwide
      rw [textWidth_ofList, length_truncated] at hwide
      rw [String.toList_ofList] at hq
      rw [hcut, hq.unique (hlongest.cut hwide)]

/-- Cutting keeps the longest part that there is room for, and it does so
once. No sum of the widths of a part and of the ellipsis overflows. A text
that fits is left alone. Of another one a proper part is kept, and no longer
part qualifies. -/
theorem truncation_keeps_the_longest (s : String) (f room : Nat)
    (hsize : (s.length + 1) * f ≤ 2 ^ 32) :
    (∀ p, p <+: s.toList → textWidth (String.ofList p) f + textWidth "…" f < 2 ^ 32) ∧
    (textWidth s f ≤ room → truncate s f room = s) ∧
    (room < textWidth s f → ∃ p, p <+: s.toList ∧ p.length < s.length ∧
      truncate s f room = String.ofList (p ++ [ellipsis]) ∧
      (p = [] ∨ textWidth (String.ofList p) f + textWidth "…" f ≤ room) ∧
      ∀ q, q <+: s.toList → textWidth (String.ofList q) f + textWidth "…" f ≤ room →
        q.length ≤ p.length) ∧
    truncate (truncate s f room) f room = truncate s f room := by
  refine ⟨fun p hp => ?_, truncate_of_le, fun hwide => ?_, truncate_truncate hsize⟩
  · rw [textWidth_ofList, textWidth_ellipsis]
    exact sum_lt_of_le hsize (hp.length_le.trans_eq String.length_toList)
  · obtain ⟨p, hlongest, hlength, heq⟩ := exists_longestFitting_of_le hsize hwide
    exact ⟨p, hlongest.initial, hlength, heq, hlongest.fits, hlongest.longest⟩

/-- A label of twenty-eight characters in eighty pixels. -/
theorem truncation_keeps_the_longest_in_eighty :
    ("openmandriva-rolling-aarch64".length + 1) * 12 ≤ 2 ^ 32 ∧
    (∃ p, p <+: "openmandriva-rolling-aarch64".toList ∧
      truncate "openmandriva-rolling-aarch64" 12 80 = String.ofList (p ++ [ellipsis])) ∧
    truncate "openmandriva-rolling-aarch64" 12 80 = "openmandri…" ∧
    truncate "openmandri…" 12 80 = "openmandri…" := by
  have hsize : ("openmandriva-rolling-aarch64".length + 1) * 12 ≤ 2 ^ 32 := by decide +kernel
  have hcut : truncate "openmandriva-rolling-aarch64" 12 80 = "openmandri…" := by decide +kernel
  obtain ⟨-, -, hlongest, hagain⟩ :=
    truncation_keeps_the_longest "openmandriva-rolling-aarch64" 12 80 hsize
  obtain ⟨p, hinitial, -, heq, -⟩ := hlongest (by decide +kernel)
  rw [hcut] at hagain
  exact ⟨hsize, ⟨p, hinitial, heq⟩, hcut, hagain⟩

/-! ## What is left of a label -/

/-- What is left fits if and only if no part that qualifies is too wide once
the ellipsis is part of it, since the widest of them is the one that is kept.
-/
theorem LongestFitting.width_le_iff (h : LongestFitting f room s.toList p)
    (hproper : p.length < s.length) (hroom : textWidth "…" f ≤ room) :
    textWidth (String.ofList (p ++ [ellipsis])) f ≤ room ↔
      ∀ q, q <+: s.toList → q.length < s.length → Qualifies f room q →
        textWidth (String.ofList (q ++ [ellipsis])) f ≤ room := by
  simp only [textWidth_ofList, length_truncated]
  constructor
  · intro hle q hq _ hqualifies
    have hshorter := h.longest q hq hqualifies
    exact (widthOfCount_mono (Nat.succ_le_succ hshorter) (Nat.le_refl f)).trans hle
  · intro hall
    rcases h.fits with rfl | hqualifies
    · exact hroom
    · exact hall p h.initial hproper hqualifies

theorem textWidth_truncate_le_iff (hsize : (s.length + 1) * f ≤ 2 ^ 32)
    (hroom : textWidth "…" f ≤ room) : textWidth (truncate s f room) f ≤ room ↔
      ∀ p, p <+: s.toList → p.length < s.length → Qualifies f room p →
        textWidth (String.ofList (p ++ [ellipsis])) f ≤ room := by
  by_cases hfits : textWidth s f ≤ room
  · rw [truncate_of_le hfits]
    refine iff_of_true hfits fun p _ hlength _ => ?_
    rw [textWidth_ofList, length_truncated]
    exact (widthOfCount_mono hlength (Nat.le_refl f)).trans hfits
  · obtain ⟨p, hlongest, hproper, heq⟩ :=
      exists_longestFitting_of_le hsize (Nat.lt_of_not_le hfits)
    rw [heq, hlongest.width_le_iff hproper hroom]

/-- If no sum tells that the room is full, the ellipsis stands behind the whole
label. -/
theorem truncate_of_wraps (hroom : textWidth "…" f ≤ room) (hwide : room < textWidth s f)
    (hsum : ∀ p, p <+: s.toList → textWidth (String.ofList p) f + textWidth "…" f ≤ room ∨
      2 ^ 32 ≤ textWidth (String.ofList p) f + textWidth "…" f) :
    truncate s f room = String.ofList (s.toList ++ [ellipsis]) := by
  have hcounts (k : Nat) (hk : k ≤ s.toList.length) : widthOfCount k f + widthOfCount 1 f ≤ room ∨
      2 ^ 32 ≤ widthOfCount k f + widthOfCount 1 f := by
    have hpart := hsum (s.toList.take k) (List.take_prefix k _)
    rwa [textWidth_ofList, textWidth_ellipsis, List.length_take_of_le hk] at hpart
  rw [truncate, if_neg (Nat.not_le.mpr hwide), keepFitting_eq_self hroom hcounts]

example : truncate "aa" 4294967295 3000000000 = "aa…" := by decide +kernel

/-- A part that is known not to fit is not empty, and its sum ends the loop. -/
theorem exists_longestFitting_of_told (hroom : textWidth "…" f ≤ room)
    (hwide : room < textWidth s f) {q : List Char} (hq : q <+: s.toList)
    (hover : room < textWidth (String.ofList q) f + textWidth "…" f)
    (hword : textWidth (String.ofList q) f + textWidth "…" f < 2 ^ 32) :
    ∃ p, LongestFitting f room s.toList p ∧ p.length < s.length ∧
      truncate s f room = String.ofList (p ++ [ellipsis]) := by
  have hlength := hq.length_le
  rw [String.length_toList] at hlength
  rw [textWidth_ofList, textWidth_ellipsis] at hover hword
  have hpos : 0 < q.length := by
    refine Nat.pos_of_ne_zero fun hzero => ?_
    rw [hzero, widthOfCount_zero, Nat.zero_add] at hover
    exact absurd hover (Nat.not_lt.mpr hroom)
  exact exists_longestFitting hwide hpos hlength hover hword

/-- A label that is too wide is cut to fit if and only if some sum tells that
the room is full, and no part that qualifies is too wide with the ellipsis. -/
theorem textWidth_truncate_le_iff_of_wide (hroom : textWidth "…" f ≤ room)
    (hwide : room < textWidth s f) : textWidth (truncate s f room) f ≤ room ↔
      (∃ p, p <+: s.toList ∧ room < textWidth (String.ofList p) f + textWidth "…" f ∧
        textWidth (String.ofList p) f + textWidth "…" f < 2 ^ 32) ∧
      ∀ p, p <+: s.toList → p.length < s.length → Qualifies f room p →
        textWidth (String.ofList (p ++ [ellipsis])) f ≤ room := by
  by_cases htold : ∃ p, p <+: s.toList ∧ room < textWidth (String.ofList p) f + textWidth "…" f ∧
      textWidth (String.ofList p) f + textWidth "…" f < 2 ^ 32
  · obtain ⟨q, hq, hover, hword⟩ := htold
    obtain ⟨p, hlongest, hproper, heq⟩ :=
      exists_longestFitting_of_told hroom hwide hq hover hword
    rw [heq, hlongest.width_le_iff hproper hroom]
    exact (and_iff_right ⟨q, hq, hover, hword⟩).symm
  · have hsum (p : List Char) (hp : p <+: s.toList) :
        textWidth (String.ofList p) f + textWidth "…" f ≤ room ∨
          2 ^ 32 ≤ textWidth (String.ofList p) f + textWidth "…" f := by
      by_contra hneither
      rw [not_or, Nat.not_le, Nat.not_le] at hneither
      exact htold ⟨p, hp, hneither⟩
    refine iff_of_false (Nat.not_le.mpr (hwide.trans_le ?_)) fun h => htold h.1
    rw [truncate_of_wraps hroom hwide hsum, textWidth_ofList, length_truncated,
      String.length_toList]
    exact widthOfCount_mono (Nat.le_succ s.length) (Nat.le_refl f)

/-- A short label is cut to at most one pixel too many. -/
theorem textWidth_truncate_near (hshort : s.length * f ≤ 2 ^ 21) (hroom : textWidth "…" f ≤ room) :
    textWidth (truncate s f room) f ≤ room + 1 ∧
    (5 * textWidth "…" f ≠ 3 * f → textWidth (truncate s f room) f ≤ room) := by
  by_cases hfits : textWidth s f ≤ room
  · rw [truncate_of_le hfits]
    exact ⟨Nat.le_succ_of_le hfits, fun _ => hfits⟩
  · have hwide := Nat.lt_of_not_le hfits
    have hsize : (s.length + 1) * f ≤ 2 ^ 32 := by
      have hone := Nat.le_mul_of_pos_left f (length_pos_of_wide hwide)
      rw [Nat.add_one_mul]
      omega
    obtain ⟨p, hlongest, hlength, heq⟩ := exists_longestFitting_of_le hsize hwide
    rw [textWidth_ellipsis] at *
    rw [heq, textWidth_ofList, length_truncated]
    rcases hlongest.fits with rfl | hqualifies
    · exact ⟨Nat.le_succ_of_le hroom, fun _ => hroom⟩
    · have hnext := widthOfCount_succ_le ((Nat.mul_le_mul_right f hlength).trans hshort)
      rw [qualifies_iff] at hqualifies
      exact ⟨by omega, fun hair => by have := hnext.2 hair; omega⟩

/-- The font size of the charts is one of those that leave air. -/
theorem textWidth_truncate_fontSize_le (hshort : s.length * fontSize ≤ 2 ^ 21)
    (hroom : textWidth "…" fontSize ≤ room) :
    textWidth (truncate s fontSize room) fontSize ≤ room :=
  (textWidth_truncate_near hshort hroom).2 (by rw [fontSize]; omega)

/-- If a width is above three fifths, there is a character that makes it so. -/
theorem exists_first_width_above {a : Nat} (ha : a * f ≤ 2 ^ 21)
    (habove : 3 * (a * f) < 5 * widthOfCount a f) : ∃ n, (n + 1) * f ≤ 2 ^ 21 ∧
      5 * widthOfCount n f = 3 * (n * f) ∧ 3 * ((n + 1) * f) < 5 * widthOfCount (n + 1) f := by
  induction a with
  | zero =>
      rw [widthOfCount_zero] at habove
      exact absurd habove (Nat.not_lt_zero _)
  | succ a ih =>
      have hsize : a * f ≤ 2 ^ 21 := (Nat.mul_le_mul_right f (Nat.le_succ a)).trans ha
      by_cases hpart : 3 * (a * f) < 5 * widthOfCount a f
      · exact ih hsize hpart
      · have hnear := widthOfCount_near hsize
        exact ⟨a, ha, Nat.le_antisymm (Nat.le_of_not_lt hpart) hnear.1, habove⟩

/-- Every font size has a multiple in the upper part of one binade, where no
width is exact. -/
theorem exists_width_above (hpos : 0 < f) (hf : f ≤ 2 ^ 18) :
    ∃ a, a * f ≤ 2 ^ 21 ∧ 3 * (a * f) < 5 * widthOfCount a f := by
  have hbelow := Nat.div_mul_le_self (5 * 2 ^ 18) f
  have habove := Nat.lt_div_mul_add (a := 5 * 2 ^ 18) hpos
  rw [← Nat.add_one_mul (5 * 2 ^ 18 / f)] at habove
  have hle : (5 * 2 ^ 18 / f + 1) * f ≤ 6 * 2 ^ 18 := by
    rw [Nat.add_one_mul (5 * 2 ^ 18 / f)]
    omega
  exact ⟨_, hle.trans (by decide), lt_widthOfCount habove hle⟩

/-- Where the width of one character is exact, some text gets a pixel more
than three fifths with its last character. In the room of its parts it is cut
by that character, and the ellipsis in its place brings the pixel back. -/
theorem exists_too_wide (hpos : 0 < f) (hf : f ≤ 2 ^ 18) (hexact : 5 * textWidth "…" f = 3 * f) :
    ∃ s room, s.length * f ≤ 2 ^ 21 ∧ textWidth "…" f ≤ room ∧
      room < textWidth (truncate s f room) f := by
  obtain ⟨a, ha, habove⟩ := exists_width_above hpos hf
  obtain ⟨n, hshort, hpart, hwhole⟩ := exists_first_width_above ha habove
  rw [textWidth_ellipsis] at *
  have hover : widthOfCount n f + widthOfCount 1 f < widthOfCount (n + 1) f := by
    refine Nat.lt_of_mul_lt_mul_left (a := 5) ?_
    calc
      _ = 5 * widthOfCount n f + 5 * widthOfCount 1 f := Nat.mul_add ..
      _ = 3 * (n * f) + 3 * f := by rw [hpart, hexact]
      _ = 3 * ((n + 1) * f) := by ring
      _ < _ := hwhole
  obtain ⟨s, hs⟩ : ∃ s : String, s.toList = List.replicate (n + 1) 'a' :=
    ⟨_, String.toList_ofList⟩
  have hlength : s.length = n + 1 := by rw [← String.length_toList, hs, List.length_replicate]
  refine ⟨s, widthOfCount n f + widthOfCount 1 f, by rwa [hlength], Nat.le_add_left _ _,
    Nat.lt_of_not_le fun hfits => ?_⟩
  have hsize : (s.length + 1) * f ≤ 2 ^ 32 := by
    rw [hlength, Nat.add_one_mul (n + 1)]
    exact (Nat.add_le_add hshort hf).trans (by decide)
  have hinitial : List.replicate n 'a' <+: s.toList := by
    rw [hs, List.replicate_succ']
    exact List.prefix_append _ _
  have hproper : (List.replicate n 'a').length < s.length := by
    rw [hlength, List.length_replicate]
    exact Nat.lt_succ_self n
  have hqualifies : Qualifies f (widthOfCount n f + widthOfCount 1 f) (List.replicate n 'a') := by
    rw [qualifies_iff, List.length_replicate]
  have hle := (textWidth_truncate_le_iff hsize (Nat.le_add_left _ _)).mp hfits _ hinitial hproper
    hqualifies
  rw [textWidth_ofList, length_truncated, List.length_replicate] at hle
  exact absurd hle (Nat.not_le.mpr hover)

/-- Which labels are cut to fit. A label that was cut fits if and only if no
part that there is room for beside an ellipsis is too wide with the ellipsis
in it. On a screen it is never more than one pixel too wide, and there the
font sizes under which every label is cut to fit are those of which three
fifths are less than the width of the ellipsis. If sums are no words any more,
it takes one sum besides that is above the room and still a word. Without it
nothing of the label is left out. -/
theorem cut_labels_fit_iff (f : Nat) :
    (∀ s room, (s.length + 1) * f ≤ 2 ^ 32 → textWidth "…" f ≤ room →
      (textWidth (truncate s f room) f ≤ room ↔ ∀ p, p <+: s.toList → p.length < s.length →
        textWidth (String.ofList p) f + textWidth "…" f ≤ room →
          textWidth (String.ofList (p ++ [ellipsis])) f ≤ room)) ∧
    (∀ s room, s.length * f ≤ 2 ^ 21 → textWidth "…" f ≤ room →
      textWidth (truncate s f room) f ≤ room + 1) ∧
    (0 < f → f ≤ 2 ^ 18 →
      ((∀ s room, s.length * f ≤ 2 ^ 21 → textWidth "…" f ≤ room →
        textWidth (truncate s f room) f ≤ room) ↔ 3 * f < 5 * textWidth "…" f)) ∧
    (∀ s room, textWidth "…" f ≤ room → room < textWidth s f →
      (textWidth (truncate s f room) f ≤ room ↔
        (∃ p, p <+: s.toList ∧ room < textWidth (String.ofList p) f + textWidth "…" f ∧
          textWidth (String.ofList p) f + textWidth "…" f < 2 ^ 32) ∧
        ∀ p, p <+: s.toList → p.length < s.length →
          textWidth (String.ofList p) f + textWidth "…" f ≤ room →
            textWidth (String.ofList (p ++ [ellipsis])) f ≤ room) ∧
      ((∀ p, p <+: s.toList → textWidth (String.ofList p) f + textWidth "…" f ≤ room ∨
          2 ^ 32 ≤ textWidth (String.ofList p) f + textWidth "…" f) →
        truncate s f room = String.ofList (s.toList ++ [ellipsis]))) := by
  refine ⟨fun s room hsize hroom => textWidth_truncate_le_iff hsize hroom,
    fun s room hshort hroom => (textWidth_truncate_near hshort hroom).1, fun hpos hf => ⟨?_, ?_⟩,
    fun s room hroom hwide =>
      ⟨textWidth_truncate_le_iff_of_wide hroom hwide, truncate_of_wraps hroom hwide⟩⟩
  · intro hall
    by_contra hexact
    have hone : 1 * f ≤ 2 ^ 21 := (Nat.one_mul f).trans_le (hf.trans (by decide))
    have hnear := widthOfCount_near hone
    rw [Nat.one_mul, ← textWidth_ellipsis] at hnear
    obtain ⟨s, room, hshort, hroom, hwide⟩ :=
      exists_too_wide hpos hf (Nat.le_antisymm (Nat.le_of_not_lt hexact) hnear.1)
    exact absurd (hall s room hshort hroom) (Nat.not_le.mpr hwide)
  · intro hair s room hshort hroom
    exact (textWidth_truncate_near hshort hroom).2 hair.ne'

/-- Four characters and an ellipsis take fifteen pixels, and five characters
take sixteen. -/
theorem cut_label_is_a_pixel_too_wide : textWidth "…" 5 ≤ 15 ∧ truncate "aaaaa" 5 15 = "aaaa…" ∧
    ¬ textWidth (truncate "aaaaa" 5 15) 5 ≤ 15 := by
  decide +kernel

end RankedBars.Chart
