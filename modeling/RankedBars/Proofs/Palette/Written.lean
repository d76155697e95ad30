import Mathlib.Data.List.TakeDrop
import Mathlib.Data.Nat.Find
import RankedBars.Proofs.Palette
import RankedBars.Proofs.Text.Sigma

/-!
# Patterns that are written in a label

A pattern is compared in lower case, and it is lowered on its own, away from the
label. So a label that holds a pattern character for character need not match
it: the pattern may end in a sigma that ends no word in the label. This is the
one way in which a written pattern is missed, and only patterns that are not
steady are missed in it (`written_pattern_decides_iff`).

Entries are counted as they are given. Those without a pattern are never stored
and decide nothing, but they keep their places.
-/

namespace RankedBars

namespace PaletteEntry

/-- An entry as it is given, its pattern in any case, matches a label. -/
def Matches (e : PaletteEntry) (label : String) : Prop :=
  e.pattern ≠ "" ∧ (Text.lowerCase e.pattern).toList <:+: (Text.lowerCase label).toList

end PaletteEntry

namespace Palette

/-- The given entry at this place matches a label. -/
def MatchesAt (entries : List PaletteEntry) (label : String) (place : Nat) : Prop :=
  ∃ e, entries[place]? = some e ∧ e.Matches label

/-- The given entry at this place decides about a label: it is the first one
that matches. -/
def DecidesAt (entries : List PaletteEntry) (label : String) (place : Nat) : Prop :=
  MatchesAt entries label place ∧ ∀ earlier < place, ¬ MatchesAt entries label earlier

variable {entries : List PaletteEntry} {fallback : Color} {label : String} {e : PaletteEntry}
  {place : Nat}

theorem entries_ofEntries_append (before after : List PaletteEntry) (fallback : Color) :
    (ofEntries (before ++ after) fallback).entries
      = (ofEntries before fallback).entries ++ (ofEntries after fallback).entries := by
  rw [ofEntries, List.filter_append, List.map_append]
  rfl

/-- The entry that decides, as it is stored. -/
theorem firstMatch_of_decidesAt (h : DecidesAt entries label place)
    (he : entries[place]? = some e) :
    (ofEntries entries fallback).FirstMatch label ⟨Text.lowerCase e.pattern, e.color⟩ := by
  obtain ⟨⟨e', he', hne, hoccurs⟩, hearlier⟩ := h
  obtain rfl : e = e' := Option.some_inj.mp (he.symm.trans he')
  obtain ⟨hlt, hget⟩ := List.getElem?_eq_some_iff.mp he
  have hsplit : entries = entries.take place ++ e :: entries.drop (place + 1) := by
    rw [← hget, List.cons_getElem_drop_succ, List.take_append_drop]
  refine ⟨hoccurs, (ofEntries (entries.take place) fallback).entries,
    (ofEntries (entries.drop (place + 1)) fallback).entries, ?_, ?_⟩
  · rw [hsplit, entries_ofEntries_append, entries_ofEntries_cons, if_neg hne, ← hsplit]
  · intro stored hstored hmatches
    obtain ⟨given, hgiven, hgivenNe, rfl⟩ := mem_entries_ofEntries.mp hstored
    obtain ⟨earlier, hearlierLt, hgivenAt⟩ := List.mem_take_iff_getElem.mp hgiven
    refine hearlier earlier (by omega) ⟨given, ?_, hgivenNe, hmatches⟩
    exact List.getElem?_eq_some_iff.mpr ⟨by omega, hgivenAt⟩

theorem classify_of_decidesAt (h : DecidesAt entries label place) (he : entries[place]? = some e) :
    (ofEntries entries fallback).classify (some label) = e.color := by
  have hmatch : (ofEntries entries fallback).FirstMatch label ⟨Text.lowerCase e.pattern, e.color⟩ :=
    firstMatch_of_decidesAt h he
  rw [classify_of_firstMatch hmatch]

/-- A label that an entry matches is decided by that entry or by one before
it. -/
theorem exists_decidesAt (h : MatchesAt entries label place) :
    ∃ first ≤ place, DecidesAt entries label first := by
  classical
  have hsome : ∃ first, MatchesAt entries label first := ⟨place, h⟩
  exact ⟨Nat.find hsome, Nat.find_min' hsome h, Nat.find_spec hsome, fun _ => Nat.find_min hsome⟩

theorem matchesAt_of_written (he : entries[place]? = some e) (hne : e.pattern ≠ "")
    (hsteady : Text.Steady e.pattern.toList) (hwritten : e.pattern.toList <:+: label.toList) :
    MatchesAt entries label place :=
  ⟨e, he, hne, Text.infix_lowerCase_of_steady hsteady hwritten⟩

/-- Which patterns decide about every label they are written in, unless an
entry before them does: the steady ones, to which all patterns without a capital
sigma belong. The label then has the color of the entry that decides. -/
theorem written_pattern_decides_iff (pattern : String) :
    ('Σ' ∉ pattern.toList → Text.Steady pattern.toList) ∧
    (Text.Steady pattern.toList ↔
      ∀ (entries : List PaletteEntry) (fallback color : Color) (label : String) (place : Nat),
        entries[place]? = some ⟨pattern, color⟩ → pattern ≠ "" →
        pattern.toList <:+: label.toList →
        ∃ first ≤ place, DecidesAt entries label first ∧
          ∃ e, entries[first]? = some e ∧
            (ofEntries entries fallback).classify (some label) = e.color) := by
  refine ⟨Text.steady_of_not_mem, fun hsteady => ?_, fun hdecides => ?_⟩
  · intro entries fallback color label place he hne hwritten
    obtain ⟨first, hle, hfirst⟩ := exists_decidesAt (matchesAt_of_written he hne hsteady hwritten)
    obtain ⟨e, hfirstAt, -⟩ := hfirst.1
    exact ⟨first, hle, hfirst, e, hfirstAt, classify_of_decidesAt hfirst hfirstAt⟩
  · refine Text.steady_iff_found.mpr fun label hwritten => ?_
    by_cases hempty : pattern = ""
    · rw [Text.lowerCase_eq_empty_iff.mpr hempty]
      exact List.nil_infix
    · -- a palette of this one pattern has no other entry that could decide
      obtain ⟨first, hle, ⟨⟨e, he, -, hoccurs⟩, -⟩, -⟩ :=
        hdecides [⟨pattern, .black⟩] .white .black label 0 rfl hempty hwritten
      obtain rfl : first = 0 := Nat.le_zero.mp hle
      obtain rfl : ⟨pattern, .black⟩ = e := Option.some_inj.mp he
      exact hoccurs

/-- `ΑΣ` is written in `ΑΣΑ` and does not match it, so that the label has the
fallback color. -/
theorem written_pattern_is_missed :
    "ΑΣ".toList <:+: "ΑΣΑ".toList ∧ (¬ ∃ place, DecidesAt [⟨"ΑΣ", .black⟩] "ΑΣΑ" place) ∧
      (ofEntries [⟨"ΑΣ", .black⟩] .white).classify (some "ΑΣΑ") = .white := by
  have hmissed : ¬ (Text.lowerCase "ΑΣ").toList <:+: (Text.lowerCase "ΑΣΑ").toList := by
    decide +kernel
  refine ⟨by decide, ?_, classify_of_noMatch fun stored hstored => ?_⟩
  · rintro ⟨place, ⟨e, he, -, hoccurs⟩, -⟩
    obtain rfl := List.mem_singleton.mp (List.mem_of_getElem? he)
    exact hmissed hoccurs
  · obtain ⟨given, hgiven, -, rfl⟩ := mem_entries_ofEntries.mp hstored
    obtain rfl := List.mem_singleton.mp hgiven
    exact hmissed

end Palette

end RankedBars
