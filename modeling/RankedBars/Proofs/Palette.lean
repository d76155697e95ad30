import Mathlib.Data.List.Forall2
import RankedBars.Palette
import RankedBars.Proofs.Text.LowerCase

/-!
# The first pattern that occurs

A palette looks at nothing but the lower-case form of a label, and it stores
nothing but the lower-case forms of its patterns (`classify_some`). Therefore
whatever leaves these forms alone leaves the color alone.

The empty label is set apart in the definition, and it would not have to be. No
stored pattern is empty, as lowering leaves no text without characters, so none
of them occurs in it.
-/

namespace RankedBars

namespace PaletteEntry

/-- The pattern of an entry stands in the lower-case form of a label. -/
def OccursIn (e : PaletteEntry) (label : String) : Prop :=
  e.pattern.toList <:+: (Text.lowerCase label).toList

/-- An entry has been stored as another one: with its color, in lower case, and
with a pattern still. -/
def StoredAs (given stored : PaletteEntry) : Prop :=
  stored.pattern = Text.lowerCase given.pattern ∧ stored.pattern ≠ "" ∧ stored.color = given.color

end PaletteEntry

namespace Palette

/-- An entry of a palette is the first one that occurs in a label. -/
def FirstMatch (palette : Palette) (label : String) (e : PaletteEntry) : Prop :=
  e.OccursIn label ∧ ∃ before after, palette.entries = before ++ e :: after ∧
    ∀ earlier ∈ before, ¬ earlier.OccursIn label

/-- No entry of a palette occurs in a label. -/
def NoMatch (palette : Palette) (label : String) : Prop :=
  ∀ e ∈ palette.entries, ¬ e.OccursIn label

/-- The entry that decides about a label. -/
def match? (palette : Palette) (label : String) : Option PaletteEntry :=
  palette.entries.find? fun e => occursIn e.pattern.toList (Text.lowerCase label).toList

variable {palette : Palette} {label other : String} {e : PaletteEntry}
  {entries : List PaletteEntry} {fallback : Color}

theorem match?_eq_some_iff : palette.match? label = some e ↔ palette.FirstMatch label e := by
  rw [match?, List.find?_eq_some_iff_append]
  simp only [occursIn_iff, Bool.not_eq_true', ← Bool.not_eq_true]
  rfl

theorem match?_eq_none_iff : palette.match? label = none ↔ palette.NoMatch label := by
  rw [match?, List.find?_eq_none]
  simp only [occursIn_iff]
  rfl

theorem match?_congr (h : Text.lowerCase label = Text.lowerCase other) :
    palette.match? label = palette.match? other := by
  rw [match?, match?, h]

/-! ## Palettes as they are made -/

theorem pattern_ne_empty (h : e ∈ (ofEntries entries fallback).entries) : e.pattern ≠ "" := by
  obtain ⟨given, -, hne, rfl⟩ := mem_entries_ofEntries.mp h
  exact fun hempty => hne (Text.lowerCase_eq_empty_iff.mp hempty)

/-- The given entries with a pattern are stored, one for one. -/
theorem forall₂_storedAs (entries : List PaletteEntry) (fallback : Color) :
    List.Forall₂ PaletteEntry.StoredAs (entries.filter fun e => e.pattern ≠ "")
      (ofEntries entries fallback).entries := by
  rw [ofEntries, List.forall₂_map_right_iff, List.forall₂_same]
  intro given hgiven
  have hne : given.pattern ≠ "" := of_decide_eq_true (List.mem_filter.mp hgiven).2
  exact ⟨rfl, fun hempty => hne (Text.lowerCase_eq_empty_iff.mp hempty), rfl⟩

theorem noMatch_empty (entries : List PaletteEntry) (fallback : Color) :
    (ofEntries entries fallback).NoMatch "" := by
  intro e he hoccurs
  have hnil : e.pattern.toList = [] := List.infix_nil.mp hoccurs
  exact pattern_ne_empty he (String.toList_eq_nil_iff.mp hnil)

theorem classify_some (entries : List PaletteEntry) (fallback : Color) (label : String) :
    (ofEntries entries fallback).classify (some label)
      = ((ofEntries entries fallback).match? label).elim fallback (·.color) := by
  by_cases hempty : label = ""
  · rw [hempty, classify_empty, match?_eq_none_iff.mpr (noMatch_empty entries fallback)]
    rfl
  · rw [classify, if_neg hempty, match?]
    dsimp only
    generalize (ofEntries entries fallback).entries.find? _ = found
    cases found <;> rfl

theorem classify_of_noMatch (h : (ofEntries entries fallback).NoMatch label) :
    (ofEntries entries fallback).classify (some label) = fallback := by
  rw [classify_some, match?_eq_none_iff.mpr h]
  rfl

theorem classify_of_firstMatch (h : (ofEntries entries fallback).FirstMatch label e) :
    (ofEntries entries fallback).classify (some label) = e.color := by
  rw [classify_some, match?_eq_some_iff.mpr h]
  rfl

theorem classify_congr (h : Text.lowerCase label = Text.lowerCase other) :
    (ofEntries entries fallback).classify (some label)
      = (ofEntries entries fallback).classify (some other) := by
  rw [classify_some, classify_some, match?_congr h]

theorem exists_firstMatch (h : ¬ palette.NoMatch label) : ∃ e, palette.FirstMatch label e := by
  cases hmatch : palette.match? label with
  | none => exact absurd (match?_eq_none_iff.mp hmatch) h
  | some e => exact ⟨e, match?_eq_some_iff.mp hmatch⟩

theorem exists_ne_color (color : Color) : ∃ other : Color, other ≠ color := by
  by_cases hblack : color = .solid 0 0 0
  · exact ⟨.solid 1 1 1, by rw [hblack]; decide⟩
  · exact ⟨.solid 0 0 0, fun heq => hblack heq.symm⟩

/-- It is the fallback that a label has if nothing occurs in it, and only
then. -/
theorem always_fallback_iff (entries : List PaletteEntry) (fallback : Color) (label : String) :
    (∀ other, (ofEntries entries other).classify (some label) = other)
      ↔ (ofEntries entries fallback).NoMatch label := by
  constructor
  · intro hall
    by_contra hmatch
    obtain ⟨e, he⟩ := exists_firstMatch hmatch
    obtain ⟨other, hne⟩ := exists_ne_color e.color
    have hcolor : (ofEntries entries other).classify (some label) = e.color :=
      classify_of_firstMatch he
    exact hne ((hall other).symm.trans hcolor)
  · intro hnone other
    exact classify_of_noMatch hnone

theorem entries_ofEntries_cons (e : PaletteEntry) (entries : List PaletteEntry)
    (fallback : Color) : (ofEntries (e :: entries) fallback).entries =
      if e.pattern = "" then (ofEntries entries fallback).entries
      else ⟨Text.lowerCase e.pattern, e.color⟩ :: (ofEntries entries fallback).entries := by
  rw [ofEntries, List.filter_cons]
  by_cases hempty : e.pattern = ""
  · rw [if_neg (by simpa using hempty), if_pos hempty]
    rfl
  · rw [if_pos (by simpa using hempty), if_neg hempty]
    rfl

/-- Entries may change the case of letters of ASCII in their patterns. -/
theorem ofEntries_congr {others : List PaletteEntry} (h : List.Forall₂
    (fun e e' => e.pattern.toLower = e'.pattern.toLower ∧ e.color = e'.color) entries others) :
    ofEntries entries fallback = ofEntries others fallback := by
  have hentries :
      (ofEntries entries fallback).entries = (ofEntries others fallback).entries := by
    induction h with
    | nil => rfl
    | @cons e e' _ _ hsame _ ih =>
        have hpattern := Text.lowerCase_congr hsame.1
        have hempty : e.pattern = "" ↔ e'.pattern = "" := by
          rw [← Text.lowerCase_eq_empty_iff, hpattern, Text.lowerCase_eq_empty_iff]
        rw [entries_ofEntries_cons, entries_ofEntries_cons, ih, hpattern, hsame.2]
        simp only [hempty]
  exact congrArg (Palette.mk · fallback) hentries

/-- How a palette gives its colors. It stores the given entries that have a
pattern, in their order. A label has the color of the first stored entry that
occurs in it. It has the fallback color, whichever that is, exactly if it is
absent or empty or no stored entry occurs in it. The lower-case form of a label
has the color of the label. And the case of letters of ASCII, which are those
that `String.toLower` changes, is without effect on the color, in the label and
in the entries that a palette is made of. -/
theorem first_match_decides (entries : List PaletteEntry) (fallback : Color) :
    List.Forall₂ PaletteEntry.StoredAs (entries.filter fun e => e.pattern ≠ "")
      (ofEntries entries fallback).entries ∧
    (∀ label e, (ofEntries entries fallback).FirstMatch label e →
      (ofEntries entries fallback).classify (some label) = e.color) ∧
    (∀ label, (∀ other, (ofEntries entries other).classify label = other) ↔
      label = none ∨ label = some "" ∨
        ∃ text, label = some text ∧ (ofEntries entries fallback).NoMatch text) ∧
    (∀ label, (ofEntries entries fallback).classify (some (Text.lowerCase label))
      = (ofEntries entries fallback).classify (some label)) ∧
    (∀ label other, label.toLower = other.toLower →
      (ofEntries entries fallback).classify (some label)
        = (ofEntries entries fallback).classify (some other)) ∧
    ∀ others, List.Forall₂
      (fun e e' => e.pattern.toLower = e'.pattern.toLower ∧ e.color = e'.color) entries others →
      ∀ label, (ofEntries entries fallback).classify label
        = (ofEntries others fallback).classify label := by
  refine ⟨forall₂_storedAs entries fallback, fun label e => classify_of_firstMatch,
    fun label => ?_,
    fun label => classify_congr (Text.lowerCase_lowerCase label),
    fun label other h => classify_congr (Text.lowerCase_congr h),
    fun others h label => by rw [ofEntries_congr h]⟩
  cases label with
  | none => exact iff_of_true (fun _ => classify_none _) (.inl rfl)
  | some text =>
      rw [always_fallback_iff entries fallback text]
      constructor
      · exact fun hnone => .inr (.inr ⟨text, rfl, hnone⟩)
      · rintro (habsent | hempty | ⟨_, hsome, hnone⟩)
        · exact absurd habsent (Option.some_ne_none text)
        · rw [Option.some_inj.mp hempty]
          exact noMatch_empty entries fallback
        · rwa [Option.some_inj.mp hsome]

end Palette

end RankedBars
