import RankedBars.Dashboard
import RankedBars.Proofs.Palette

/-!
# Palettes made of palettes

A dashboard that keeps the built-in families makes its palette of the entries of
the built-in one, which have been through this once already. That is harmless.
Entries in lower case that have a pattern are stored as they are, and stored
entries are of this kind, since lowering is done once and for all and leaves no
pattern empty.
-/

namespace RankedBars

namespace PaletteEntry

/-- An entry as it is stored: its pattern is in lower case and not empty. -/
def IsStored (e : PaletteEntry) : Prop :=
  e.pattern ≠ "" ∧ Text.lowerCase e.pattern = e.pattern

instance (e : PaletteEntry) : Decidable e.IsStored := inferInstanceAs (Decidable (_ ∧ _))

end PaletteEntry

namespace Palette

variable {entries : List PaletteEntry} {fallback : Color} {e : PaletteEntry}

theorem isStored_of_mem (h : e ∈ (ofEntries entries fallback).entries) : e.IsStored := by
  obtain ⟨given, -, -, rfl⟩ := mem_entries_ofEntries.mp h
  exact ⟨pattern_ne_empty h, Text.lowerCase_lowerCase given.pattern⟩

/-- Entries as they are stored are stored as they are. -/
theorem ofEntries_of_isStored (h : ∀ e ∈ entries, e.IsStored) :
    ofEntries entries fallback = ⟨entries, fallback⟩ := by
  have hentries : (ofEntries entries fallback).entries = entries := by
    induction entries with
    | nil => rfl
    | cons e rest ih =>
        obtain ⟨⟨hne, hlower⟩, hrest⟩ := List.forall_mem_cons.mp h
        rw [entries_ofEntries_cons, if_neg hne, hlower, ih hrest]
  exact congrArg (Palette.mk · fallback) hentries

/-- With any fallback, the entries of a palette are stored as they are. -/
theorem ofEntries_entries (entries : List PaletteEntry) (fallback other : Color) :
    ofEntries (ofEntries entries fallback).entries other
      = ⟨(ofEntries entries fallback).entries, other⟩ :=
  ofEntries_of_isStored fun _ => isStored_of_mem

/-- The families that are known from the start, as they are listed. -/
def families : Palette := ⟨builtinEntries, builtinFallback⟩

theorem builtin_eq : builtin = families :=
  ofEntries_of_isStored (by decide +kernel)

end Palette

open Palette

/-- The palette of a dashboard that keeps the built-in families. -/
theorem Dashboard.palette_of_families (d : Dashboard) :
    { d with paletteEntries := none }.palette
      = ofEntries builtinEntries (d.fallbackColor.getD builtinFallback) := by
  rw [Dashboard.palette, Option.getD_none, builtin_eq]
  rfl

/-- Making a palette of the entries and the fallback color of a palette makes
that palette again. The stored entries are the given ones that have a pattern,
one for one. So a dashboard that keeps the built-in families gives a label the
color of the first of them that occurs in it, in the order in which they are
listed, and otherwise its own fallback color or the built-in one. -/
theorem palettes_are_stable (entries : List PaletteEntry) (fallback : Color) :
    ofEntries (ofEntries entries fallback).entries (ofEntries entries fallback).fallback
      = ofEntries entries fallback ∧
    List.Forall₂ PaletteEntry.StoredAs (entries.filter fun e => e.pattern ≠ "")
      (ofEntries entries fallback).entries ∧
    ∀ d : Dashboard,
      (∀ label e, families.FirstMatch label e →
        { d with paletteEntries := none }.palette.classify (some label) = e.color) ∧
      (∀ label, families.NoMatch label →
        { d with paletteEntries := none }.palette.classify (some label)
          = d.fallbackColor.getD builtinFallback) ∧
      { d with paletteEntries := none }.palette.classify none
        = d.fallbackColor.getD builtinFallback := by
  refine ⟨ofEntries_entries entries fallback fallback, forall₂_storedAs entries fallback,
    fun d => ?_⟩
  -- the entries of the palette do not depend on its fallback color
  have hentries (other : Color) : (ofEntries builtinEntries other).entries = families.entries :=
    calc (ofEntries builtinEntries other).entries
      _ = builtin.entries := rfl
      _ = families.entries := by rw [builtin_eq]
  rw [d.palette_of_families]
  refine ⟨fun label e hfirst => ?_, fun label hnone => ?_, rfl⟩
  · refine classify_of_firstMatch ?_
    rwa [FirstMatch, hentries]
  · refine classify_of_noMatch ?_
    rwa [NoMatch, hentries]

end RankedBars
