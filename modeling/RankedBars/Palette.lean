import RankedBars.Color
import RankedBars.Text.LowerCase

/-!
# Palettes

A palette gives each label the color of the first of its patterns that occurs in
the label. Labels and patterns are compared in lower case. Order is priority:
some patterns occur together in one label, and the earlier one decides.
-/

namespace RankedBars

structure PaletteEntry where
  pattern : String
  color : Color
deriving DecidableEq

structure Palette where
  entries : List PaletteEntry
  fallback : Color
deriving DecidableEq

/-- Whether `part` stands somewhere in `whole`, without gaps. -/
def occursIn (part : List Char) : List Char → Bool
  | [] => part.isEmpty
  | c :: rest => part.isPrefixOf (c :: rest) || occursIn part rest

theorem occursIn_iff {part whole : List Char} : occursIn part whole = true ↔ part <:+: whole := by
  induction whole with
  | nil => rw [occursIn, List.isEmpty_iff, List.infix_nil]
  | cons c rest ih =>
      rw [occursIn, Bool.or_eq_true, ih, List.isPrefixOf_iff_prefix, List.infix_cons_iff]

namespace PaletteEntry

def toJson (e : PaletteEntry) : Json :=
  .object [("pattern", .text e.pattern), ("color", e.color.toJson)]

/-- The fields of an entry that have been read so far. -/
structure Draft where
  pattern : Option String := none
  color : Option Color := none

def Draft.field (name : String) (draft : Draft) : Except ShapeError (Reader Draft) :=
  match name with
  | "pattern" => Reader.once name draft.pattern Reader.text fun v => { draft with pattern := v }
  | "color" => Reader.once name draft.color Color.reader fun v => { draft with color := v }
  | _ => Reader.passedOver draft

def Draft.finish (draft : Draft) : Except ShapeError PaletteEntry := do
  return ⟨← Reader.required "pattern" draft.pattern, ← Reader.required "color" draft.color⟩

def reader : Reader PaletteEntry :=
  let shape := recordOfSize "PaletteEntry" 2
  Reader.record "PaletteEntry"
    (do Reader.ofShape (← Reader.object Draft.field {}).finish)
    (do return ⟨← Reader.element shape 0 Reader.text, ← Reader.element shape 1 Color.reader⟩)

end PaletteEntry

namespace Palette

/-- The palette of these entries, in their order. Patterns are stored in lower
case, and empty ones are left out because they occur in every label. -/
def ofEntries (entries : List PaletteEntry) (fallback : Color) : Palette where
  entries := (entries.filter fun e => e.pattern ≠ "").map
    fun e => { e with pattern := Text.lowerCase e.pattern }
  fallback

theorem mem_entries_ofEntries {entries : List PaletteEntry} {fallback : Color} {e : PaletteEntry} :
    e ∈ (ofEntries entries fallback).entries ↔
      ∃ given ∈ entries, given.pattern ≠ "" ∧
        e = { given with pattern := Text.lowerCase given.pattern } := by
  rw [ofEntries, List.mem_map]
  constructor
  · rintro ⟨given, hmem, rfl⟩
    have hkept := List.mem_filter.mp hmem
    exact ⟨given, hkept.1, of_decide_eq_true hkept.2, rfl⟩
  · rintro ⟨given, hmem, hne, rfl⟩
    exact ⟨given, List.mem_filter.mpr ⟨hmem, decide_eq_true hne⟩, rfl⟩

/-- The color of labels of no known family. -/
def builtinFallback : Color := .solid 0x8B 0x8D 0x8F

/-- The distribution families that are known from the start. -/
def builtinEntries : List PaletteEntry := [
  ⟨"fedora", .solid 0x51 0xA2 0xDA⟩,
  ⟨"centos", .solid 0x93 0x22 0x79⟩,
  ⟨"rhel", .solid 0xEE 0x00 0x00⟩,
  ⟨"epel", .solid 0xF0 0xAB 0x00⟩,
  ⟨"mageia", .solid 0x35 0xCA 0xED⟩,
  ⟨"opensuse", .solid 0x73 0xBA 0x25⟩,
  ⟨"openmandriva", .solid 0x70 0x3F 0xEC⟩,
  ⟨"amazon", .solid 0xFF 0x99 0x00⟩,
  ⟨"alma", .solid 0x0F 0x42 0x66⟩]

def builtin : Palette := ofEntries builtinEntries builtinFallback

instance : Inhabited Palette := ⟨builtin⟩

/-- The color of a label. A label that is absent or empty has the fallback
color. -/
def classify (palette : Palette) (label : Option String) : Color :=
  match label with
  | none => palette.fallback
  | some label =>
      if label = "" then palette.fallback
      else
        let lowered := (Text.lowerCase label).toList
        match palette.entries.find? fun e => occursIn e.pattern.toList lowered with
        | some e => e.color
        | none => palette.fallback

@[simp] theorem classify_none (palette : Palette) : palette.classify none = palette.fallback := rfl

@[simp] theorem classify_empty (palette : Palette) :
    palette.classify (some "") = palette.fallback := by
  rw [classify, if_pos rfl]

end Palette

end RankedBars
