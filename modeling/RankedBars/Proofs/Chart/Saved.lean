import RankedBars.Chart.Saved
import RankedBars.Proofs.Color.RoundTrip

/-!
# Saved configurations

A saved configuration is read field by field in the order in which it is
written. All of it comes back as it was but the values, and each of those
comes back as JSON reads its numeral (`toOption_ofText_saved`). So a
configuration reads back if and only if every value is finite and its numeral
is read alike bare and in a text (`saved_reads_back_iff`). Whole numbers with a
digit to spare are such values.
-/

namespace RankedBars

open Json (Numeral tokens gives_text gives_bool gives_tokens_list)

/-! ## Words and values -/

theorem gives_integer (expected : String) {low high i : Int} (hrange : low ≤ i ∧ i ≤ high)
    (hlow : -2 ^ 63 ≤ i) (hhigh : i < 2 ^ 64) :
    Gives (Reader.integer expected low high) (tokens (.integer i)) (some i) := by
  have hgives := Gives.integer expected low high (Numeral.ofInt i).literal
  rwa [Numeral.value?_literal_ofInt hlow hhigh, Option.bind_some, Gives.inRange?, if_pos hrange,
    ← tokens] at hgives

theorem gives_word (n : UInt32) : Gives Reader.uint32 (tokens (jsonOfWord n)) (some n) := by
  have hlt : n.toNat < 2 ^ 32 := n.toNat_lt
  have hinteger : Gives (Reader.integer "u32" 0 (Nat.pow 2 32 - 1)) (tokens (.integer n.toNat))
      (some (n.toNat : Int)) :=
    gives_integer "u32" ⟨by omega, by rw [Nat.pow_eq]; omega⟩ (by omega) (by omega)
  have hword := hinteger.map fun value => UInt32.ofNat value.toNat
  rw [Option.map_some, Int.toNat_natCast, UInt32.ofNat_toNat] at hword
  exact hword

theorem gives_optionalWord (n : Option UInt32) :
    Gives (Reader.optional Reader.uint32) (tokens (.ofOption jsonOfWord n)) (some n) := by
  cases n with
  | none => exact .optional_null _
  | some n => exact (gives_word n).optional Json.Token.noConfusion

namespace ChartSize

theorem gives_reader (s : ChartSize) : Gives reader (tokens s.toJson) (some s) := by
  have hfills : Fills Draft.field
      [("height", tokens (jsonOfWord s.height)), ("width", tokens (.ofOption jsonOfWord s.width))]
      {} (some ⟨some s.height, some s.width⟩) :=
    .once rfl (gives_word s.height) (.once rfl (gives_optionalWord s.width) (.nil _))
  exact (Gives.finish hfills Draft.finish).record_byName "ChartSize"

end ChartSize

theorem ChartKind.gives_reader (k : ChartKind) :
    Gives reader (tokens (.text k.name)) (some k) := by
  cases k
  rw [tokens]
  exact .of_ok fun rest => rfl

namespace ChartAxis

theorem gives_reader (a : ChartAxis) : Gives reader (tokens a.toJson) (some a) := by
  have hcategories : Gives (Reader.list Reader.text) (tokens (.list (a.categories.map .text)))
      (some a.categories) := by
    have hlist := gives_tokens_list fun s (_ : s ∈ a.categories) => gives_text s
    rwa [mapM_some] at hlist
  have hfills : Fills Draft.field
      [("rotated", tokens (.bool a.rotated)),
        ("categories", tokens (.list (a.categories.map .text))),
        ("value_axis_shown", tokens (.bool a.valueAxisShown))]
      {} (some ⟨some a.rotated, some a.categories, some a.valueAxisShown⟩) :=
    .once rfl (gives_bool a.rotated) (.once rfl hcategories
      (.once rfl (gives_bool a.valueAxisShown) (.nil _)))
  exact (Gives.finish hfills Draft.finish).record_byName "AxisConfig"

end ChartAxis

/-- What a value is read back as from the text that it is saved as. -/
def reread? (x : Binary64) : Option Binary64 :=
  if x.isFinite then (Numeral.printed x).value? else none

theorem gives_float (x : Binary64) : Gives Reader.float (tokens (.float x)) (reread? x) := by
  rw [tokens, reread?]
  split
  · exact .float _
  · exact .of_error fun _ => ⟨_, rfl⟩

theorem reread?_eq_some_iff {x y : Binary64} :
    reread? x = some y ↔ x.isFinite ∧ (Numeral.printed x).value? = some y := by
  rw [reread?]
  split
  · next hfinite => exact (and_iff_right hfinite).symm
  · next hfinite => exact iff_of_false (Option.some_ne_none y).symm fun h => hfinite h.1

namespace DataColumn

theorem gives_reader (d : DataColumn) : Gives reader (tokens d.toJson)
    ((d.values.mapM reread?).map fun values => { d with values }) := by
  have hvalues := gives_tokens_list fun x (_ : x ∈ d.values) => gives_float x
  have hfills : Fills Draft.field
      [("name", tokens (.text d.name)), ("values", tokens (.list (d.values.map .float)))]
      {} ((d.values.mapM reread?).bind fun values => some ⟨some d.name, some values⟩) :=
    .once rfl (gives_text d.name) (.tried rfl hvalues fun values => .nil _)
  have hgives : Gives reader (tokens d.toJson) _ :=
    (Gives.finish hfills Draft.finish).record_byName "DataColumn"
  cases hread : d.values.mapM reread? <;> rw [hread] at hgives <;> exact hgives

end DataColumn

namespace ChartConfig

def withValues (c : ChartConfig) (values : List Binary64) : ChartConfig :=
  { c with data := { c.data with values } }

theorem gives_reader (c : ChartConfig) :
    Gives reader (tokens c.toJson) ((c.data.values.mapM reread?).map c.withValues) := by
  have hcolors := gives_tokens_list fun color (_ : color ∈ c.barColors) => color.gives_reader
  rw [mapM_some] at hcolors
  have hfills : Fills Draft.field
      [("bind_to", tokens (.text c.container)), ("kind", tokens (.text c.kind.name)),
        ("size", tokens c.size.toJson),
        ("padding_left", tokens (.ofOption jsonOfWord c.paddingLeft)),
        ("axis", tokens c.axis.toJson), ("data", tokens c.data.toJson),
        ("bar_colors", tokens (.list (c.barColors.map Color.toJson))),
        ("legend_shown", tokens (.bool c.legendShown)),
        ("tooltip_shown", tokens (.bool c.tooltipShown)),
        ("data_labels", tokens (.bool c.dataLabels))] {}
      (((c.data.values.mapM reread?).map fun values => { c.data with values }).bind fun data =>
        some ⟨some c.container, some c.kind, some c.size, some c.paddingLeft, some c.axis,
          some data, some c.barColors, some c.legendShown, some c.tooltipShown,
          some c.dataLabels⟩) :=
    .once rfl (gives_text c.container) (.once rfl c.kind.gives_reader
      (.once rfl c.size.gives_reader (.once rfl (gives_optionalWord c.paddingLeft)
        (.once rfl c.axis.gives_reader (.tried rfl c.data.gives_reader fun data =>
          .once rfl hcolors (.once rfl (gives_bool c.legendShown)
            (.once rfl (gives_bool c.tooltipShown)
              (.once rfl (gives_bool c.dataLabels) (.nil _)))))))))
  have hgives : Gives reader (tokens c.toJson) _ :=
    (Gives.finish hfills Draft.finish).record_byName "ChartConfig"
  cases hread : c.data.values.mapM reread? <;> rw [hread] at hgives <;> exact hgives

/-- The parts of a saved configuration come back as they were, and each value as
its numeral is read. -/
theorem toOption_ofText_saved (c : ChartConfig) :
    (ofText c.saved).toOption = (c.data.values.mapM reread?).map c.withValues :=
  c.gives_reader.toOption_readAll (Json.scan_indented c.toJson)

theorem withValues_eq_iff {c : ChartConfig} {values : List Binary64} :
    c.withValues values = c ↔ values = c.data.values := by
  refine ⟨fun h => ?_, fun h => h ▸ rfl⟩
  exact congrArg (fun c => c.data.values) h

/-- A saved configuration reads back exactly if its values are finite and their
numerals are read alike bare and in a text, which numerals with few digits and a
small exponent are. So it does if the values are whole numbers that fit the
precision with one more digit. In general the rest of it comes back and each
value as JSON reads its numeral. -/
theorem saved_reads_back_iff (c : ChartConfig) :
    (ofText c.saved = .ok c ↔
      ∀ x ∈ c.data.values, x.isFinite ∧ (Numeral.printed x).ReadsAlike) ∧
    (∀ x : Binary64, (Numeral.printed x).IsShort → (Numeral.printed x).ReadsAlike) ∧
    ((∀ x ∈ c.data.values, ∃ i : Int, 10 * i.natAbs < 2 ^ 53 ∧ .ofInt i = x) →
      ofText c.saved = .ok c) ∧
    ∀ c', ofText c.saved = .ok c' ↔ ∃ values, List.Forall₂ (fun x y => x.isFinite ∧
      (Numeral.printed x).value? = some y) c.data.values values ∧ c.withValues values = c' := by
  have hread (c' : ChartConfig) : ofText c.saved = .ok c' ↔ ∃ values,
      List.Forall₂ (fun x y => x.isFinite ∧ (Numeral.printed x).value? = some y)
        c.data.values values ∧ c.withValues values = c' := by
    simp only [← toOption_eq_some_iff, toOption_ofText_saved, Option.map_eq_some_iff,
      mapM_eq_some_iff, reread?_eq_some_iff]
  have hback : ofText c.saved = .ok c ↔
      ∀ x ∈ c.data.values, x.isFinite ∧ (Numeral.printed x).ReadsAlike := calc
    ofText c.saved = .ok c
      ↔ List.Forall₂ (fun x y => x.isFinite ∧ (Numeral.printed x).value? = some y)
          c.data.values c.data.values := by
        simp only [hread, withValues_eq_iff, exists_eq_right]
    _ ↔ ∀ x ∈ c.data.values, x.isFinite ∧ (Numeral.printed x).ReadsAlike := by
        rw [List.forall₂_same]
        exact forall₂_congr fun x _ => and_congr_right Numeral.value?_printed_iff
  refine ⟨hback, fun x h => Numeral.readsAlike_of_isShort h, fun hwhole => ?_, hread⟩
  refine hback.mpr fun x hx => ?_
  obtain ⟨i, hi, rfl⟩ := hwhole x hx
  exact ⟨Binary.isFinite_ofRatio (k := 53) Nat.one_pos (by omega) (by decide),
    Numeral.readsAlike_of_isShort (Numeral.isShort_printed_ofInt hi)⟩

/-- A value whose last bit does not come back. -/
theorem saved_value_comes_back_changed : ∃ c : ChartConfig,
    c = ⟨"chroots", .bar, ⟨100, none⟩, none, ⟨true, ["a"], false⟩,
      ⟨"builds", [.ofBits 0x433fffffffffffff]⟩, [.black], false, false, false⟩ ∧
    (∀ x ∈ c.data.values, x.isFinite) ∧
    ofText c.saved = .ok (c.withValues [.ofBits 0x433ffffffffffffe]) ∧
    ofText c.saved ≠ .ok c := by
  have hread : [(.ofBits 0x433fffffffffffff : Binary64)].mapM reread?
      = some [.ofBits 0x433ffffffffffffe] := by decide +kernel
  refine ⟨_, rfl, by decide +kernel, ?_, ?_⟩
  · rw [← toOption_eq_some_iff, toOption_ofText_saved, hread, Option.map_some]
  · rw [ne_eq, ← toOption_eq_some_iff, toOption_ofText_saved, hread, Option.map_some,
      Option.some_inj, withValues_eq_iff]
    decide +kernel

end ChartConfig

end RankedBars
