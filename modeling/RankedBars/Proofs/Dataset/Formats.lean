import RankedBars.Proofs.Csv.Quoted
import RankedBars.Proofs.Dataset.Spelling

/-!
# One list of rows in two formats

A row can stand in a file of comma-separated text or in one of JSON. The label
comes out the same, and the numeral in most cases. A field takes the kind of a
whole number from its size, and the kinds past 64 bits are refused
(`valueOfField_of_isWide`); what is not refused is read as a text is
(`valueOfField_eq_exact`), but for the sign of zero. A JSON file reads the
numeral as a number. So the formats agree where a numeral is not wide and is
read alike bare and in a text, and nowhere else (`csv_and_json_load_alike_iff`).
-/

namespace RankedBars

open Json (Numeral Written)

/-! ## Fields with numerals -/

namespace Json.Numeral

variable {n : Numeral}

/-- A whole number of the size that a field is refused for. -/
def IsWide (n : Numeral) : Prop :=
  n.IsWhole ∧ if n.negative then 2 ^ 63 < ofDigits n.whole ∧ ofDigits n.whole ≤ 2 ^ 127
    else 2 ^ 64 ≤ ofDigits n.whole ∧ ofDigits n.whole < 2 ^ 128

instance : Decidable n.IsWide := inferInstanceAs (Decidable (_ ∧ ite _ _ _))

theorem not_isWide_of_le (h : ofDigits n.whole ≤ 2 ^ 63) : ¬ n.IsWide := by
  rintro ⟨-, hsize⟩
  split at hsize <;> omega

theorem not_isWide_of_isShort (h : n.IsShort) : ¬ n.IsWide := by
  intro hwide
  have hdigits := h.1
  rw [digits_decimal, hwide.1.1, List.append_nil] at hdigits
  exact not_isWide_of_le (by omega) hwide

theorem isPlain_of_mem_text {c : Char} (hc : c ∈ n.text) : Csv.IsPlain c := by
  rcases n.mem_text hc with hdigit | hmark
  · refine ⟨?_, ?_, not_or.mpr ⟨?_, ?_⟩⟩ <;>
      (rintro rfl; exact absurd hdigit (by decide))
  · simp only [List.mem_cons, List.not_mem_nil, or_false] at hmark
    rcases hmark with rfl | rfl | rfl | rfl | rfl <;>
      exact ⟨by decide, by decide, not_or.mpr ⟨by decide, by decide⟩⟩

theorem ofList_text_ne {s : String} {c : Char} (hc : c ∈ s.toList)
    (h : ¬ (c.isDigit ∨ c ∈ ['-', '+', '.', 'e', 'E'])) : String.ofList n.text ≠ s := by
  rintro rfl
  rw [String.toList_ofList] at hc
  exact h (n.mem_text hc)

theorem wholeNumber?_text : Csv.wholeNumber? (String.ofList n.text)
    = if n.IsWhole then some (n.negative, ofDigits n.whole) else none := by
  have hempty : ¬ n.unsigned.isEmpty = true := by
    obtain ⟨c, rest, hunsigned, -⟩ := n.exists_unsigned
    rw [hunsigned]
    exact Bool.false_ne_true
  rw [Csv.wholeNumber?, String.toList_ofList, n.takeSign_text]
  dsimp only
  by_cases hwhole : n.IsWhole
  · have hunsigned : n.unsigned = n.whole := by
      rw [unsigned, hwhole.1, hwhole.2]
      exact List.append_nil _
    have hdigits : n.whole.all Char.isDigit = true := List.all_eq_true.mpr n.whole_isDigit
    rw [if_pos hwhole, hunsigned, if_neg]
    rw [hunsigned] at hempty
    exact not_or.mpr ⟨hempty, fun hno => hno hdigits⟩
  · rw [if_neg hwhole, if_pos]
    refine .inr fun hall => hwhole ?_
    rw [List.all_eq_true] at hall
    refine ⟨?_, ?_⟩
    · by_contra hfraction
      have hpoint : '.' ∈ n.unsigned := by
        rw [unsigned, pointText_of_ne_nil hfraction]
        exact List.mem_append_right _ (List.mem_append_left _ List.mem_cons_self)
      exact absurd (hall '.' hpoint) (by decide)
    · by_contra hexponent
      obtain ⟨e, he⟩ := Option.ne_none_iff_exists'.mp hexponent
      have hmark : e.mark ∈ n.unsigned := by
        rw [unsigned, he]
        exact List.mem_append_right _ (List.mem_append_right _ List.mem_cons_self)
      have hdigit := hall e.mark hmark
      rcases e.mark_eq with h | h <;> rw [h] at hdigit <;> exact absurd hdigit (by decide)

theorem valueOfText_ofList_text :
    DataPoint.valueOfText (String.ofList n.text) = .ok n.exact := by
  have hnone : ∀ c ∈ ([] : List Char), Text.isBlank c := fun _ hc => absurd hc List.not_mem_nil
  have h := n.valueOfText_text hnone hnone
  rwa [List.nil_append, List.append_nil] at h

theorem isWide_iff_of_positive (hwhole : n.IsWhole) (hsign : n.negative = false) :
    n.IsWide ↔ 2 ^ 64 ≤ ofDigits n.whole ∧ ofDigits n.whole < 2 ^ 128 := by
  rw [IsWide, hsign, if_neg Bool.false_ne_true]
  exact and_iff_right hwhole

theorem isWide_iff_of_negative (hwhole : n.IsWhole) (hsign : n.negative = true) :
    n.IsWide ↔ 2 ^ 63 < ofDigits n.whole ∧ ofDigits n.whole ≤ 2 ^ 127 := by
  rw [IsWide, hsign, if_pos rfl]
  exact and_iff_right hwhole

/-- A numeral is none of the words that a field may hold. -/
theorem valueOfField_ofList_text : Csv.valueOfField (String.ofList n.text) =
    match if n.IsWhole then some (n.negative, ofDigits n.whole) else none with
    | some (true, digits) =>
        if digits ≤ 2 ^ 63 then .ok (.ofInt (-digits))
        else if digits ≤ 2 ^ 127 then
          .error (.wrongKind (.wideInteger (-digits)) DataPoint.expectedValue)
        else .ok n.exact
    | some (false, digits) =>
        if digits < 2 ^ 64 then .ok (.ofNat digits)
        else if digits < 2 ^ 128 then
          .error (.wrongKind (.wideInteger digits) DataPoint.expectedValue)
        else .ok n.exact
    | none => .ok n.exact := by
  have htrue : String.ofList n.text ≠ "true" :=
    ofList_text_ne (c := 't') (by decide) (by decide)
  have hfalse : String.ofList n.text ≠ "false" :=
    ofList_text_ne (c := 'f') (by decide) (by decide)
  rw [Csv.valueOfField]
  dsimp only
  rw [if_neg htrue, if_neg hfalse, wholeNumber?_text, valueOfText_ofList_text]
  by_cases hwhole : n.IsWhole
  · rw [if_pos hwhole]
    cases n.negative <;> rfl
  · rw [if_neg hwhole]

theorem valueOfField_of_isWide (h : n.IsWide) : Csv.valueOfField (String.ofList n.text) =
    .error (.wrongKind (.wideInteger (if n.negative then -(ofDigits n.whole : Int)
      else ofDigits n.whole)) DataPoint.expectedValue) := by
  rw [valueOfField_ofList_text, if_pos h.1]
  cases hsign : n.negative with
  | false =>
      obtain ⟨hlong, hwide⟩ := (isWide_iff_of_positive h.1 hsign).mp h
      exact (if_neg (Nat.not_lt_of_le hlong)).trans (if_pos hwide)
  | true =>
      obtain ⟨hlong, hwide⟩ := (isWide_iff_of_negative h.1 hsign).mp h
      exact (if_neg (Nat.not_le_of_lt hlong)).trans (if_pos hwide)

/-- In a field, zero is a whole number without a sign. -/
theorem valueOfField_of_zero (hwhole : n.IsWhole) (hzero : ofDigits n.whole = 0) :
    Csv.valueOfField (String.ofList n.text) = .ok (.ofNat 0) := by
  rw [valueOfField_ofList_text, if_pos hwhole, hzero]
  cases n.negative <;> rfl

theorem valueOfField_eq_exact (hwide : ¬ n.IsWide) (hzero : ¬ (n.IsWhole ∧ ofDigits n.whole = 0)) :
    Csv.valueOfField (String.ofList n.text) = .ok n.exact := by
  rw [valueOfField_ofList_text]
  by_cases hwhole : n.IsWhole
  · have hexact := exact_of_isWhole hwhole
    have hpos : ofDigits n.whole ≠ 0 := fun h => hzero ⟨hwhole, h⟩
    rw [if_pos hwhole]
    cases hsign : n.negative with
    | false =>
        rw [isWide_iff_of_positive hwhole hsign] at hwide
        dsimp only
        split
        · next hword =>
            rw [hexact (hword.trans (by decide)), hsign]
            rfl
        · rw [if_neg (by omega)]
    | true =>
        rw [isWide_iff_of_negative hwhole hsign] at hwide
        dsimp only
        split
        · next hword =>
            rw [hexact (hword.trans_lt (by decide)), hsign, Binary.ofInt, Int.natAbs_neg,
              Int.natAbs_natCast, decide_eq_true (by omega)]
        · rw [if_neg (by omega)]
  · rw [if_neg hwhole]

/-- What a numeral that stands in a field is charted as. -/
def asField (n : Numeral) : Option Binary64 :=
  (Csv.valueOfField (String.ofList n.text)).toOption.filter (·.isFinite)

theorem asField_of_isWide (h : n.IsWide) : n.asField = none := by
  rw [asField, valueOfField_of_isWide h]
  rfl

theorem asNumber_of_isWide (h : n.IsWide) : n.asNumber.isSome := by
  have hlt : ofDigits n.whole < 2 ^ 128 := by
    have hsize := h.2
    split at hsize <;> omega
  obtain ⟨x, hx, hfinite⟩ := exists_value?_of_isWhole h.1 hlt
  rw [asNumber, hx, Option.filter_some, if_pos hfinite]
  rfl

theorem sameNumber_asField (h : ¬ n.IsWide) : Option.Rel Binary.SameNumber n.asField n.asText := by
  rw [Binary.rel_sameNumber_iff, asField, asText]
  by_cases hzero : n.IsWhole ∧ ofDigits n.whole = 0
  · -- The field loses the sign, which is why the numbers are compared and not the words.
    have hexact : n.exact = .ofRatio n.negative 0 1 := by
      rw [exact_of_isWhole hzero.1 (hzero.2 ▸ by decide), hzero.2]
    rw [valueOfField_of_zero hzero.1 hzero.2, hexact]
    cases n.negative <;> decide +kernel
  · rw [valueOfField_eq_exact h hzero]
    rfl

/-- A field is charted like a number unless it is refused for its size or the
number is read another way than a text. -/
theorem asField_agrees_iff :
    Option.Rel Binary.SameNumber n.asField n.asNumber ↔ ¬ n.IsWide ∧ n.ReadsAlike := by
  by_cases hwide : n.IsWide
  · obtain ⟨x, hx⟩ := Option.isSome_iff_exists.mp (asNumber_of_isWide hwide)
    rw [asField_of_isWide hwide, hx]
    exact iff_of_false Option.not_rel_none_some fun h => h.1 hwide
  · have hfield := Binary.rel_sameNumber_iff.mp (sameNumber_asField hwide)
    rw [readsAlike_iff, Binary.rel_sameNumber_iff, Binary.rel_sameNumber_iff, hfield]
    exact (and_iff_right hwide).symm

end Json.Numeral

/-! ## Files of two columns -/

namespace Dataset

theorem toOption_pointsFrom (header : Csv.Record) (row : Nat) (records : List Csv.Record) :
    (Csv.pointsFrom header row records).toOption
      = records.mapM fun record => (Csv.pointOfRecord header record).toOption := by
  induction records generalizing row with
  | nil => rfl
  | cons record records ih =>
      rw [Csv.pointsFrom, List.mapM_cons, ← ih (row + 1)]
      cases Csv.pointOfRecord header record with
      | error cause => rfl
      | ok point => cases Csv.pointsFrom header (row + 1) records <;> rfl

theorem pointByName_eq (label field : String) :
    Csv.pointByName ["label", "value"] [label, field]
      = DataPoint.mk label <$> Csv.valueOfField field := by
  rw [Csv.pointByName]
  cases hvalue : Csv.valueOfField field <;>
    simp [Csv.takeField, hvalue] <;> rfl

/-- A record under the two columns is a row. -/
theorem toOption_pointOfRecord {row : Row} (htrim : Text.trim row.label = row.label) :
    (Csv.pointOfRecord [Csv.bytes "label".toList, Csv.bytes "value".toList]
      [Csv.bytes row.label.toList, Csv.bytes row.number.text]).toOption
      = point? row.label (Csv.valueOfField (String.ofList row.number.text)).toOption := by
  have hnumber : Text.trim (String.ofList row.number.text) = String.ofList row.number.text := by
    rw [Text.trim, String.toList_ofList,
      Text.trimChars_of_ends row.number.head_text row.number.getLast_text]
  have hcolumns : ["label", "value"].map Text.trim = ["label", "value"] := by decide
  have htexts (cs cs' : List Char) : Csv.recordText? [Csv.bytes cs, Csv.bytes cs']
      = some [String.ofList cs, String.ofList cs'] := by
    rw [Csv.recordText?, List.mapM_cons, List.mapM_cons, List.mapM_nil, Csv.fieldText?_bytes,
      Csv.fieldText?_bytes]
    rfl
  rw [Csv.pointOfRecord, if_neg (by exact fun h => h rfl), htexts, htexts, String.ofList_toList,
    String.ofList_toList, String.ofList_toList]
  dsimp only
  rw [hcolumns, List.map_cons, List.map_singleton, htrim, hnumber]
  rw [toOption_mapError, pointByName_eq]
  cases Csv.valueOfField (String.ofList row.number.text) <;> rfl

/-- A file of comma-separated text. -/
structure CsvFile where
  files : FileTree
  path : String
  text : String
  isCsv : isCsvPath path = true
  read_eq : files.read path = .ok text.toByteArray

namespace CsvFile

def load? (file : CsvFile) : Option Dataset := Dataset.load? file.files file.path

/-- The text of the file is these rows under their columns, the labels in
quotes. -/
def Holds (file : CsvFile) (rows : List Row) : Prop :=
  ∃ cs, file.text.toList = "label,value".toList ++ cs ∧
    Csv.Lines cs (rows.map fun row => (row.label.toList, row.number.text))

theorem load?_eq {file : CsvFile} {rows : List Row} (h : file.Holds rows)
    (htrim : ∀ row ∈ rows, Text.trim row.label = row.label) :
    file.load? = if (rows.map (·.label)).Nodup
      then rows.mapM fun row => point? row.label row.number.asField else none := by
  obtain ⟨cs, htext, hlines⟩ := h
  have hrecords := Csv.records_eq htext hlines fun row hrow => by
    obtain ⟨row, -, rfl⟩ := List.mem_map.mp hrow
    exact ⟨row.number.text_ne_nil, fun c hc => Numeral.isPlain_of_mem_text hc⟩
  have hparsed : (if isCsvPath file.path then parseCsvFile file.files file.path
      else parseJsonFile file.files file.path).toOption = rows.mapM fun row =>
        point? row.label (Csv.valueOfField (String.ofList row.number.text)).toOption := by
    rw [file.isCsv, if_pos rfl, parseCsvFile, file.read_eq]
    dsimp only
    rw [Csv.dataset, hrecords]
    dsimp only
    rw [← mapM_congr fun row hrow => toOption_pointOfRecord (htrim row hrow)]
    rw [toOption_mapError, toOption_pointsFrom, List.mapM_map, List.mapM_map]
    rfl
  exact Dataset.load?_eq hparsed

end CsvFile

/-! ## Both formats -/

/-- Both files load, with the same labels in order and the same numbers, or
neither does. -/
def LoadedAlike : Option Dataset → Option Dataset → Prop :=
  Option.Rel (List.Forall₂ fun p q => p.label = q.label ∧ Binary.SameNumber p.value q.value)

theorem rel_point?_iff {label : String} {x y : Option Binary64} :
    Option.Rel (fun p q : DataPoint => p.label = q.label ∧ Binary.SameNumber p.value q.value)
      (point? label x) (point? label y) ↔ Option.Rel Binary.SameNumber x y := by
  cases x <;> cases y <;> simp [point?]

theorem mapM_point?_eq_none_iff {rows : List Row} {val : Row → Option Binary64} :
    (rows.mapM fun row => point? row.label (val row)) = none ↔ ∃ row ∈ rows, val row = none := by
  rw [← Option.not_isSome_iff_eq_none, isSome_mapM_iff]
  simp [isSome_point?]

/-- The two files of a list of rows load alike exactly if both are refused or
every numeral is charted alike: it is not wide, and it is read alike bare and in
a text. That is so of whole numbers of up to 63 bits, and of numerals with few
digits and a small exponent. -/
theorem csv_and_json_load_alike_iff {rows : List Row} {csv : CsvFile} {json : JsonFile}
    (htrim : ∀ row ∈ rows, Text.trim row.label = row.label) (hcsv : csv.Holds rows)
    (hjson : json.Holds (rows.map fun row => (row, .pair .bare))) :
    (LoadedAlike csv.load? json.load? ↔
      ¬ (rows.map (·.label)).Nodup ∨
      (∃ row ∈ rows, row.number.asField = none) ∧ (∃ row ∈ rows, row.number.asNumber = none) ∨
      ∀ row ∈ rows, ¬ row.number.IsWide ∧ row.number.ReadsAlike) ∧
    ∀ n : Numeral, n.IsWhole ∧ ofDigits n.whole ≤ 2 ^ 63 ∨ n.IsShort →
      ¬ n.IsWide ∧ n.ReadsAlike := by
  refine ⟨?_, fun n h => ?_⟩
  · rw [CsvFile.load?_eq hcsv htrim, load?_eq_of_pairs hjson]
    by_cases hnodup : (rows.map (·.label)).Nodup
    · rw [if_pos hnodup, if_pos hnodup, or_iff_right (not_not_intro hnodup),
        ← mapM_point?_eq_none_iff, ← mapM_point?_eq_none_iff]
      constructor
      · intro h
        -- One of the files loads, so both do, and then row by row.
        refine or_iff_not_imp_left.mpr fun hsome row hrow => ?_
        rw [not_and_or, ← ne_eq, ← ne_eq, ← Option.isSome_iff_ne_none,
          ← Option.isSome_iff_ne_none] at hsome
        exact Numeral.asField_agrees_iff.mp
          (rel_point?_iff.mp (rel_of_rel_mapM hsome h row hrow))
      · rintro (⟨hfield, hnumber⟩ | hall)
        · rw [hfield]
          exact hnumber ▸ .none
        · exact rel_mapM fun row hrow =>
            rel_point?_iff.mpr (Numeral.asField_agrees_iff.mpr (hall row hrow))
    · rw [if_neg hnodup, if_neg hnodup]
      exact iff_of_true .none (.inl hnodup)
  · rcases h with ⟨hwhole, hle⟩ | hshort
    · exact ⟨Numeral.not_isWide_of_le hle, n.readsAlike_of_isWhole hwhole (by omega)⟩
    · exact ⟨Numeral.not_isWide_of_isShort hshort, n.readsAlike_of_isShort hshort⟩

def csvFileOf (text : String) : CsvFile where
  files := fileTreeOf "rows.csv" text.toByteArray
  path := "rows.csv"
  text := text
  isCsv := by decide +kernel
  read_eq := read_fileTreeOf _ (by decide) (by decide +kernel) (by decide) (by decide)
    (by decide) (by decide)

theorem holds_csvFileOf {text : String} {row : Row} (h : text.toList = "label,value".toList ++
      (['\n'] ++ (Csv.quoted row.label.toList ++ ',' :: row.number.text) ++ ['\n'])) :
    (csvFileOf text).Holds [row] :=
  have hends : ∀ c ∈ ['\n'], Csv.EndsLine c := fun _ hc => .inl (List.mem_singleton.mp hc)
  ⟨_, h, .row (List.cons_ne_nil _ _) hends _ _ (.stop hends)⟩

theorem csv_and_json_load_alike_with_quotes : ∃ (csv : CsvFile) (json : JsonFile),
    csv.text = "label,value\n\"a, \"\"b\"\"\",12\n" ∧ json.text = "[[\"a, \\\"b\\\"\",12]]" ∧
    csv.Holds [⟨"a, \"b\"", .ofInt 12⟩] ∧
    json.Holds [(⟨"a, \"b\"", .ofInt 12⟩, .pair .bare)] ∧ LoadedAlike csv.load? json.load? := by
  have htrim : ∀ row ∈ [(⟨"a, \"b\"", .ofInt 12⟩ : Row)], Text.trim row.label = row.label := by
    intro row hrow
    rw [List.mem_singleton.mp hrow]
    decide
  have hcsv : (csvFileOf "label,value\n\"a, \"\"b\"\"\",12\n").Holds [⟨"a, \"b\"", .ofInt 12⟩] :=
    holds_csvFileOf (by decide +kernel)
  have hjson : (jsonFileOf "[[\"a, \\\"b\\\"\",12]]").Holds
      [(⟨"a, \"b\"", .ofInt 12⟩, .pair .bare)] := holds_jsonFileOf (by decide +kernel)
  have halike := csv_and_json_load_alike_iff htrim hcsv hjson
  refine ⟨_, _, rfl, rfl, hcsv, hjson, halike.1.mpr (.inr (.inr fun row hrow => ?_))⟩
  rw [List.mem_singleton.mp hrow]
  exact halike.2 _ (.inl (by decide))

/-- The first whole number of more than 64 bits is refused in a field. -/
theorem wide_number_loads_from_json_only : ∃ (csv : CsvFile) (json : JsonFile),
    csv.text = "label,value\n\"a\",18446744073709551616\n" ∧
    json.text = "[[\"a\",18446744073709551616]]" ∧
    csv.Holds [⟨"a", .ofInt (2 ^ 64)⟩] ∧ json.Holds [(⟨"a", .ofInt (2 ^ 64)⟩, .pair .bare)] ∧
    csv.load? = none ∧ json.load? = some [⟨"a", .ofBits 0x43f0000000000000⟩] ∧
    ¬ LoadedAlike csv.load? json.load? := by
  have hcsv : (csvFileOf "label,value\n\"a\",18446744073709551616\n").Holds
      [⟨"a", .ofInt (2 ^ 64)⟩] := holds_csvFileOf (by decide +kernel)
  have hjson : (jsonFileOf "[[\"a\",18446744073709551616]]").Holds
      [(⟨"a", .ofInt (2 ^ 64)⟩, .pair .bare)] := holds_jsonFileOf (by decide +kernel)
  have hnodup : ["a"].Nodup := List.pairwise_singleton _ _
  have hfield : (Numeral.ofInt (2 ^ 64)).asField = none := Numeral.asField_of_isWide (by decide)
  have hnumber : (Numeral.ofInt (2 ^ 64)).asNumber = some (.ofBits 0x43f0000000000000) := by
    decide +kernel
  have htrim : ∀ row ∈ [(⟨"a", .ofInt (2 ^ 64)⟩ : Row)], Text.trim row.label = row.label := by
    intro row hrow
    rw [List.mem_singleton.mp hrow]
    decide
  have hrefused : (csvFileOf "label,value\n\"a\",18446744073709551616\n").load? = none := by
    rw [CsvFile.load?_eq hcsv htrim, List.map_singleton, if_pos hnodup, List.mapM_cons, hfield]
    rfl
  have hloaded : (jsonFileOf "[[\"a\",18446744073709551616]]").load?
      = some [⟨"a", .ofBits 0x43f0000000000000⟩] := by
    rw [JsonFile.load?_eq hjson, List.map_singleton, if_pos hnodup, List.mapM_cons,
      List.mapM_nil, RowForm.number, NumberForm.charted, hnumber]
    rfl
  refine ⟨_, _, rfl, rfl, hcsv, hjson, hrefused, hloaded, ?_⟩
  rw [hrefused, hloaded]
  exact Option.not_rel_none_some

end Dataset

end RankedBars
