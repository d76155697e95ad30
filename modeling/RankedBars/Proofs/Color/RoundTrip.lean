import RankedBars.Proofs.Color.Spelling
import RankedBars.Proofs.Json.Indented
import RankedBars.Proofs.RowByRow

/-!
# Colors come back

A color is written with the digits of its bytes, where an alpha that says
nothing is left out. These digits are read as the color that they were written
for. The other way around, digits that are read as a color are the digits it is
written with, up to their case and an alpha of `FF` (`text_round_trips`).
-/

namespace RankedBars

namespace Color

open Text (IsHexDigit hexByte)

variable {left right digits : List Char}

/-! ## What is written -/

/-- The bytes that a color is written with. -/
def writtenBytes (c : Color) : List UInt8 :=
  if c.alpha = 255 then [c.red, c.green, c.blue] else [c.red, c.green, c.blue, c.alpha]

/-- The digits that a color is written with that is read from these ones. -/
def canonicalDigits (digits : List Char) : List Char :=
  let capitals := digits.map Char.toUpper
  if capitals.drop 6 = ['F', 'F'] then capitals.take 6 else capitals

theorem toText_eq (c : Color) :
    c.toText = String.ofList ('#' :: c.writtenBytes.flatMap hexByte) := by
  rw [toText, writtenBytes]
  split
  · rfl
  · simp [hexByte]

theorem isHexDigit_of_mem_hexBytes {bytes : List UInt8} {c : Char}
    (hc : c ∈ bytes.flatMap hexByte) : IsHexDigit c := by
  have hdigit : ∀ n < 16, IsHexDigit (Text.capitalHexDigit n) := by decide
  obtain ⟨b, -, hmem⟩ := List.mem_flatMap.mp hc
  have hlt := b.toNat_lt
  simp only [hexByte, List.mem_cons, List.not_mem_nil, or_false] at hmem
  obtain rfl | rfl := hmem
  · exact hdigit _ (by omega)
  · exact hdigit _ (by omega)

theorem ofPairs?_writtenBytes (c : Color) : ofPairs? (c.writtenBytes.flatMap hexByte) = some c := by
  rw [writtenBytes]
  split
  · next halpha => simp [hexByte, ofPairs?, pair?_hexByte, ← halpha]
  · simp [hexByte, ofPairs?, pair?_hexByte]

theorem hexByte_eq_iff {a b : UInt8} : hexByte a = hexByte b ↔ a = b := by
  refine ⟨fun h => ?_, fun h => by rw [h]⟩
  obtain ⟨hhigh, hlow⟩ := List.cons_eq_cons.mp h
  have ha := pair?_hexByte a
  rw [hhigh, (List.cons_eq_cons.mp hlow).1, pair?_hexByte] at ha
  exact (Option.some_inj.mp ha).symm

/-! ## What is read -/

/-- Digits are read apart from what may stand around them. -/
theorem ofText?_between (hleft : ∀ c ∈ left, Text.isBlank c) (hright : ∀ c ∈ right, Text.isBlank c)
    (signs : Nat) (hne : digits ≠ []) (hdigits : ∀ c ∈ digits, IsHexDigit c) :
    ofText? (String.ofList (left ++ (List.replicate signs '#' ++ digits) ++ right))
      = ofPairs? digits := by
  have hplain : ∀ c ∈ List.replicate signs '#' ++ digits, Text.isBlank c = false := by
    intro c hc
    obtain hsign | hdigit := List.mem_append.mp hc
    · rw [List.eq_of_mem_replicate hsign]
      decide
    · exact (Text.plain_of_isHexDigit (hdigits c hdigit)).1
  have htrim := Text.trimChars_between hleft hright (List.append_ne_nil_of_right_ne_nil _ hne)
    (fun c hc => hplain c (List.mem_of_mem_head? hc))
    (fun c hc => hplain c (List.mem_of_getLast? hc))
  rw [ofText?, String.toList_ofList, htrim,
    dropWhile_signs signs fun c hc => (Text.plain_of_isHexDigit (hdigits c hc)).2.1]

theorem ofText?_toText (c : Color) : ofText? c.toText = some c := by
  have hnone : ∀ d ∈ ([] : List Char), Text.isBlank d := fun _ hd => absurd hd List.not_mem_nil
  have hne : c.writtenBytes.flatMap hexByte ≠ [] := by
    rw [writtenBytes]
    split <;> exact List.cons_ne_nil _ _
  have hread := ofText?_between hnone hnone 1 hne fun _ => isHexDigit_of_mem_hexBytes
  rw [List.nil_append, List.append_nil, ofPairs?_writtenBytes] at hread
  rw [toText_eq]
  exact hread

theorem gives_reader (c : Color) : Gives reader (Json.tokens c.toJson) (some c) := by
  have hread : ofText c.toText = .ok c := by rw [ofText, ofText?_toText]
  have hgives := (Json.gives_text c.toText).bind (fun s => (ofText s).toOption)
    fun s => Gives.ofShape (ofText s)
  rwa [← reader_eq, Option.bind_some, hread] at hgives

/-- Digits are read as a color that is written with them, in capitals. -/
theorem exists_ofPairs?_of_digits (hlength : digits.length = 6 ∨ digits.length = 8)
    (hdigits : ∀ c ∈ digits, IsHexDigit c) :
    ∃ c, ofPairs? digits = some c ∧ c.writtenBytes.flatMap hexByte = canonicalDigits digits := by
  obtain ⟨r1, r2, g1, g2, b1, b2, rfl⟩ | ⟨r1, r2, g1, g2, b1, b2, a1, a2, rfl⟩ :=
    six_or_eight hlength
  · simp only [List.forall_mem_cons] at hdigits
    obtain ⟨hr1, hr2, hg1, hg2, hb1, hb2, -⟩ := hdigits
    obtain ⟨r, hr, hred⟩ := exists_byte hr1 hr2
    obtain ⟨g, hg, hgreen⟩ := exists_byte hg1 hg2
    obtain ⟨b, hb, hblue⟩ := exists_byte hb1 hb2
    refine ⟨⟨r, g, b, 255⟩, by simp [ofPairs?, hr, hg, hb], ?_⟩
    simp [writtenBytes, canonicalDigits, hred, hgreen, hblue]
  · simp only [List.forall_mem_cons] at hdigits
    obtain ⟨hr1, hr2, hg1, hg2, hb1, hb2, ha1, ha2, -⟩ := hdigits
    obtain ⟨r, hr, hred⟩ := exists_byte hr1 hr2
    obtain ⟨g, hg, hgreen⟩ := exists_byte hg1 hg2
    obtain ⟨b, hb, hblue⟩ := exists_byte hb1 hb2
    obtain ⟨a, ha, halpha⟩ := exists_byte ha1 ha2
    refine ⟨⟨r, g, b, a⟩, by simp [ofPairs?, hr, hg, hb, ha], ?_⟩
    have hcapitals : [r1, r2, g1, g2, b1, b2, a1, a2].map Char.toUpper
        = [r, g, b].flatMap hexByte ++ hexByte a := by
      simp [hred, hgreen, hblue, halpha]
    have hsolid : hexByte a = ['F', 'F'] ↔ a = 255 := hexByte_eq_iff (b := 255)
    rw [canonicalDigits, hcapitals]
    change _ = if hexByte a = ['F', 'F'] then [r, g, b].flatMap hexByte else _
    simp only [hsolid, writtenBytes]
    split
    · rfl
    · simp

/-- What is written for a color is read as that color, as a text and as a JSON
text. And digits are read as a color, in any case, behind a number sign or not
and with blanks around them; what is written for it are the same digits, in
capitals and without an alpha of `FF`. -/
theorem text_round_trips :
    (∀ c : Color, ofText c.toText = .ok c ∧ reader.readAll c.toJson.compact = .ok c) ∧
    ∀ left sign digits right : List Char, (∀ c ∈ left, Text.isBlank c) →
      (sign = [] ∨ sign = ['#']) → (digits.length = 6 ∨ digits.length = 8) →
      (∀ c ∈ digits, IsHexDigit c) → (∀ c ∈ right, Text.isBlank c) →
      ∃ c, ofText (String.ofList (left ++ (sign ++ digits) ++ right)) = .ok c ∧
        c.toText = String.ofList ('#' :: canonicalDigits digits) := by
  constructor
  · intro c
    have hread : ofText c.toText = .ok c := by rw [ofText, ofText?_toText]
    have hwritten := Json.isWritten_textLiteral c.toText [] [] Json.noNumber_nil .nil
    rw [List.append_nil, List.append_nil] at hwritten
    have hscan : Json.scan c.toJson.compact = Json.tokens c.toJson := by
      rw [toJson, Json.compact, Json.tokens, Json.scan_eq hwritten]
    exact ⟨hread, toOption_eq_some_iff.mp ((gives_reader c).toOption_readAll hscan)⟩
  · intro left sign digits right hleft hsign hlength hdigits hright
    obtain ⟨signs, rfl⟩ : ∃ signs, sign = List.replicate signs '#' := by
      obtain rfl | rfl := hsign
      · exact ⟨0, rfl⟩
      · exact ⟨1, rfl⟩
    have hne : digits ≠ [] := by
      rintro rfl
      rw [List.length_nil] at hlength
      omega
    obtain ⟨c, hc, hdigitsOf⟩ := exists_ofPairs?_of_digits hlength hdigits
    refine ⟨c, ?_, by rw [toText_eq, hdigitsOf]⟩
    rw [ofText, ofText?_between hleft hright signs hne hdigits, hc]

theorem text_round_trips_in_any_case :
    (∀ c ∈ ['0', 'f', 'A', 'b', '1', '2', 'f', 'F'], IsHexDigit c) ∧
      ∃ c, ofText " #0fAb12fF\n" = .ok c ∧ c.toText = "#0FAB12" := by
  have hdigits : ∀ c ∈ ['0', 'f', 'A', 'b', '1', '2', 'f', 'F'], IsHexDigit c := by
    simp [IsHexDigit, Text.hexDigitsOfBothCases]
  obtain ⟨c, hread, htext⟩ :=
    text_round_trips.2 [' '] ['#'] ['0', 'f', 'A', 'b', '1', '2', 'f', 'F'] ['\n']
      (List.forall_mem_singleton.mpr rfl) (.inr rfl) (.inr rfl) hdigits
      (List.forall_mem_singleton.mpr rfl)
  exact ⟨hdigits, c, hread, htext⟩

end Color

end RankedBars
