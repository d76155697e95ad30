import RankedBars.Proofs.Dataset.Loaded
import RankedBars.Proofs.Json.Literal
import RankedBars.Proofs.Json.Reads

/-!
# Rows and their spellings

A row of a JSON dataset can be spelled as a pair or as a record, with its
number bare or in a text. What it is charted as depends on the latter alone
(`gives_rowReader`): fields in any order and fields of other names change
nothing, because a row is read as a whole before it is looked at, and blanks
around a number in a text are taken off.

So all spellings of a file load alike as far as numerals are read alike bare
and in a text, and no further (`spellings_load_alike_iff`).
-/

namespace RankedBars.Dataset

open Json (Token Numeral Written)

/-- A label and a number, as it is written. -/
structure Row where
  label : String
  number : Numeral

/-- How a number is spelled: bare, or in a text with blanks around it. -/
inductive NumberForm
  | bare
  | quoted (left right : List Char) (hleft : ∀ c ∈ left, Text.isBlank c)
      (hright : ∀ c ∈ right, Text.isBlank c)

namespace NumberForm

variable (n : Numeral)

def token : NumberForm → Token
  | bare => .number n.literal
  | quoted left right _ _ => .text (some (String.ofList (left ++ n.text ++ right)))

/-- The value that a number so spelled is read as. -/
def value? : NumberForm → Option Binary64
  | bare => n.value?
  | quoted _ _ _ _ => some n.exact

/-- The value that a number so spelled is charted as. -/
def charted : NumberForm → Option Binary64
  | bare => n.asNumber
  | quoted _ _ _ _ => n.asText

theorem charted_eq (form : NumberForm) :
    form.charted n = (form.value? n).filter (·.isFinite) := by
  cases form <;> rfl

def json? : NumberForm → Option Json
  | bare => n.literal.value?.map Gives.ofNumber
  | quoted left right _ _ => some (.text (String.ofList (left ++ n.text ++ right)))

theorem gives_json? (form : NumberForm) (depth : Nat) :
    Gives (Reader.value depth) [form.token n] (form.json? n) := by
  cases form with
  | bare => exact .value_number depth n.literal
  | quoted left right hleft hright => exact .value_text depth _

theorem bind_valueOfJson? (form : NumberForm) :
    (form.json? n).bind DataPoint.valueOfJson? = form.value? n := by
  cases form with
  | bare =>
      rw [json?, value?, Numeral.value?]
      cases n.literal.value? with
      | none => rfl
      | some number => cases number <;> rfl
  | quoted left right hleft hright =>
      rw [json?, Option.bind_some, DataPoint.valueOfJson?, n.valueOfText_text hleft hright]
      rfl

end NumberForm

/-- A field of a record that is no field of a data point. -/
structure Extra where
  name : String
  tokens : List Token
  name_ne_label : name ≠ "label"
  name_ne_value : name ≠ "value"
  isValue : IsValue 125 tokens

def Extra.member (e : Extra) : String × List Token := (e.name, e.tokens)

/-- How a row is spelled: as a pair or as a record. The two fields of a record
stand in either order, among any others. -/
inductive RowForm
  | pair (number : NumberForm)
  | record (number : NumberForm) (labelFirst : Bool) (before between behind : List Extra)

namespace RowForm

def number : RowForm → NumberForm
  | pair number => number
  | record number _ _ _ _ => number

def tokens (row : Row) : RowForm → List Token
  | pair number => listTokens [[.text (some row.label)], [number.token row.number]]
  | record number labelFirst before between behind =>
      let label := ("label", [Token.text (some row.label)])
      let value := ("value", [number.token row.number])
      objectTokens (before.map Extra.member ++ (if labelFirst then label else value) ::
        (between.map Extra.member ++ (if labelFirst then value else label) ::
          behind.map Extra.member))

theorem opens_tokens (row : Row) (form : RowForm) : Opens (form.tokens row) := by
  cases form <;> exact ⟨_, _, rfl, Token.noConfusion⟩

end RowForm

/-! ## Reading a row -/

theorem exists_gives_pair (row : Row) (number : NumberForm) : ∃ o,
    Gives (Reader.value DataPoint.rowDepth) ((RowForm.pair number).tokens row) o ∧
    o.bind DataPoint.ofRow? = point? row.label (number.value? row.number) := by
  have hgives := Gives.value_list 125
    [([Token.text (some row.label)], some (Json.text row.label)),
      ([number.token row.number], number.json? row.number)] Prod.fst Prod.snd
    (by simpa using ⟨.value_text 125 row.label, number.gives_json? row.number 125⟩)
    (by cases number <;> simp [Opens, NumberForm.token])
  refine ⟨_, hgives, ?_⟩
  rw [← number.bind_valueOfJson?]
  cases number.json? row.number with
  | none => rfl
  | some value =>
      change (do return ⟨row.label, ← DataPoint.valueOfJson? value⟩ : Option DataPoint) = _
      rw [Option.bind_some]
      cases DataPoint.valueOfJson? value <;> rfl

/-- A field of a record: its name, its tokens, and the value that they are read
as. -/
abbrev ReadMember := String × List Token × Option Json

/-- What stands in an object that has two members among others. -/
def fieldsAround (json : Extra → Json) (before between behind : List Extra)
    (first second : String × Json) : List (String × Json) :=
  before.map (fun e => (e.name, json e)) ++ first ::
    (between.map (fun e => (e.name, json e)) ++ second ::
      behind.map fun e => (e.name, json e))

theorem exists_gives_members (before between behind : List Extra) {name name' : String}
    {ts ts' : List Token} {o o' : Option Json} (h : Gives (Reader.value 125) ts o)
    (h' : Gives (Reader.value 125) ts' o') : ∃ json,
    Gives (Reader.value DataPoint.rowDepth)
      (objectTokens (before.map Extra.member ++ (name, ts) ::
        (between.map Extra.member ++ (name', ts') :: behind.map Extra.member)))
      (o.bind fun a => o'.map fun b =>
        .object (fieldsAround json before between behind (name, a) (name', b))) := by
  choose json hextra using fun e : Extra => e.isValue.exists_gives
  refine ⟨json, ?_⟩
  -- The other fields have to be values that can be read: the row is read before
  -- it is taken apart.
  let extra (e : Extra) : ReadMember := (e.name, e.tokens, some (json e))
  have hgives := Gives.value_object 125
    (before.map extra ++ (name, ts, o) :: (between.map extra ++ (name', ts', o') ::
      behind.map extra))
    Prod.fst (fun m => m.2.1) (fun m => m.2.2) (by
      simp only [List.mem_append, List.mem_cons, List.mem_map]
      rintro m (⟨e, -, rfl⟩ | rfl | ⟨e, -, rfl⟩ | rfl | ⟨e, -, rfl⟩)
      · exact hextra e
      · exact h
      · exact hextra e
      · exact h'
      · exact hextra e)
  have htokens (extras : List Extra) :
      (extras.map extra).map (fun m => (m.1, m.2.1)) = extras.map Extra.member := by
    rw [List.map_map]
    rfl
  have hjson (extras : List Extra) :
      (extras.map extra).mapM (fun m : ReadMember => m.2.2.map (m.1, ·))
        = some (extras.map fun e => (e.name, json e)) := by
    rw [List.mapM_map]
    exact List.mapM_pure
  rw [List.map_append, List.map_cons, List.map_append, List.map_cons, htokens, htokens, htokens,
    List.mapM_append, List.mapM_cons, List.mapM_append, List.mapM_cons, hjson, hjson, hjson]
    at hgives
  cases o <;> cases o' <;> exact hgives

theorem filter_extras (json : Extra → Json) (extras : List Extra) {name : String}
    (hname : name = "label" ∨ name = "value") :
    (extras.map fun e => (e.name, json e)).filter (fun field => field.1 = name) = [] := by
  rw [List.filter_eq_nil_iff]
  intro field hfield
  obtain ⟨e, -, rfl⟩ := List.mem_map.mp hfield
  rcases hname with rfl | rfl
  · simpa using e.name_ne_label
  · simpa using e.name_ne_value

/-- Fields of other names are not looked at, and the order of the two does not
matter. -/
theorem ofRow?_fieldsAround (json : Extra → Json) (before between behind : List Extra)
    {first second : String × Json} {label : String} {value : Json}
    (h : (first, second) = (("label", .text label), ("value", value)) ∨
      (first, second) = (("value", value), ("label", .text label))) :
    DataPoint.ofRow? (.object (fieldsAround json before between behind first second))
      = point? label (DataPoint.valueOfJson? value) := by
  have hlabel : DataPoint.onlyField? "label"
      (fieldsAround json before between behind first second) = some (.text label) := by
    rcases h with h | h <;> obtain ⟨rfl, rfl⟩ := Prod.mk.inj h <;>
      simp [DataPoint.onlyField?, fieldsAround, List.filter_append,
        filter_extras json _ (.inl rfl)]
  have hvalue : DataPoint.onlyField? "value"
      (fieldsAround json before between behind first second) = some value := by
    rcases h with h | h <;> obtain ⟨rfl, rfl⟩ := Prod.mk.inj h <;>
      simp [DataPoint.onlyField?, fieldsAround, List.filter_append,
        filter_extras json _ (.inr rfl)]
  rw [DataPoint.ofRow?, hlabel, hvalue]
  cases hread : DataPoint.valueOfJson? value with
  | none => simp [point?, DataPoint.labelOfJson?, hread]
  | some x => simp [point?, DataPoint.labelOfJson?, hread]

theorem exists_gives_record (row : Row) (number : NumberForm) (labelFirst : Bool)
    (before between behind : List Extra) : ∃ o,
    Gives (Reader.value DataPoint.rowDepth)
      ((RowForm.record number labelFirst before between behind).tokens row) o ∧
    o.bind DataPoint.ofRow? = point? row.label (number.value? row.number) := by
  have hlabel := Gives.value_text 125 row.label
  have hvalue := number.gives_json? row.number 125
  rw [← number.bind_valueOfJson?]
  cases labelFirst with
  | true =>
      obtain ⟨json, hgives⟩ := exists_gives_members before between behind hlabel hvalue
      refine ⟨_, hgives, ?_⟩
      cases number.json? row.number with
      | none => rfl
      | some value => exact ofRow?_fieldsAround json before between behind (.inl rfl)
  | false =>
      obtain ⟨json, hgives⟩ := exists_gives_members before between behind hvalue hlabel
      refine ⟨_, hgives, ?_⟩
      cases number.json? row.number with
      | none => rfl
      | some value => exact ofRow?_fieldsAround json before between behind (.inr rfl)

theorem gives_rowReader (row : Row) (form : RowForm) :
    Gives DataPoint.rowReader (form.tokens row)
      (point? row.label (form.number.value? row.number)) := by
  obtain ⟨o, hgives, ho⟩ : ∃ o, Gives (Reader.value DataPoint.rowDepth) (form.tokens row) o ∧
      o.bind DataPoint.ofRow? = point? row.label (form.number.value? row.number) := by
    cases form with
    | pair number => exact exists_gives_pair row number
    | record number labelFirst before between behind =>
        exact exists_gives_record row number labelFirst before between behind
  rw [← ho]
  refine hgives.bind DataPoint.ofRow? fun value => ?_
  cases DataPoint.ofRow? value with
  | none => exact .of_error fun _ => ⟨_, rfl⟩
  | some p => exact .pure p

/-! ## Reading a file -/

abbrev SpelledRow := Row × RowForm

def SpelledRow.tokens (r : SpelledRow) : List Token := r.2.tokens r.1

theorem toOption_ofJson {text : String} {rows : List SpelledRow}
    (h : Written text.toList (listTokens (rows.map SpelledRow.tokens))) :
    (ofJson text).toOption
      = rows.mapM fun r => point? r.1.label (r.2.number.value? r.1.number) :=
  (Gives.list (fun r _ => gives_rowReader r.1 r.2) fun r _ =>
    r.2.opens_tokens r.1).toOption_readAll (Json.scan_eq h)

/-- A file of JSON text. -/
structure JsonFile where
  files : FileTree
  path : String
  text : String
  isJson : isCsvPath path = false
  read_eq : files.read path = .ok text.toByteArray

namespace JsonFile

def load? (file : JsonFile) : Option Dataset := Dataset.load? file.files file.path

/-- The text of the file is a list of these rows, spelled like this. -/
def Holds (file : JsonFile) (rows : List SpelledRow) : Prop :=
  Written file.text.toList (listTokens (rows.map SpelledRow.tokens))

/-- The text of the file is a list of these rows in some spelling. -/
def Spells (file : JsonFile) (rows : List Row) : Prop :=
  ∃ spelled : List SpelledRow, spelled.map (·.1) = rows ∧ file.Holds spelled

theorem readText_eq (file : JsonFile) : file.files.readText file.path = .ok file.text := by
  rw [FileTree.readText, file.read_eq]
  dsimp only
  rw [String.fromUTF8?, dif_pos file.text.isValidUTF8]
  rfl

theorem load?_eq {file : JsonFile} {rows : List SpelledRow} (h : file.Holds rows) :
    file.load? = if (rows.map (·.1.label)).Nodup
      then rows.mapM fun r => point? r.1.label (r.2.number.charted r.1.number) else none := by
  have hparsed : (if isCsvPath file.path then parseCsvFile file.files file.path
      else parseJsonFile file.files file.path).toOption
      = rows.mapM fun r => point? r.1.label (r.2.number.value? r.1.number) := by
    rw [file.isJson, if_neg Bool.false_ne_true, parseJsonFile, file.readText_eq,
      ← toOption_ofJson h]
    exact toOption_mapError _ _
  simp only [NumberForm.charted_eq]
  exact Dataset.load?_eq hparsed

end JsonFile

/-! ## Every row can be spelled -/

theorem NumberForm.writable_token (n : Numeral) (form : NumberForm) :
    Json.Writable (form.token n) := by
  cases form with
  | bare => exact Json.writable_number n
  | quoted left right hleft hright => exact Json.writable_text _

theorem SpelledRow.writable_pair (row : Row) (number : NumberForm) :
    ∀ t ∈ SpelledRow.tokens (row, .pair number), Json.Writable t := by
  refine writable_listTokens fun ts hts t ht => ?_
  rcases List.mem_cons.mp hts with rfl | hts
  · exact List.mem_singleton.mp ht ▸ Json.writable_text row.label
  · obtain rfl := List.mem_singleton.mp hts
    exact List.mem_singleton.mp ht ▸ number.writable_token row.number

def jsonFileOf (text : String) : JsonFile where
  files := fileTreeOf "rows.json" text.toByteArray
  path := "rows.json"
  text := text
  isJson := by decide +kernel
  read_eq := read_fileTreeOf _ (by decide) (by decide +kernel) (by decide) (by decide)
    (by decide) (by decide)

theorem holds_jsonFileOf {text : String} {row : Row} (h : text.toList = '[' :: '[' :: '"' ::
      (row.label.toList.flatMap Json.escapeChar ++ '"' :: ',' :: (row.number.text ++ [']', ']']))) :
    (jsonFileOf text).Holds [(row, .pair .bare)] := by
  have hend : Json.NoNumber [']', ']'] := fun c hc => Option.mem_some.mp hc ▸ by decide
  have hwritten : Written ('[' :: '[' :: '"' :: (row.label.toList.flatMap Json.escapeChar ++
        '"' :: ',' :: (row.number.text ++ [']', ']'])))
      [.openBracket, .openBracket, .text (some (String.ofList row.label.toList)), .comma,
        .number row.number.literal, .closeBracket, .closeBracket] :=
    .mark rfl (.mark rfl (.text (Json.spells_flatMap_escapeChar row.label.toList)
      (.mark rfl (.number row.number hend (.mark rfl (.mark rfl .nil))))))
  rw [String.ofList_toList, ← h] at hwritten
  exact hwritten

/-- There is a file for every choice of how the numbers are spelled. -/
theorem exists_jsonFile (rows : List Row) (form : Row → NumberForm) :
    ∃ file : JsonFile, file.Holds (rows.map fun row => (row, .pair (form row))) := by
  have hwritable : ∀ t ∈ listTokens
      ((rows.map fun row => (row, RowForm.pair (form row))).map SpelledRow.tokens),
      Json.Writable t := by
    refine writable_listTokens fun ts hts => ?_
    obtain ⟨r, hr, rfl⟩ := List.mem_map.mp hts
    obtain ⟨row, -, rfl⟩ := List.mem_map.mp hr
    exact SpelledRow.writable_pair row (form row)
  obtain ⟨cs, hcs⟩ := Json.exists_written hwritable
  refine ⟨jsonFileOf (String.ofList cs), ?_⟩
  change Written (String.ofList cs).toList _
  rw [String.toList_ofList]
  exact hcs

/-! ## All spellings -/

theorem point?_inj {label : String} {x y : Option Binary64} :
    point? label x = point? label y ↔ x = y :=
  (Option.map_injective fun _ _ h => (DataPoint.mk.inj h).2).eq_iff

theorem isSome_point? {label : String} {x : Option Binary64} :
    (point? label x).isSome = x.isSome := Option.isSome_map

theorem NumberForm.charted_eq_asText {n : Numeral} (h : n.ReadsAlike) (form : NumberForm) :
    form.charted n = n.asText := by
  cases form with
  | bare => exact h
  | quoted => rfl

/-- A number in a text without blanks. -/
def NumberForm.plain : NumberForm :=
  .quoted [] [] (fun _ hc => absurd hc List.not_mem_nil) fun _ hc => absurd hc List.not_mem_nil

theorem load?_eq_of_pairs {file : JsonFile} {rows : List Row} {form : Row → NumberForm}
    (h : file.Holds (rows.map fun row => (row, .pair (form row)))) :
    file.load? = if (rows.map (·.label)).Nodup
      then rows.mapM fun row => point? row.label ((form row).charted row.number) else none := by
  rw [JsonFile.load?_eq h, List.map_map, List.mapM_map]
  rfl

/-- If every row can be loaded in some spelling and all files load alike, every
numeral reads alike: two files that differ in the spelling of one row only tell
how that row is read. -/
theorem readsAlike_of_load?_eq {rows : List Row} (hnodup : (rows.map (·.label)).Nodup)
    (hsome : ∀ row ∈ rows, row.number.asNumber.isSome ∨ row.number.asText.isSome)
    (h : ∀ file file' : JsonFile, file.Spells rows → file'.Spells rows →
      file.load? = file'.load?) :
    ∀ row ∈ rows, row.number.ReadsAlike := by
  classical
  intro row₀ hrow₀
  -- Every other row is spelled in a way in which it loads, so that this one
  -- alone decides.
  let form (own : NumberForm) (row : Row) : NumberForm :=
    if row = row₀ then own else if row.number.asNumber.isSome then .bare else .plain
  have hload (own : NumberForm) : ∃ file : JsonFile, file.Spells rows ∧
      file.load? = rows.mapM fun row => point? row.label ((form own row).charted row.number) := by
    obtain ⟨file, hfile⟩ := exists_jsonFile rows (form own)
    refine ⟨file, ⟨_, ?_, hfile⟩, (load?_eq_of_pairs hfile).trans (if_pos hnodup)⟩
    rw [List.map_map]
    exact List.map_id rows
  have hloads (own : NumberForm) (hown : (own.charted row₀.number).isSome) :
      (rows.mapM fun row => point? row.label ((form own row).charted row.number)).isSome := by
    rw [isSome_mapM_iff]
    intro row hrow
    rw [isSome_point?]
    dsimp only [form]
    split
    · next heq => exact heq ▸ hown
    · split
      · next hbare => exact hbare
      · next hbare => exact (hsome row hrow).resolve_left hbare
  obtain ⟨file, hspells, heq⟩ := hload .bare
  obtain ⟨file', hspells', heq'⟩ := hload .plain
  have hsame := heq.symm.trans ((h file file' hspells hspells').trans heq')
  have hrow := rel_of_rel_mapM ((hsome row₀ hrow₀).imp (hloads .bare) (hloads .plain))
    (R := (· = ·)) (by rw [List.forall₂_eq_eq_eq, rel_eq_iff]; exact hsame) row₀ hrow₀
  rw [rel_eq_iff, point?_inj] at hrow
  exact (by simpa only [form, if_pos] using hrow : NumberForm.bare.charted row₀.number
    = NumberForm.plain.charted row₀.number)

theorem load?_eq_none {rows : List Row} {file : JsonFile} (hspells : file.Spells rows)
    (h : ¬ (rows.map (·.label)).Nodup ∨
      ∃ row ∈ rows, row.number.asNumber = none ∧ row.number.asText = none) :
    file.load? = none := by
  obtain ⟨spelled, rfl, hfile⟩ := hspells
  rw [JsonFile.load?_eq hfile]
  rcases h with hdup | ⟨row, hrow, hnumber, htext⟩
  · rw [List.map_map] at hdup
    exact if_neg hdup
  · obtain ⟨r, hr, rfl⟩ := List.mem_map.mp hrow
    have hcharted : r.2.number.charted r.1.number = none := by
      cases r.2.number with
      | bare => exact hnumber
      | quoted => exact htext
    split
    · rw [← Option.not_isSome_iff_eq_none, isSome_mapM_iff]
      intro hall
      have := hall r hr
      rw [isSome_point?, hcharted] at this
      exact Bool.false_ne_true this
    · rfl

theorem load?_eq_asText {rows : List Row} {file : JsonFile} (hspells : file.Spells rows)
    (h : ∀ row ∈ rows, row.number.ReadsAlike) :
    file.load? = if (rows.map (·.label)).Nodup
      then rows.mapM fun row => point? row.label row.number.asText else none := by
  obtain ⟨spelled, rfl, hfile⟩ := hspells
  rw [JsonFile.load?_eq hfile, List.map_map, List.mapM_map]
  have hrows : (spelled.mapM fun r => point? r.1.label (r.2.number.charted r.1.number))
      = spelled.mapM fun r => point? r.1.label r.1.number.asText :=
    mapM_congr fun r hr => by rw [NumberForm.charted_eq_asText (h r.1 (List.mem_map_of_mem hr))]
  rw [hrows]
  rfl

/-- All spellings of some rows load alike exactly if the rows cannot be loaded
in any, or every numeral is read alike bare and in a text. That is so of whole
numbers of up to 64 bits, and of numerals with few digits and a small exponent.
-/
theorem spellings_load_alike_iff (rows : List Row) :
    ((∀ file file' : JsonFile, file.Spells rows → file'.Spells rows → file.load? = file'.load?) ↔
      ¬ (rows.map (·.label)).Nodup ∨
      (∃ row ∈ rows, row.number.asNumber = none ∧ row.number.asText = none) ∨
      ∀ row ∈ rows, row.number.ReadsAlike) ∧
    ∀ n : Numeral, n.IsWhole ∧ ofDigits n.whole < 2 ^ 64 ∨ n.IsShort → n.ReadsAlike := by
  refine ⟨⟨fun h => ?_, fun h file file' hspells hspells' => ?_⟩, fun n h => ?_⟩
  · by_cases hnodup : (rows.map (·.label)).Nodup
    · refine .inr (or_iff_not_imp_left.mpr fun hnever => ?_)
      refine readsAlike_of_load?_eq hnodup (fun row hrow => ?_) h
      by_contra hnone
      rw [not_or, Option.not_isSome_iff_eq_none, Option.not_isSome_iff_eq_none] at hnone
      exact hnever ⟨row, hrow, hnone⟩
    · exact .inl hnodup
  · rcases h with hdup | hnever | hall
    · rw [load?_eq_none hspells (.inl hdup), load?_eq_none hspells' (.inl hdup)]
    · rw [load?_eq_none hspells (.inr hnever), load?_eq_none hspells' (.inr hnever)]
    · rw [load?_eq_asText hspells hall, load?_eq_asText hspells' hall]
  · rcases h with ⟨hwhole, hlt⟩ | hshort
    · exact n.readsAlike_of_isWhole hwhole hlt
    · exact n.readsAlike_of_isShort hshort

theorem spelling_decides_the_last_bit :
    ∃ bare quoted : JsonFile, bare.text = "[[\"a\",9007199254740991.0]]" ∧
      quoted.text = "[[\"a\",\"9007199254740991.0\"]]" ∧
      bare.Spells [⟨"a", .belowTwoPow53⟩] ∧ quoted.Spells [⟨"a", .belowTwoPow53⟩] ∧
      bare.load? = some [⟨"a", .ofBits 0x433ffffffffffffe⟩] ∧
      quoted.load? = some [⟨"a", .ofBits 0x433fffffffffffff⟩] ∧ bare.load? ≠ quoted.load? := by
  have hbare : (jsonFileOf "[[\"a\",9007199254740991.0]]").Holds
      [(⟨"a", .belowTwoPow53⟩, .pair .bare)] := holds_jsonFileOf (by decide +kernel)
  have hquoted : (jsonFileOf "[[\"a\",\"9007199254740991.0\"]]").Holds
      [(⟨"a", .belowTwoPow53⟩, .pair .plain)] :=
    .mark rfl (.mark rfl (.text (Json.spells_flatMap_escapeChar ['a']) (.mark rfl
      (.text (Json.spells_flatMap_escapeChar Numeral.belowTwoPow53.text)
        (.mark rfl (.mark rfl .nil))))))
  have hload {file : JsonFile} {form : NumberForm} {value : Binary64}
      (h : file.Holds [(⟨"a", .belowTwoPow53⟩, .pair form)])
      (hvalue : form.charted .belowTwoPow53 = some value) : file.load? = some [⟨"a", value⟩] := by
    have hnodup : ["a"].Nodup := List.pairwise_singleton _ _
    rw [JsonFile.load?_eq h, List.map_singleton, if_pos hnodup, List.mapM_cons, List.mapM_nil,
      RowForm.number, hvalue]
    rfl
  obtain ⟨hnumber, htext⟩ := Numeral.readings_belowTwoPow53
  refine ⟨_, _, rfl, rfl, ⟨_, rfl, hbare⟩, ⟨_, rfl, hquoted⟩, hload hbare hnumber,
    hload hquoted htext, ?_⟩
  rw [hload hbare hnumber, hload hquoted htext]
  decide +kernel

end RankedBars.Dataset
