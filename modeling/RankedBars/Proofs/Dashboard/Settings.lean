import RankedBars.Dashboard
import RankedBars.Proofs.Chart.Saved
import RankedBars.Proofs.Json.Strict

/-!
# What a configuration says

A configuration is an object whose fields can be spelled in several ways: a
color by any text that is read as one, an entry of the palette with fields
that it does not have, the labels as a list. `Holds` says by a grammar which
settings a text holds, and in which order, and whatever the spelling they are
what is read (`ofText_of_holds`).
-/

namespace RankedBars

open Json (Token tokens)

attribute [ext] ToggleLabels.Draft Dashboard.Draft

/-! ## Colors and palettes -/

theorem Color.takesWhole_reader : TakesWhole Color.reader := by
  rw [Color.reader_eq]
  exact .bind _ .text fun s => .ofShape (Color.ofText s)

/-- The text is read as the color. -/
def Color.Spelled (c : Color) (ts : List Token) : Prop :=
  ∃ s, Color.ofText? s = some c ∧ ts = [.text (some s)]

theorem Color.Spelled.gives {c : Color} {ts : List Token} (h : c.Spelled ts) :
    Gives Color.reader ts (some c) := by
  obtain ⟨s, hs, rfl⟩ := h
  have hgives := (Gives.text s).bind _ fun s => Gives.ofShape (Color.ofText s)
  rwa [← Color.reader_eq, Option.bind_some, Color.ofText, hs] at hgives

theorem Color.Spelled.gives_optional {c : Color} {ts : List Token} (h : c.Spelled ts) :
    Gives (Reader.optional Color.reader) ts (some (some c)) := by
  obtain ⟨s, hs, rfl⟩ := h
  exact (Color.Spelled.gives ⟨s, hs, rfl⟩).optional Token.noConfusion

theorem Color.Spelled.opens {c : Color} {ts : List Token} (h : c.Spelled ts) : Opens ts := by
  obtain ⟨s, -, rfl⟩ := h
  exact opens_text s

namespace PaletteEntry

theorem takesWhole_field {name : String} {draft : Draft} {r : Reader Draft}
    (h : Draft.field name draft = .ok r) : TakesWhole r := by
  rw [Draft.field.eq_def] at h
  split at h
  · exact TakesWhole.text.once h
  · exact Color.takesWhole_reader.once h
  · cases h
    exact .map _ fun ts hts => ⟨_, hts.gives_skip⟩

theorem takesWhole_reader : TakesWhole reader := by
  refine .record _ (fun members hmembers => ?_) ?_
  · obtain ⟨o, hfills⟩ := exists_fills (fun _ _ _ => takesWhole_field) hmembers {}
    exact ⟨_, Gives.finish hfills Draft.finish⟩
  · exact .bind (.element .text _ 0) fun _ =>
      .bind (.element Color.takesWhole_reader _ 1) fun _ => .pure _

/-- Fields that an entry does not have, and that it does not mind. -/
def Extras (members : List (String × List Token)) : Prop :=
  ∀ m ∈ members, m.1 ≠ "pattern" ∧ m.1 ≠ "color" ∧ OneValue m.2

/-- An entry is spelled as an object, where its two fields stand in either order
among any others, or as a list of the two. -/
inductive Spelled (e : PaletteEntry) : List Token → Prop
  | patternFirst {before between behind : List (String × List Token)} {color : List Token}
      (hbefore : Extras before) (hbetween : Extras between) (hbehind : Extras behind)
      (hcolor : e.color.Spelled color) :
      Spelled e (objectTokens (before ++ ("pattern", [.text (some e.pattern)]) ::
        (between ++ ("color", color) :: behind)))
  | colorFirst {before between behind : List (String × List Token)} {color : List Token}
      (hbefore : Extras before) (hbetween : Extras between) (hbehind : Extras behind)
      (hcolor : e.color.Spelled color) :
      Spelled e (objectTokens (before ++ ("color", color) ::
        (between ++ ("pattern", [.text (some e.pattern)]) :: behind)))
  | list {color : List Token} (hcolor : e.color.Spelled color) :
      Spelled e (listTokens [[.text (some e.pattern)], color])

theorem field_of_ne {name : String} (hpattern : name ≠ "pattern") (hcolor : name ≠ "color")
    (draft : Draft) : Draft.field name draft = Reader.passedOver draft := by
  rw [Draft.field.eq_def]
  split
  · exact absurd rfl hpattern
  · exact absurd rfl hcolor
  · rfl

theorem Extras.fills {extras members : List (String × List Token)} {draft : Draft}
    {o : Option Draft} (h : Extras extras) (hrest : Fills Draft.field members draft o) :
    Fills Draft.field (extras ++ members) draft o := by
  induction extras with
  | nil => exact hrest
  | cons m extras ih =>
      obtain ⟨⟨hpattern, hcolor, hvalue⟩, hextras⟩ := List.forall_mem_cons.mp h
      exact .cons (field_of_ne hpattern hcolor draft) (hvalue.gives_skip.map _) (ih hextras)

theorem fills_pattern (p : String) {members : List (String × List Token)} {color : Option Color}
    {o : Option Draft} (h : Fills Draft.field members ⟨some p, color⟩ o) :
    Fills Draft.field (("pattern", [.text (some p)]) :: members) ⟨none, color⟩ o :=
  .once rfl (.text p) h

theorem fills_color {members : List (String × List Token)} {ts : List Token} {c : Color}
    {pattern : Option String} {o : Option Draft} (hc : c.Spelled ts)
    (h : Fills Draft.field members ⟨pattern, some c⟩ o) :
    Fills Draft.field (("color", ts) :: members) ⟨pattern, none⟩ o :=
  .once rfl hc.gives h

theorem Spelled.gives {e : PaletteEntry} {ts : List Token} (h : e.Spelled ts) :
    Gives reader ts (some e) := by
  cases h with
  | patternFirst hbefore hbetween hbehind hcolor =>
      have hfills := hbefore.fills (fills_pattern e.pattern
        (hbetween.fills (fills_color hcolor (hbehind.fills (.nil _)))))
      rw [List.append_nil] at hfills
      exact (Gives.finish hfills Draft.finish).record_byName "PaletteEntry"
  | colorFirst hbefore hbetween hbehind hcolor =>
      have hfills := hbefore.fills (fills_color hcolor
        (hbetween.fills (fills_pattern e.pattern (hbehind.fills (.nil _)))))
      rw [List.append_nil] at hfills
      exact (Gives.finish hfills Draft.finish).record_byName "PaletteEntry"
  | list hcolor =>
      refine GivesPart.record (o := some (e, [])) ?_ "PaletteEntry"
      exact .bind (.element (.text e.pattern) (opens_text e.pattern) _ 0 _)
        (.bind (.element hcolor.gives hcolor.opens _ 1 _) (.pure e _))

theorem Spelled.opens {e : PaletteEntry} {ts : List Token} (h : e.Spelled ts) : Opens ts := by
  cases h <;> exact ⟨_, _, rfl, Token.noConfusion⟩

end PaletteEntry

/-! ## Labels -/

/-- What can be set about the labels. -/
inductive LabelSetting
  | showAll (text : String)
  | showTop (text : String)

namespace LabelSetting

def name : LabelSetting → String
  | showAll _ => "show_all"
  | showTop _ => "show_top"

def text : LabelSetting → String
  | showAll text => text
  | showTop text => text

def put : LabelSetting → ToggleLabels.Draft → ToggleLabels.Draft
  | showAll text, draft => { draft with showAll := some text }
  | showTop text, draft => { draft with showTop := some text }

def Has (draft : ToggleLabels.Draft) : LabelSetting → Prop
  | showAll text => draft.showAll = some text
  | showTop text => draft.showTop = some text

theorem eq_of_has {draft : ToggleLabels.Draft} {p q : LabelSetting} (hname : p.name = q.name)
    (hp : p.Has draft) (hq : q.Has draft) : p = q := by
  cases p <;> cases q <;> simp_all [name, Has]

/-- Labels are spelled as an object, in any order, or as a list that may end
early. -/
inductive Spelled (given : List LabelSetting) : List Token → Prop
  | object : Spelled given (objectTokens (given.map fun s => (s.name, [.text (some s.text)])))
  | list (h : given.map name <+: ToggleLabels.fieldNames) :
      Spelled given (listTokens (given.map fun s => [.text (some s.text)]))

end LabelSetting

namespace ToggleLabels

/-- Labels as a strict record. -/
def strict : StrictRecord Draft LabelSetting where
  field := Draft.field
  name := LabelSetting.name
  put := LabelSetting.put
  Has := LabelSetting.Has
  has_put_self := by rintro (_ | _) draft <;> rfl
  has_put_of_ne := by
    rintro (_ | _) (_ | _) draft hne <;> first | exact absurd rfl hne | exact Iff.rfl
  field_cases := by
    intro n draft
    rw [Draft.field.eq_def]
    split
    · refine .inr ⟨_, _, _, .showAll, rfl, .text, fun _ => rfl, ?_⟩
      rintro hnone (_ | _) <;> simp [LabelSetting.name, LabelSetting.Has, hnone]
    · refine .inr ⟨_, _, _, .showTop, rfl, .text, fun _ => rfl, ?_⟩
      rintro hnone (_ | _) <;> simp [LabelSetting.name, LabelSetting.Has, hnone]
    · exact .inl ⟨_, rfl⟩

theorem gives_object {members : List (String × List Token)} {o : Option Draft}
    (h : Fills Draft.field members {} o) :
    Gives reader (objectTokens members) (o.map Draft.finish) :=
  (Gives.finish_always h Draft.finish).record_byName "ToggleLabels"

theorem takesWhole_reader : TakesWhole reader := by
  refine .record _ (fun members hmembers => ?_) ?_
  · obtain ⟨o, hfills⟩ := exists_fills (fun _ _ _ => strict.takesWhole) hmembers {}
    exact ⟨_, Gives.finish_always hfills Draft.finish⟩
  · exact .bind (.elementOr .text 0 _) fun _ => .bind (.elementOr .text 1 _) fun _ => .pure _

/-- The labels that are set so, with defaults for what is not set. -/
def ofSettings (given : List LabelSetting) : ToggleLabels := (strict.fill given {}).finish

theorem not_has_blank (s : LabelSetting) : ¬ s.Has {} := by cases s <;> exact nofun

/-- What the labels have is what was set. -/
theorem has_fill_iff {given : List LabelSetting} (hnames : (given.map LabelSetting.name).Nodup)
    {s : LabelSetting} : s.Has (strict.fill given {}) ↔ s ∈ given := by
  refine ⟨fun h => ?_, strict.has_fill_of_mem hnames⟩
  obtain ⟨p, hp, hname, hhas⟩ := strict.exists_mem_of_has_fill not_has_blank hnames h
  exact LabelSetting.eq_of_has hname hhas h ▸ hp

theorem reads_setting (s : LabelSetting) : strict.Reads s [.text (some s.text)] := by
  cases s with
  | showAll text =>
      exact strict.reads_of_once .showAll (·.showAll) (fun _ => rfl) (fun _ _ h => ⟨rfl, h⟩)
        (.text text)
  | showTop text =>
      exact strict.reads_of_once .showTop (·.showTop) (fun _ => rfl) (fun _ _ h => ⟨rfl, h⟩)
        (.text text)

end ToggleLabels

/-- A list of labels gives their texts from the front. -/
theorem LabelSetting.cases_of_front {given : List LabelSetting}
    (h : given.map name <+: ToggleLabels.fieldNames) :
    given = [] ∨ (∃ a, given = [.showAll a]) ∨ ∃ a b, given = [.showAll a, .showTop b] := by
  rcases given with _ | ⟨_ | _, _ | ⟨_ | _, _ | _⟩⟩ <;>
    simp [name, ToggleLabels.fieldNames, List.cons_prefix_cons] at h ⊢

theorem LabelSetting.Spelled.gives {given : List LabelSetting} {ts : List Token}
    (h : LabelSetting.Spelled given ts) (hnames : (given.map LabelSetting.name).Nodup) :
    Gives ToggleLabels.reader ts (some (.ofSettings given)) := by
  cases h with
  | object =>
      have hfills : Fills ToggleLabels.strict.field _ {} _ := ToggleLabels.strict.fills id
        (fun s : LabelSetting => [.text (some s.text)]) (by rwa [List.map_id])
        (fun _ _ q _ => ToggleLabels.not_has_blank q) fun s _ => ToggleLabels.reads_setting s
      rw [List.map_id] at hfills
      exact ToggleLabels.gives_object hfills
  | list h =>
      obtain rfl | ⟨a, rfl⟩ | ⟨a, b, rfl⟩ := cases_of_front h
      · refine GivesPart.record (o := some (ToggleLabels.ofSettings [], [])) ?_ "ToggleLabels"
        exact .bind (.elementOr_nil _ 0 _) (.bind (.elementOr_nil _ 1 _) (.pure _ _))
      · refine GivesPart.record (o := some (ToggleLabels.ofSettings [.showAll a], [])) ?_
          "ToggleLabels"
        exact .bind (.elementOr (.text a) (opens_text a) 0 _ _)
          (.bind (.elementOr_nil _ 1 _) (.pure _ _))
      · refine GivesPart.record (o := some (ToggleLabels.ofSettings [.showAll a, .showTop b], []))
          ?_ "ToggleLabels"
        exact .bind (.elementOr (.text a) (opens_text a) 0 _ _)
          (.bind (.elementOr (.text b) (opens_text b) 1 _ _) (.pure _ _))

/-! ## Settings -/

/-- What can be set about a dashboard. -/
inductive Setting
  | limit (value : Int)
  | paddingLeft (value : Option UInt32)
  | width (value : UInt32)
  | locale (tag : String)
  | seriesName (name : String)
  | labels (given : List LabelSetting)
  | palette (entries : Option (List PaletteEntry))
  | fallbackColor (color : Option Color)

namespace Setting

def name : Setting → String
  | limit _ => "limit"
  | paddingLeft _ => "padding_left"
  | width _ => "width"
  | locale _ => "locale"
  | seriesName _ => "series_name"
  | labels _ => "labels"
  | palette _ => "palette"
  | fallbackColor _ => "fallback_color"

/-- Labels that were read are as if both texts had been set. -/
def ofLabels (l : ToggleLabels) : Setting := labels [.showAll l.showAll, .showTop l.showTop]

def put : Setting → Dashboard.Draft → Dashboard.Draft
  | limit value, draft => { draft with limit := some value }
  | paddingLeft value, draft => { draft with paddingLeft := some value }
  | width value, draft => { draft with width := some value }
  | locale tag, draft => { draft with locale := some tag }
  | seriesName name, draft => { draft with seriesName := some name }
  | labels given, draft => { draft with labels := some (.ofSettings given) }
  | palette entries, draft => { draft with paletteEntries := some entries }
  | fallbackColor color, draft => { draft with fallbackColor := some color }

def Has (draft : Dashboard.Draft) : Setting → Prop
  | limit value => draft.limit = some value
  | paddingLeft value => draft.paddingLeft = some value
  | width value => draft.width = some value
  | locale tag => draft.locale = some tag
  | seriesName name => draft.seriesName = some name
  | labels given => draft.labels = some (.ofSettings given)
  | palette entries => draft.paletteEntries = some entries
  | fallbackColor color => draft.fallbackColor = some color

theorem eq_of_has {draft : Dashboard.Draft} {p q : Setting} (hlabels : p.name ≠ "labels")
    (hname : p.name = q.name) (hp : p.Has draft) (hq : q.Has draft) : p = q := by
  cases p <;> cases q <;> simp_all [name, Has]

theorem exists_labels_of_name {s : Setting} (h : s.name = "labels") :
    ∃ given, s = labels given := by
  cases s with
  | labels given => exact ⟨given, rfl⟩
  | _ => simp [name] at h

/-- How a setting is spelled. The labels are not set twice either. -/
inductive Spelled : Setting → List Token → Prop
  | limit {value : Int} (hlow : -2 ^ 63 ≤ value) (hhigh : value < 2 ^ 63) :
      Spelled (.limit value) (tokens (.integer value))
  | paddingLeft (value : Option UInt32) :
      Spelled (.paddingLeft value) (tokens (.ofOption jsonOfWord value))
  | width (value : UInt32) : Spelled (.width value) (tokens (jsonOfWord value))
  | locale (tag : String) : Spelled (.locale tag) [.text (some tag)]
  | seriesName (name : String) : Spelled (.seriesName name) [.text (some name)]
  | labels {given : List LabelSetting} {ts : List Token}
      (hnames : (given.map LabelSetting.name).Nodup) (h : LabelSetting.Spelled given ts) :
      Spelled (.labels given) ts
  | noPalette : Spelled (.palette none) [.null]
  | palette {entries : List (PaletteEntry × List Token)} (h : ∀ e ∈ entries, e.1.Spelled e.2) :
      Spelled (.palette (some (entries.map Prod.fst))) (listTokens (entries.map Prod.snd))
  | noFallbackColor : Spelled (.fallbackColor none) [.null]
  | fallbackColor {color : Color} {ts : List Token} (h : color.Spelled ts) :
      Spelled (.fallbackColor (some color)) ts

end Setting

namespace Dashboard

theorem takesWhole_entriesReader : TakesWhole entriesReader :=
  .optional (.list PaletteEntry.takesWhole_reader)

/-- A dashboard as a strict record. -/
def strict : StrictRecord Draft Setting where
  field := Draft.field
  name := Setting.name
  put := Setting.put
  Has := Setting.Has
  has_put_self := by rintro (_ | _) draft <;> rfl
  has_put_of_ne := by
    rintro (_ | _) (_ | _) draft hne <;> first | exact absurd rfl hne | exact Iff.rfl
  field_cases := by
    intro n draft
    rw [Draft.field.eq_def]
    split
    case' h_1 => refine .inr ⟨_, _, _, .limit, rfl, .int64, fun _ => rfl, ?_⟩
    case' h_2 => refine .inr ⟨_, _, _, .paddingLeft, rfl, .optional .uint32, fun _ => rfl, ?_⟩
    case' h_3 => refine .inr ⟨_, _, _, .width, rfl, .uint32, fun _ => rfl, ?_⟩
    case' h_4 => refine .inr ⟨_, _, _, .locale, rfl, .text, fun _ => rfl, ?_⟩
    case' h_5 => refine .inr ⟨_, _, _, .seriesName, rfl, .text, fun _ => rfl, ?_⟩
    case' h_6 =>
      refine .inr ⟨_, _, _, .ofLabels, rfl, ToggleLabels.takesWhole_reader, fun _ => rfl, ?_⟩
    case' h_7 => refine .inr ⟨_, _, _, .palette, rfl, takesWhole_entriesReader, fun _ => rfl, ?_⟩
    case' h_8 =>
      refine .inr ⟨_, _, _, .fallbackColor, rfl, .optional Color.takesWhole_reader,
        fun _ => rfl, ?_⟩
    case h_9 => exact .inl ⟨_, rfl⟩
    all_goals rintro hnone (_ | _) <;> simp [Setting.name, Setting.Has, hnone]

theorem not_has_blank (s : Setting) : ¬ s.Has {} := by cases s <;> exact nofun

/-- What the dashboard has is what was set. -/
theorem has_fill_iff {settings : List Setting} (hnames : (settings.map Setting.name).Nodup)
    {s : Setting} (hlabels : s.name ≠ "labels") :
    s.Has (strict.fill settings {}) ↔ s ∈ settings := by
  refine ⟨fun h => ?_, strict.has_fill_of_mem hnames⟩
  obtain ⟨p, hp, hname, hhas⟩ := strict.exists_mem_of_has_fill not_has_blank hnames h
  exact Setting.eq_of_has (hname.trans_ne hlabels) hname hhas h ▸ hp

/-- The labels of the dashboard are those that were set. -/
theorem labels_fill_iff {settings : List Setting} (hnames : (settings.map Setting.name).Nodup)
    {l : ToggleLabels} : (strict.fill settings {}).labels = some l ↔
      ∃ given, .labels given ∈ settings ∧ ToggleLabels.ofSettings given = l := by
  refine ⟨fun h => ?_, ?_⟩
  · have hset : strict.Has (strict.fill settings {}) (.ofLabels l) := h
    obtain ⟨p, hp, hname, hhas⟩ := strict.exists_mem_of_has_fill not_has_blank hnames hset
    obtain ⟨given, rfl⟩ := Setting.exists_labels_of_name hname
    exact ⟨given, hp, Option.some.inj (hhas.symm.trans h)⟩
  · rintro ⟨given, hgiven, rfl⟩
    exact strict.has_fill_of_mem hnames hgiven

theorem gives_entries {entries : List (PaletteEntry × List Token)}
    (h : ∀ e ∈ entries, e.1.Spelled e.2) :
    Gives entriesReader (listTokens (entries.map Prod.snd))
      (some (some (entries.map Prod.fst))) := by
  have hlist := Gives.list (fun e he => (h e he).gives) fun e he => (h e he).opens
  rw [show (entries.mapM fun e => some e.1) = some (entries.map Prod.fst) from List.mapM_pure]
    at hlist
  exact hlist.optional Token.noConfusion

/-- A setting that is spelled is read, unless it was set before. -/
theorem reads_of_spelled {s : Setting} {ts : List Token} (h : s.Spelled ts) :
    strict.Reads s ts := by
  cases h with
  | limit hlow hhigh =>
      have hgives := gives_integer "i64" ⟨hlow, Int.le_sub_one_of_lt hhigh⟩ hlow (by omega)
      exact strict.reads_of_once .limit (·.limit) (fun _ => rfl) (fun _ _ h => ⟨rfl, h⟩) hgives
  | paddingLeft value =>
      exact strict.reads_of_once .paddingLeft (·.paddingLeft) (fun _ => rfl) (fun _ _ h => ⟨rfl, h⟩)
        (gives_optionalWord value)
  | width value =>
      exact strict.reads_of_once .width (·.width) (fun _ => rfl) (fun _ _ h => ⟨rfl, h⟩)
        (gives_word value)
  | locale tag =>
      exact strict.reads_of_once .locale (·.locale) (fun _ => rfl) (fun _ _ h => ⟨rfl, h⟩)
        (.text tag)
  | seriesName name =>
      exact strict.reads_of_once .seriesName (·.seriesName) (fun _ => rfl) (fun _ _ h => ⟨rfl, h⟩)
        (.text name)
  | labels hnames h =>
      exact strict.reads_of_once .ofLabels (·.labels) (fun _ => rfl) (fun _ _ h => ⟨rfl, h⟩)
        (h.gives hnames)
  | noPalette =>
      exact strict.reads_of_once .palette (·.paletteEntries) (fun _ => rfl) (fun _ _ h => ⟨rfl, h⟩)
        (.optional_null _)
  | palette h =>
      exact strict.reads_of_once .palette (·.paletteEntries) (fun _ => rfl) (fun _ _ h => ⟨rfl, h⟩)
        (gives_entries h)
  | noFallbackColor =>
      exact strict.reads_of_once .fallbackColor (·.fallbackColor) (fun _ => rfl)
        (fun _ _ h => ⟨rfl, h⟩) (.optional_null _)
  | fallbackColor h =>
      exact strict.reads_of_once .fallbackColor (·.fallbackColor) (fun _ => rfl)
        (fun _ _ h => ⟨rfl, h⟩) h.gives_optional

theorem gives_object {members : List (String × List Token)} {o : Option Draft}
    (h : Fills Draft.field members {} o) :
    Gives reader (objectTokens members) (o.map Draft.finish) :=
  (Gives.finish_always h Draft.finish).record_byName "DashboardConfig"

/-- The dashboard that is set so, with defaults for what is not set. -/
def ofSettings (settings : List Setting) : Dashboard := (strict.fill settings {}).finish

/-- Nothing is set twice, at either level. -/
structure Distinct (settings : List Setting) : Prop where
  names : (settings.map Setting.name).Nodup
  labels : ∀ given, .labels given ∈ settings → (given.map LabelSetting.name).Nodup

/-- The text holds an object with these settings, in this order, and none of
them twice. -/
structure Holds (text : String) (settings : List Setting) : Prop where
  nodup : (settings.map Setting.name).Nodup
  written : ∃ members : List (Setting × List Token), members.map Prod.fst = settings ∧
    (∀ m ∈ members, m.1.Spelled m.2) ∧
    Json.Written text.toList (objectTokens (members.map fun m => (m.1.name, m.2)))

theorem Holds.distinct {text : String} {settings : List Setting} (h : Holds text settings) :
    Distinct settings := by
  refine ⟨h.nodup, fun given hgiven => ?_⟩
  obtain ⟨members, rfl, hspelled, -⟩ := h.written
  obtain ⟨⟨s, ts⟩, hm, rfl⟩ := List.mem_map.mp hgiven
  cases hspelled _ hm with
  | labels hnames h => exact hnames

/-- What is read is what the text says. -/
theorem ofText_of_holds {text : String} {settings : List Setting} (h : Holds text settings) :
    ofText text = .ok (ofSettings settings) := by
  obtain ⟨hnames, members, rfl, hspelled, hwritten⟩ := h
  have hfills : Fills strict.field (members.map fun m => (m.1.name, m.2)) {} _ :=
    strict.fills Prod.fst Prod.snd hnames (fun _ _ q _ => not_has_blank q)
      fun m hm => reads_of_spelled (hspelled m hm)
  have hread := (gives_object hfills).toOption_readAll (Json.scan_eq hwritten)
  exact toOption_eq_some_iff.mp hread

/-! ## The order of the settings -/

/-- The same setting, the labels in any order. -/
inductive Same : Setting → Setting → Prop
  | refl (s : Setting) : Same s s
  | labels {given given' : List LabelSetting} (h : given.Perm given') :
      Same (.labels given) (.labels given')

/-- The same settings in any order. -/
def Rearranged (settings settings' : List Setting) : Prop :=
  (∀ s ∈ settings, ∃ s' ∈ settings', Same s s') ∧ ∀ s' ∈ settings', ∃ s ∈ settings, Same s s'

theorem Rearranged.of_perm {settings settings' : List Setting} (h : settings.Perm settings') :
    Rearranged settings settings' :=
  ⟨fun s hs => ⟨s, h.mem_iff.mp hs, .refl s⟩, fun s hs => ⟨s, h.mem_iff.mpr hs, .refl s⟩⟩

theorem Same.symm {s s' : Setting} (h : Same s s') : Same s' s := by
  cases h with
  | refl => exact .refl s
  | labels hperm => exact .labels hperm.symm

theorem Rearranged.symm {settings settings' : List Setting} (h : Rearranged settings settings') :
    Rearranged settings' settings := by
  refine ⟨fun s' hs' => ?_, fun s hs => ?_⟩
  · obtain ⟨s, hs, hsame⟩ := h.2 s' hs'
    exact ⟨s, hs, hsame.symm⟩
  · obtain ⟨s', hs', hsame⟩ := h.1 s hs
    exact ⟨s', hs', hsame.symm⟩

theorem Rearranged.mem {settings settings' : List Setting} (h : Rearranged settings settings')
    {s : Setting} (hlabels : s.name ≠ "labels") (hs : s ∈ settings) : s ∈ settings' := by
  obtain ⟨s', hs', hsame⟩ := h.1 s hs
  cases hsame with
  | refl => exact hs'
  | labels hperm => exact absurd rfl hlabels

end Dashboard

theorem ToggleLabels.ofSettings_perm {given given' : List LabelSetting} (h : given.Perm given')
    (hnames : (given.map LabelSetting.name).Nodup) : ofSettings given = ofSettings given' := by
  have hnames' := (h.map LabelSetting.name).nodup_iff.mp hnames
  have hhas (s : LabelSetting) : s.Has (strict.fill given {}) ↔ s.Has (strict.fill given' {}) := by
    rw [has_fill_iff hnames, has_fill_iff hnames', h.mem_iff]
  have hdraft : strict.fill given {} = strict.fill given' {} :=
    Draft.ext (Option.ext fun t => hhas (.showAll t)) (Option.ext fun t => hhas (.showTop t))
  rw [ofSettings, hdraft, ofSettings]

namespace Dashboard

theorem Rearranged.exists_labels {settings settings' : List Setting}
    (h : Rearranged settings settings') (hdistinct : Distinct settings) {l : ToggleLabels}
    (hl : ∃ given, .labels given ∈ settings ∧ ToggleLabels.ofSettings given = l) :
    ∃ given, .labels given ∈ settings' ∧ ToggleLabels.ofSettings given = l := by
  obtain ⟨given, hgiven, rfl⟩ := hl
  obtain ⟨s', hs', hsame⟩ := h.1 _ hgiven
  cases hsame with
  | refl => exact ⟨given, hs', rfl⟩
  | labels hperm =>
      exact ⟨_, hs', (ToggleLabels.ofSettings_perm hperm (hdistinct.labels given hgiven)).symm⟩

/-- What is read does not depend on the order of the settings. -/
theorem ofSettings_rearranged {settings settings' : List Setting}
    (h : Rearranged settings settings') (hdistinct : Distinct settings)
    (hdistinct' : Distinct settings') : ofSettings settings = ofSettings settings' := by
  have hhas {s : Setting} (hlabels : s.name ≠ "labels") :
      s.Has (strict.fill settings {}) ↔ s.Has (strict.fill settings' {}) := by
    rw [has_fill_iff hdistinct.names hlabels, has_fill_iff hdistinct'.names hlabels]
    exact ⟨h.mem hlabels, h.symm.mem hlabels⟩
  have hlabels (l : ToggleLabels) : (strict.fill settings {}).labels = some l ↔
      (strict.fill settings' {}).labels = some l := by
    rw [labels_fill_iff hdistinct.names, labels_fill_iff hdistinct'.names]
    exact ⟨h.exists_labels hdistinct, h.symm.exists_labels hdistinct'⟩
  have hdraft : strict.fill settings {} = strict.fill settings' {} := by
    refine Draft.ext (Option.ext fun v => hhas (s := .limit v) ?_)
      (Option.ext fun v => hhas (s := .paddingLeft v) ?_)
      (Option.ext fun v => hhas (s := .width v) ?_)
      (Option.ext fun v => hhas (s := .locale v) ?_)
      (Option.ext fun v => hhas (s := .seriesName v) ?_) (Option.ext hlabels)
      (Option.ext fun v => hhas (s := .palette v) ?_)
      (Option.ext fun v => hhas (s := .fallbackColor v) ?_) <;> simp [Setting.name]
  rw [ofSettings, hdraft, ofSettings]

/-! ## What is refused -/

end Dashboard

theorem ToggleLabels.gives_none_of_flawed {members : List (String × List Token)}
    (hmembers : ∀ m ∈ members, OneValue m.2) (hflawed : Flawed fieldNames members) :
    Gives reader (objectTokens members) none := by
  have hknown (s : LabelSetting) : s.name ∈ fieldNames := by
    cases s <;> simp [LabelSetting.name, fieldNames]
  exact gives_object (strict.fills_none hknown hmembers hflawed {})

namespace Dashboard

/-- Something is set twice or is not there to be set, or that is so of the
labels. -/
def Spoiled (members : List (String × List Token)) : Prop :=
  Flawed fieldNames members ∨ ∃ inner, ("labels", objectTokens inner) ∈ members ∧
    (∀ m ∈ inner, OneValue m.2) ∧ Flawed ToggleLabels.fieldNames inner

theorem fills_none_of_spoiled {members : List (String × List Token)}
    (hmembers : ∀ m ∈ members, OneValue m.2) (hspoiled : Spoiled members) :
    Fills Draft.field members {} none := by
  rcases hspoiled with hflawed | ⟨inner, hinner, hvalues, hflawed⟩
  · have hknown (s : Setting) : s.name ∈ fieldNames := by
      cases s <;> simp [Setting.name, fieldNames]
    exact strict.fills_none hknown hmembers hflawed {}
  · obtain ⟨o, hfills⟩ := exists_fills (fun _ _ _ => strict.takesWhole) hmembers {}
    cases o with
    | none => exact hfills
    | some done =>
        -- The labels would have been read somewhere on the way.
        obtain ⟨draft, r, next, hfield, hr⟩ := (strict.accepted hfills).1.read _ hinner
        obtain ⟨-, rfl⟩ := once_eq_ok_iff.mp hfield
        have hnone := (ToggleLabels.gives_none_of_flawed hvalues hflawed).map
          fun l => { draft with labels := some l }
        cases hr.unique hnone

/-- An object that is spoiled is not read. -/
theorem ofText_of_spoiled {text : String} {members : List (String × List Token)}
    (hwritten : Json.Written text.toList (objectTokens members))
    (hmembers : ∀ m ∈ members, OneValue m.2) (hspoiled : Spoiled members) :
    ∃ cause, ofText text = .error cause := by
  have hread : (ofText text).toOption = none :=
    (gives_object (fills_none_of_spoiled hmembers hspoiled)).toOption_readAll
      (Json.scan_eq hwritten)
  cases hof : ofText text with
  | error cause => exact ⟨cause, rfl⟩
  | ok d =>
      rw [hof] at hread
      cases hread

end Dashboard

end RankedBars
