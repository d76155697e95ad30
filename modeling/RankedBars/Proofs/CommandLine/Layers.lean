import Mathlib.Data.List.Nodup
import RankedBars.CommandLine
import RankedBars.Proofs.Dashboard.Settings
import RankedBars.Proofs.Dataset.Loaded
import RankedBars.Proofs.Toggle.Steady

/-!
# Flags over file over defaults

A chart takes each part of its configuration from the first of three places
that has it: the arguments, the configuration file, the defaults. `Layer` says
so of one part, and `Layers` of all of them at once, where they end up in what
is mounted. No part looks at what another one has, and the file is looked at as
a set of settings, so their order does not matter.

A file that sets something twice, or something that is not there, at either
level, is not read at all, and then nothing is drawn.
-/

namespace RankedBars.CommandLine

open Json (Token Written)

/-- Where a part is taken from: a flag, or else a file, or else the default. -/
inductive Layer {α : Type} (flag : Option α) (inFile : α → Prop) (default : α) : α → Prop
  | flag {a : α} (h : flag = some a) : Layer flag inFile default a
  | file {a : α} (hflag : flag = none) (h : inFile a) : Layer flag inFile default a
  | default (hflag : flag = none) (h : ∀ a, ¬ inFile a) : Layer flag inFile default default

/-- What is mounted for a request and the settings of a file, and the locale of
its backend. -/
structure Layers (request : RenderRequest) (settings : List Setting) (m : Mounting)
    (localeTag : String) : Prop where
  limit : Layer request.limit (.limit · ∈ settings) 10 m.options.limit
  paddingLeft : Layer (request.paddingLeft.map some) (.paddingLeft · ∈ settings) none
    m.options.paddingLeft
  width : ∃ width, Layer request.width (.width · ∈ settings) 400 width ∧
    m.renderer.width = some width
  locale : Layer request.locale (.locale · ∈ settings) "en" localeTag
  seriesName : Layer none (.seriesName · ∈ settings) "builds" m.renderer.seriesName
  showAll : Layer none (fun text => ∃ given, .labels given ∈ settings ∧ .showAll text ∈ given)
    "Show full chart" m.options.labels.showAll
  showTop : Layer none (fun text => ∃ given, .labels given ∈ settings ∧ .showTop text ∈ given)
    "Show top \x7bn\x7d" m.options.labels.showTop
  palette : ∃ entries fallback,
    Layer none (fun entries => .palette (some entries) ∈ settings) Palette.builtin.entries
      entries ∧
    Layer none (fun color => .fallbackColor (some color) ∈ settings) Palette.builtinFallback
      fallback ∧
    m.renderer.palette = .ofEntries entries fallback

namespace Layer

variable {α : Type} {flag : Option α} {inFile : α → Prop} {z a b : α}

/-- A flag goes over what was taken without it. -/
theorem flagged (h : Layer none inFile z a) (flag : Option α) :
    Layer flag inFile z (flag.getD a) := by
  cases flag with
  | none => exact h
  | some b => exact .flag rfl

/-- What is found in the file, or else the default. -/
theorem of_iff {o : Option α} (h : ∀ a, inFile a ↔ o = some a) :
    Layer none inFile z (o.getD z) := by
  cases o with
  | none => exact .default rfl fun a ha => nomatch (h a).mp ha
  | some a => exact .file rfl ((h a).mpr rfl)

theorem eq_flag (h : Layer (some b) inFile z a) : a = b := by
  cases h with
  | flag h => exact (Option.some.inj h).symm
  | file hflag => cases hflag
  | default hflag => cases hflag

theorem eq_file (h : Layer none inFile z a) (hb : inFile b) (hone : ∀ c, inFile c → c = b) :
    a = b := by
  cases h with
  | flag hflag => cases hflag
  | file _ ha => exact hone a ha
  | default _ hnone => exact absurd hb (hnone b)

theorem eq_default (h : Layer none inFile z a) (hnone : ∀ c, ¬ inFile c) : a = z := by
  cases h with
  | flag hflag => cases hflag
  | file _ ha => exact absurd ha (hnone a)
  | default => rfl

end Layer

theorem getD_map_some {α : Type} (flag : Option α) (o : Option α) :
    (flag.map some).getD o = flag.or o := by
  cases flag <;> rfl

/-! ## The dashboard of a file -/

section

open Dashboard (Distinct)

variable {settings : List Setting} {α : Type}

theorem layer_of_part (hdistinct : Distinct settings) (part : α → Setting)
    (get : Dashboard.Draft → Option α) {n : String} (hname : ∀ a, (part a).name = n)
    (hlabels : n ≠ "labels") (hhas : ∀ draft a, (part a).Has draft ↔ get draft = some a) (z : α) :
    Layer none (part · ∈ settings) z ((get (Dashboard.strict.fill settings {})).getD z) :=
  .of_iff fun a => by
    rw [← hhas, Dashboard.has_fill_iff hdistinct.names ((hname a).trans_ne hlabels)]

/-- A part that may be given as null takes the default then as well. -/
theorem layer_of_optional (hdistinct : Distinct settings) (part : Option α → Setting)
    (get : Dashboard.Draft → Option (Option α)) {n : String} (hname : ∀ o, (part o).name = n)
    (hlabels : n ≠ "labels") (hhas : ∀ draft o, (part o).Has draft ↔ get draft = some o) (z : α) :
    Layer none (fun a => part (some a) ∈ settings) z
      (((get (Dashboard.strict.fill settings {})).getD none).getD z) :=
  .of_iff fun a => by
    rw [← Dashboard.has_fill_iff hdistinct.names ((hname (some a)).trans_ne hlabels), hhas]
    cases get (Dashboard.strict.fill settings {}) with
    | none => simp
    | some o => simp

theorem layer_of_label (hdistinct : Distinct settings) (part : String → LabelSetting)
    (get : ToggleLabels.Draft → Option String)
    (hhas : ∀ draft t, (part t).Has draft ↔ get draft = some t)
    (label : ToggleLabels → String) {z : String}
    (hlabel : ∀ draft : ToggleLabels.Draft, label draft.finish = (get draft).getD z) :
    Layer none (fun text => ∃ given, .labels given ∈ settings ∧ part text ∈ given) z
      (label (Dashboard.ofSettings settings).labels) := by
  have heq : (Dashboard.ofSettings settings).labels
      = (Dashboard.strict.fill settings {}).labels.getD {} := rfl
  rw [heq]
  cases hl : (Dashboard.strict.fill settings {}).labels with
  | none =>
      have hget : get {} = none := Option.eq_none_iff_forall_ne_some.mpr fun t ht =>
        ToggleLabels.not_has_blank (part t) ((hhas {} t).mpr ht)
      have hdefault : label {} = z := (hlabel {}).trans (by rw [hget, Option.getD_none])
      rw [Option.getD_none, hdefault]
      refine .default rfl fun text hset => ?_
      obtain ⟨given, hgiven, -⟩ := hset
      cases hl.symm.trans ((Dashboard.labels_fill_iff hdistinct.names).mpr ⟨given, hgiven, rfl⟩)
  | some l =>
      obtain ⟨given, hgiven, rfl⟩ := (Dashboard.labels_fill_iff hdistinct.names).mp hl
      rw [Option.getD_some, ToggleLabels.ofSettings, hlabel]
      refine .of_iff fun text => ?_
      rw [← hhas, ToggleLabels.has_fill_iff (hdistinct.labels given hgiven)]
      constructor
      · rintro ⟨other, hother, htext⟩
        cases List.inj_on_of_nodup_map hdistinct.names hother hgiven rfl
        exact htext
      · exact fun htext => ⟨given, hgiven, htext⟩

/-- Every part ends up where it is used. -/
theorem layers_mounting (hdistinct : Distinct settings) (request : RenderRequest) (data : Dataset)
    (container : String) :
    Layers request settings ((request.over (.ofSettings settings)).mounting data container)
      (request.over (.ofSettings settings)).locale := by
  constructor
  case limit =>
    exact (layer_of_part hdistinct .limit (·.limit) (fun _ => rfl) (by decide)
      (fun _ _ => Iff.rfl) 10).flagged request.limit
  case paddingLeft =>
    have hfile := layer_of_part hdistinct .paddingLeft (·.paddingLeft) (fun _ => rfl) (by decide)
      (fun _ _ => Iff.rfl) none
    have hflagged := hfile.flagged (request.paddingLeft.map some)
    rwa [getD_map_some] at hflagged
  case width =>
    exact ⟨_, (layer_of_part hdistinct .width (·.width) (fun _ => rfl) (by decide)
      (fun _ _ => Iff.rfl) 400).flagged request.width, rfl⟩
  case locale =>
    exact (layer_of_part hdistinct .locale (·.locale) (fun _ => rfl) (by decide)
      (fun _ _ => Iff.rfl) "en").flagged request.locale
  case seriesName =>
    exact layer_of_part hdistinct .seriesName (·.seriesName) (fun _ => rfl) (by decide)
      (fun _ _ => Iff.rfl) "builds"
  case showAll =>
    exact layer_of_label hdistinct .showAll (·.showAll) (fun _ _ => Iff.rfl) (·.showAll)
      fun _ => rfl
  case showTop =>
    exact layer_of_label hdistinct .showTop (·.showTop) (fun _ _ => Iff.rfl) (·.showTop)
      fun _ => rfl
  case palette =>
    exact ⟨_, _, layer_of_optional hdistinct .palette (·.paletteEntries) (fun _ => rfl)
      (by decide) (fun _ _ => Iff.rfl) _, layer_of_optional hdistinct .fallbackColor
      (·.fallbackColor) (fun _ => rfl) (by decide) (fun _ _ => Iff.rfl) _, rfl⟩

end

/-! ## Runs -/

variable {files : FileTree} {request : RenderRequest}

/-- A run from the mounting of its chart on. -/
def mounted (files : FileTree) (request : RenderRequest) (localeTag : String) (m : Mounting)
    (notices : List Notice) : Outcome :=
  let B := Svg.backend ⟨request.outDir, localeTag⟩
  match m.mount B { files } with
  | (.error e, store, drawn) =>
      failed [] ⟨["rendering into " ++ request.outDir, e.message]⟩ store.files (notices ++ drawn)
  | (.ok chart, store, drawn) => finish request B ⟨chart, store, notices ++ drawn⟩

theorem render_eq_mounted {dashboard : Dashboard} {data : Dataset} {notices more : List Notice}
    (hconfig : loadDashboard files request.config = .ok (dashboard, notices))
    (hdata : Dataset.load files request.input = .ok (data, more)) :
    render files request = mounted files request (request.over dashboard).locale
      ((request.over dashboard).mounting data request.container) (notices ++ more) := by
  simp only [render, hconfig, hdata]
  rfl

/-- The configuration file of a request has these settings; without a file there
are none. -/
def Configured (files : FileTree) : Option String → List Setting → Prop
  | none, settings => settings = []
  | some path, settings => ∃ text, files.readText path = .ok text ∧ Dashboard.Holds text settings

theorem Configured.loadDashboard_eq {config : Option String} {settings : List Setting}
    (h : Configured files config settings) : ∃ notices,
      loadDashboard files config = .ok (.ofSettings settings, notices) := by
  cases config with
  | none =>
      cases h
      exact ⟨[], rfl⟩
  | some path =>
      obtain ⟨text, htext, hholds⟩ := h
      refine ⟨[.loadedConfig path], ?_⟩
      rw [loadDashboard, Dashboard.load, htext]
      dsimp only
      rw [Dashboard.ofText_of_holds hholds]
      rfl

theorem Configured.distinct {config : Option String} {settings : List Setting}
    (h : Configured files config settings) : Dashboard.Distinct settings := by
  cases config with
  | none =>
      cases h
      exact ⟨List.nodup_nil, nofun⟩
  | some path =>
      obtain ⟨text, -, hholds⟩ := h
      exact hholds.distinct

/-- Each part of what is mounted comes from the first of the flags, the
configuration file and the defaults that has it, whatever the other parts are.
The order of the settings in the file does not matter. With a file that sets
something twice, or sets something unknown, the run fails before anything is
drawn. -/
theorem flags_over_file_over_defaults :
    (∀ (files : FileTree) (request : RenderRequest) (settings : List Setting) (data : Dataset)
      (more : List Notice), Configured files request.config settings →
      Dataset.load files request.input = .ok (data, more) →
      ∃ m localeTag notices, Layers request settings m localeTag ∧
        m.dataset = data ∧ m.container = request.container ∧ m.control = some {} ∧
        render files request = mounted files request localeTag m notices ∧
        ∀ chart store drawn, m.mount (Svg.backend ⟨request.outDir, localeTag⟩) { files }
          = (.ok chart, store, drawn) → m.Fits chart) ∧
    (∀ (text text' : String) (settings settings' : List Setting),
      Dashboard.Holds text settings → Dashboard.Holds text' settings' →
      Dashboard.Rearranged settings settings' →
      ∃ d, Dashboard.ofText text = .ok d ∧ Dashboard.ofText text' = .ok d) ∧
    (∀ (files : FileTree) (request : RenderRequest) (path text : String)
      (members : List (String × List Token)), request.config = some path →
      files.readText path = .ok text → Written text.toList (objectTokens members) →
      (∀ m ∈ members, OneValue m.2) → Dashboard.Spoiled members →
      ∃ cause, render files request
        = failed [] (.ofLoad (.unparsable "config " path cause)) files []) := by
  refine ⟨?_, ?_, ?_⟩
  · intro files request settings data more hconfig hdata
    obtain ⟨notices, hload⟩ := hconfig.loadDashboard_eq
    refine ⟨_, _, _, layers_mounting hconfig.distinct request data request.container, rfl, rfl,
      rfl, render_eq_mounted hload hdata, fun chart store drawn hmount => ?_⟩
    obtain ⟨handle, rfl, hmoves, -⟩ := Mounting.mount_ok hmount
    exact (Mounting.Fits.moves hmoves .blank).dressed
  · intro text text' settings settings' hholds hholds' hrearranged
    refine ⟨_, Dashboard.ofText_of_holds hholds, ?_⟩
    rw [Dashboard.ofText_of_holds hholds',
      Dashboard.ofSettings_rearranged hrearranged hholds.distinct hholds'.distinct]
  · intro files request path text members hpath htext hwritten hmembers hspoiled
    obtain ⟨cause, hcause⟩ := Dashboard.ofText_of_spoiled hwritten hmembers hspoiled
    refine ⟨cause, ?_⟩
    have hload : loadDashboard files request.config
        = .error (.ofLoad (.unparsable "config " path cause)) := by
      rw [hpath, loadDashboard, Dashboard.load, htext]
      dsimp only
      rw [hcause]
      rfl
    simp only [render, hload]

/-- A directory with a dataset of one point and a configuration file. -/
def filesWithConfig (config : Json) : FileTree :=
  (Dataset.fileTreeOf "rows.csv" "label,value\na,1\n".toUTF8).put ["home", "work", "bars.json"]
    (.file (config.indented 0).toUTF8)

/-- A width that goes over the one in the file. -/
def wideRequest : RenderRequest where
  input := "rows.csv"
  config := some "bars.json"
  width := some 500

def barsConfig : Json :=
  .object [("labels", .object [("show_top", .text "Less")]), ("width", jsonOfWord 300),
    ("limit", .integer 3)]

def turnedConfig : Json :=
  .object [("limit", .integer 3), ("labels", .object [("show_top", .text "Less")]),
    ("width", jsonOfWord 300)]

/-- A label that is set twice. -/
def spoiledConfig : Json :=
  .object [("limit", .integer 3),
    ("labels", .object [("show_top", .text "Less"), ("show_top", .text "More")])]

theorem holds_barsConfig : Dashboard.Holds (barsConfig.indented 0)
    [.labels [.showTop "Less"], .width 300, .limit 3] := by
  refine ⟨by decide, [(.labels [.showTop "Less"], _), (.width 300, _), (.limit 3, _)], rfl, ?_,
    Json.written_indented _⟩
  simp only [List.forall_mem_cons]
  exact ⟨.labels (by decide) .object, .width 300, .limit (by decide) (by decide), nofun⟩

theorem holds_turnedConfig : Dashboard.Holds (turnedConfig.indented 0)
    [.limit 3, .labels [.showTop "Less"], .width 300] := by
  refine ⟨by decide, [(.limit 3, _), (.labels [.showTop "Less"], _), (.width 300, _)], rfl, ?_,
    Json.written_indented _⟩
  simp only [List.forall_mem_cons]
  exact ⟨.limit (by decide) (by decide), .labels (by decide) .object, .width 300, nofun⟩

theorem wide_request_over_file_over_defaults :
    (∃ m localeTag notices, m.options.limit = 3 ∧ m.renderer.width = some 500 ∧
      m.options.labels = ⟨"Show full chart", "Less"⟩ ∧ m.options.paddingLeft = none ∧
      localeTag = "en" ∧ render (filesWithConfig barsConfig) wideRequest
        = mounted (filesWithConfig barsConfig) wideRequest localeTag m notices) ∧
    (∃ d, Dashboard.ofText (barsConfig.indented 0) = .ok d ∧
      Dashboard.ofText (turnedConfig.indented 0) = .ok d) ∧
    ∃ cause, render (filesWithConfig spoiledConfig) wideRequest
      = failed [] (.ofLoad (.unparsable "config " "bars.json" cause))
        (filesWithConfig spoiledConfig) [] := by
  obtain ⟨hlayers, horder, hspoiled⟩ := flags_over_file_over_defaults
  have hbars : (filesWithConfig barsConfig).readText "bars.json" = .ok (barsConfig.indented 0) :=
    toOption_eq_some_iff.mp (by decide +kernel)
  have hspoiledText : (filesWithConfig spoiledConfig).readText "bars.json"
      = .ok (spoiledConfig.indented 0) := toOption_eq_some_iff.mp (by decide +kernel)
  refine ⟨?_, horder _ _ _ _ holds_barsConfig holds_turnedConfig ?_, ?_⟩
  · have hrows : (Dataset.load (filesWithConfig barsConfig) "rows.csv").toOption.map Prod.fst
        = some [⟨"a", .ofInt 1⟩] := by decide +kernel
    rcases hload : Dataset.load (filesWithConfig barsConfig) "rows.csv" with e | ⟨data, more⟩
    · rw [hload] at hrows
      cases hrows
    · obtain ⟨m, localeTag, notices, hparts, -, -, -, hrender, -⟩ := hlayers _ wideRequest _ data
        more ⟨_, hbars, holds_barsConfig⟩ hload
      obtain ⟨width, hwidth, hrenderer⟩ := hparts.width
      have hshowAll := hparts.showAll.eq_default (by simp)
      have hshowTop := hparts.showTop.eq_file (b := "Less") (by simp) (by simp)
      refine ⟨m, localeTag, notices, hparts.limit.eq_file (by simp) (by simp), ?_, ?_,
        hparts.paddingLeft.eq_default (by simp), hparts.locale.eq_default (by simp), hrender⟩
      · rw [hrenderer, hwidth.eq_flag]
      · rw [← hshowAll, ← hshowTop]
  · have hturned : List.Perm ([Setting.labels [.showTop "Less"], .width 300] ++ [.limit 3])
        [.limit 3, .labels [.showTop "Less"], .width 300] := List.perm_append_comm
    exact .of_perm hturned
  · have hvalues : ∀ m ∈ [("show_top", [Token.text (some "Less")]),
        ("show_top", [Token.text (some "More")])], OneValue m.2 := by simp [OneValue.text]
    refine hspoiled _ wideRequest "bars.json" _ [("limit", _), ("labels", _)] rfl hspoiledText
      (Json.written_indented _) ?_
      (.inr ⟨_, List.mem_cons_of_mem _ List.mem_cons_self, hvalues, .inl (by decide)⟩)
    simp only [List.forall_mem_cons]
    exact ⟨.number _, .object hvalues, nofun⟩

end RankedBars.CommandLine
