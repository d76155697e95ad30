import RankedBars.Proofs.CommandLine.Toggling

/-!
# Rendering from the command line

What a run leaves behind is worked out in three places: the file is drawn by
the backend whenever the chart is toggled, the report is told from the chart
that is there in the end, and the configuration is worked out once more from
that chart. They agree, whatever the number of toggles is.

That no operation on files fails can be seen from the files at the start.
`Unobstructed` says what it takes, and a run that goes through had all of it
(`unobstructed_of_exitCode_eq_zero`). A dataset without points takes nothing.
-/

namespace RankedBars.CommandLine

open FileTree

/-- Nothing is in the way of a chart. -/
structure Drawable (files : FileTree) (request : RenderRequest) : Prop where
  directory : (files.createDirectories request.outDir).1 = .ok ()
  chart : (files.createDirectories request.outDir).2.CanWrite request.chartPath

/-- Nothing is in the way of the files that a run writes if it has something
to draw. -/
structure Unobstructed (files : FileTree) (request : RenderRequest) : Prop
    extends Drawable files request where
  config : ∀ path, request.emitConfig = some path →
    (files.createDirectories request.outDir).2.CanWrite path

/-- The files when a chart was drawn. -/
def filesWith (files : FileTree) (request : RenderRequest) (drawing : ByteArray) : FileTree :=
  (files.createDirectories request.outDir).2.put (files.placeOf request.chartPath) (.file drawing)

variable {files : FileTree} {request : RenderRequest} {path : String}

theorem placeOf_made (files : FileTree) (request : RenderRequest) (path : String) :
    (files.createDirectories request.outDir).2.placeOf path = files.placeOf path :=
  placeOf_congr (createDirectories_extends files request.outDir).workingDirectory path

theorem placeOf_filesWith (drawing : ByteArray) (path : String) :
    (filesWith files request drawing).placeOf path = files.placeOf path :=
  placeOf_made files request path

namespace Drawable

theorem free_place (h : Drawable files request) :
    (files.createDirectories request.outDir).2.node? (files.placeOf request.chartPath)
      ≠ some .directory := by
  rw [← placeOf_made files request]
  exact h.chart.free

theorem canWrite_filesWith_iff (h : Drawable files request) (drawing : ByteArray) :
    (filesWith files request drawing).CanWrite path ↔
      (files.createDirectories request.outDir).2.CanWrite path :=
  CanWrite.put_iff h.free_place

theorem node?_chartPath (h : Drawable files request) (drawing : ByteArray) :
    (filesWith files request drawing).node? (files.placeOf request.chartPath)
      = some (.file drawing) := by
  refine node?_put_self _ _ ?_
  rw [← placeOf_made files request]
  exact h.chart.placeOf_ne_nil

theorem read_chart (h : Drawable files request) (drawing : ByteArray) :
    (filesWith files request drawing).read request.chartPath = .ok drawing := by
  refine ((h.canWrite_filesWith_iff drawing).mpr h.chart).read_eq ?_
  rw [placeOf_filesWith]
  exact h.node?_chartPath drawing

end Drawable

namespace Unobstructed

theorem canWrite_config (h : Unobstructed files request) (hpath : request.emitConfig = some path)
    (drawing : ByteArray) : (filesWith files request drawing).CanWrite path :=
  (h.canWrite_filesWith_iff drawing).mpr (h.config path hpath)

/-- A file somewhere else leaves the chart as it is. -/
theorem read_chart_beside (h : Unobstructed files request) (hpath : request.emitConfig = some path)
    (hne : files.placeOf path ≠ files.placeOf request.chartPath) (drawing saved : ByteArray) :
    ((filesWith files request drawing).put (files.placeOf path) (.file saved)).read
      request.chartPath = .ok drawing := by
  have hfree := (h.canWrite_config hpath drawing).free
  rw [placeOf_filesWith] at hfree
  refine ((h.canWrite_filesWith_iff drawing).mpr h.chart).read_put_of_ne hfree ?_ ?_
  · rw [placeOf_filesWith]
    exact hne.symm
  · rw [placeOf_filesWith]
    exact h.node?_chartPath drawing

theorem read_config (h : Unobstructed files request) (hpath : request.emitConfig = some path)
    (drawing saved : ByteArray) :
    ((filesWith files request drawing).put (files.placeOf path) (.file saved)).read path
      = .ok saved := by
  have hread := (h.canWrite_config hpath drawing).read_put saved
  rwa [placeOf_filesWith] at hread

end Unobstructed

/-- A run that went through, with the dashboard and the dataset it had. -/
structure Rendered (files : FileTree) (request : RenderRequest) (d : Dashboard)
    (data : Dataset) (outcome : Outcome) : Prop where
  exitCode : outcome.exitCode = 0
  told : outcome.errors = linesOf (report request d data)
  mode : ∃ c store drawn notices exhausted r,
    ToggleChart.mount (Svg.backend ⟨request.outDir, d.locale⟩) d.renderer data request.container
      (some {}) d.mountOptions { files } = (.ok c, store, drawn) ∧
    toggleTimes (Svg.backend ⟨request.outDir, d.locale⟩) request.toggles ⟨c, store, notices⟩
      = (.ok exhausted, r) ∧
    (r.chart.mode = .all ↔ max d.limit 0 < data.length ∧ Odd request.toggles)
  untouched : data = [] → outcome.files = files
  /-- The chart is there unless the configuration was asked for in its
  place. -/
  chart : data ≠ [] →
    (∀ path, request.emitConfig = some path → files.placeOf path
      ≠ files.placeOf request.chartPath) →
    outcome.files.read request.chartPath
      = .ok ((⟨request.outDir, d.locale⟩ : Svg.Settings).drawing
          (finalConfig request d data)).toByteArray
  config : data ≠ [] → ∀ path, request.emitConfig = some path →
    outcome.files.read path = .ok (finalConfig request d data).saved.toByteArray

/-! ## The chart in the end -/

/-- Whatever there is to draw, there is a stage for it: one where a file comes
and goes, or one where nothing moves. -/
theorem exists_stage {data : Dataset} (localeTag : String)
    (hvalid : Svg.isValidContainer request.container = true)
    (hclear : data ≠ [] → Drawable files request) :
    ∃ S : Stage Svg.Store Svg.Handle, S.free { files } ∧
      (data ≠ [] → S.Sound (Svg.backend ⟨request.outDir, localeTag⟩) request.container) ∧
      (data = [] → ∀ s, S.free s → s.files = files) ∧
      ∀ config handle s, S.shows config handle s → handle.path = request.chartPath ∧
        s.files = filesWith files request
          ((⟨request.outDir, localeTag⟩ : Svg.Settings).drawing config).toByteArray := by
  by_cases hnil : data = []
  · exact ⟨⟨fun s => s.files = files, fun _ _ _ => False⟩, rfl, absurd hnil,
      fun _ _ hfree => hfree, fun _ _ _ hshows => hshows.elim⟩
  · have hclear := hclear hnil
    rcases hmade : files.createDirectories request.outDir with ⟨result, made⟩
    have hdirectory := hclear.directory
    have hchart := hclear.chart
    rw [hmade] at hdirectory hchart
    cases hdirectory
    have hroom : Svg.HasRoom ⟨request.outDir, localeTag⟩ made request.container :=
      (Svg.hasRoom_iff hvalid (hasDirectory_of_createDirectories hmade)).mpr hchart
    have hplace : Svg.Settings.placeFor ⟨request.outDir, localeTag⟩ made request.container
        = files.placeOf request.chartPath := by
      rw [← Svg.placeOf_pathFor hvalid, ← placeOf_made files request, hmade]
      rfl
    refine ⟨Svg.stage ⟨request.outDir, localeTag⟩ files made request.container, ⟨rfl, .inl rfl⟩,
      fun _ => Svg.stage_sound hvalid hmade hroom, fun h => absurd h hnil, ?_⟩
    rintro config handle s ⟨rfl, rfl⟩
    rw [filesWith, hmade, ← hplace]
    exact ⟨rfl, rfl⟩

/-- A chart that was toggled as often as asked, and what there is to tell
about it. -/
structure Ended (files : FileTree) (request : RenderRequest) (d : Dashboard) (data : Dataset)
    (exhausted : Bool) (r : Rendering) : Prop where
  mode : r.chart.mode = .all ↔ max d.limit 0 < data.length ∧ Odd request.toggles
  config : r.chart.config = finalConfig request d data
  report : (if exhausted then ["Nothing to toggle: every entry is already shown"] else [])
      ++ finalLines r.chart ++ request.emitConfig.toList.map (configLine data)
    = report request d data
  empty : data = [] → r.chart.isLive = false ∧ r.store.files = files
  drawn : data ≠ [] → r.chart.isLive = true ∧ r.store.files = filesWith files request
    ((⟨request.outDir, d.locale⟩ : Svg.Settings).drawing (finalConfig request d data)).toByteArray

/-- Mounting and toggling go through. -/
theorem exists_ended (d : Dashboard) {data : Dataset} (notices : List Notice)
    (hvalid : Svg.isValidContainer request.container = true)
    (hclear : data ≠ [] → Drawable files request) :
    ∃ c s drawn exhausted r,
      (d.mounting data request.container).mount (Svg.backend ⟨request.outDir, d.locale⟩) { files }
        = (.ok c, s, drawn) ∧
      toggleTimes (Svg.backend ⟨request.outDir, d.locale⟩) request.toggles
        ⟨c, s, notices ++ drawn⟩ = (.ok exhausted, r) ∧
      Ended files request d data exhausted r := by
  obtain ⟨S, hfree, hsound, hstill, hshown⟩ := exists_stage d.locale hvalid hclear
  obtain ⟨c, s, drawn, hmount, hmounted⟩ :=
    Mounting.settled_mount (m := d.mounting data request.container) hsound hfree rfl
  obtain ⟨exhausted, r, toggles, htoggles, hexhausted, hend, hodd⟩ :=
    toggleTimes_of_settled (r := ⟨c, s, notices ++ drawn⟩) hsound hmounted request.toggles
  have hmode := hend.mode.trans hodd
  have hconfig : r.chart.config = finalConfig request d data := by
    rw [hend.fits.config, hend.fits.view, finalMode_eq hmode]
    rfl
  refine ⟨c, s, drawn, exhausted, r, hmount, htoggles, hmode, hconfig,
    report_eq hexhausted hend (finalMode_eq hmode) fun handle hheld => ?_, fun hnil => ?_,
    fun hne => ?_⟩
  · by_cases hnil : data = []
    · cases hheld.symm.trans (hend.empty hnil).1
    · obtain ⟨other, hother, hshows⟩ := hend.drawn hnil
      cases hheld.symm.trans hother
      exact (hshown _ _ _ hshows).1
  · obtain ⟨hnone, hfree⟩ := hend.empty hnil
    exact ⟨by rw [ToggleChart.isLive, hnone]; rfl, hstill hnil _ hfree⟩
  · obtain ⟨handle, hheld, hshows⟩ := hend.drawn hne
    rw [hconfig] at hshows
    exact ⟨by rw [ToggleChart.isLive, hheld]; rfl, (hshown _ _ _ hshows).2⟩

theorem render_of_mount_ok {dashboard d : Dashboard} {data : Dataset}
    {notices more drawn : List Notice} {c : ToggleChart Svg.Handle} {s : Svg.Store}
    (hconfig : loadDashboard files request.config = .ok (dashboard, notices))
    (hdata : Dataset.load files request.input = .ok (data, more))
    (hd : request.over dashboard = d)
    (hmount : (d.mounting data request.container).mount (Svg.backend ⟨request.outDir, d.locale⟩)
      { files } = (.ok c, s, drawn)) :
    render files request = finish request (Svg.backend ⟨request.outDir, d.locale⟩)
      ⟨c, s, notices ++ more ++ drawn⟩ := by
  rw [Mounting.mount, Dashboard.mounting] at hmount
  simp only [render, hconfig, hdata, hd, hmount]

/-- What a run comes to when the configuration can be written, if there is one
to write. -/
theorem finish_eq {B : Backend Svg.Store Svg.Handle} {r r' : Rendering}
    {exhausted : Bool} (htoggles : toggleTimes B request.toggles r = (.ok exhausted, r'))
    {line : String → String} {left : String → FileTree}
    (hemit : ∀ path, request.emitConfig = some path →
      emitConfig r'.chart r'.store.files path = .ok (line path, left path)) :
    finish request B r = succeeded ""
      ((if exhausted then ["Nothing to toggle: every entry is already shown"] else [])
        ++ finalLines r'.chart ++ request.emitConfig.toList.map line)
      (request.emitConfig.elim r'.store.files left) r'.notices := by
  rw [finish, htoggles]
  dsimp only
  cases hpath : request.emitConfig with
  | none =>
      dsimp only
      rw [Option.toList_none, List.map_nil, List.append_nil]
      rfl
  | some path =>
      dsimp only
      rw [hemit path hpath]
      rfl

/-- What could be mounted could be drawn. -/
theorem drawable_of_mount_ok {d : Dashboard} {data : Dataset} {drawn : List Notice}
    {c : ToggleChart Svg.Handle} {s : Svg.Store}
    (hvalid : Svg.isValidContainer request.container = true) (hne : data ≠ [])
    (hmount : (d.mounting data request.container).mount (Svg.backend ⟨request.outDir, d.locale⟩)
      { files } = (.ok c, s, drawn)) : Drawable files request := by
  obtain ⟨handle, s', hgenerate⟩ : ∃ handle s', Svg.Store.generate ⟨request.outDir, d.locale⟩
      ((d.mounting data request.container).blank : ToggleChart Svg.Handle).config { files }
        = (.ok handle, s') := by
    rcases Mounting.mount_cases (Svg.backend ⟨request.outDir, d.locale⟩)
        (d.mounting data request.container) { files } with ⟨hnil, -⟩ | ⟨-, c', s', n, hdraw, -⟩ |
      ⟨-, e, s', n, -, heq⟩
    · exact absurd hnil hne
    · rcases ToggleChart.draw_cases (Svg.backend ⟨request.outDir, d.locale⟩)
          ((d.mounting data request.container).blank : ToggleChart Svg.Handle) { files } with
        ⟨handle, s₁, n₁, hg, -⟩ | ⟨e, s₁, n₁, -, heq⟩
      · exact ⟨handle, s₁, hg⟩
      · cases hdraw.symm.trans heq
    · cases hmount.symm.trans heq
  obtain ⟨-, -, made, hmade, hroom⟩ := Svg.Store.generate_ok hgenerate
  have hchart := (Svg.hasRoom_iff hvalid (hasDirectory_of_createDirectories hmade)).mp hroom
  have hcreate : files.createDirectories request.outDir = (.ok (), made) := hmade
  constructor
  · rw [hcreate]
  · rw [hcreate]
    exact hchart

/-- A run that goes through had nothing in its way. -/
theorem unobstructed_of_exitCode_eq_zero {args : List String} {dashboard : Dashboard}
    {data : Dataset} {notices more : List Notice}
    (hargs : invocation args = .command (.render request))
    (hconfig : loadDashboard files request.config = .ok (dashboard, notices))
    (hdata : Dataset.load files request.input = .ok (data, more))
    (hvalid : Svg.isValidContainer request.container = true) (hne : data ≠ [])
    (h : (run files args).exitCode = 0) : Unobstructed files request := by
  obtain ⟨d, hd⟩ : ∃ d, request.over dashboard = d := ⟨_, rfl⟩
  rw [run, hargs] at h
  dsimp only at h
  have hclear : Drawable files request := by
    rcases hmount : (d.mounting data request.container).mount
        (Svg.backend ⟨request.outDir, d.locale⟩) { files } with ⟨e | c, s, drawn⟩
    · rw [Mounting.mount, Dashboard.mounting] at hmount
      simp only [render, hconfig, hdata, hd, hmount] at h
      cases h
    · exact drawable_of_mount_ok hvalid hne hmount
  refine ⟨hclear, fun path hpath => ?_⟩
  obtain ⟨c, s, drawn, exhausted, r, hmount, htoggles, hend⟩ :=
    exists_ended d (notices ++ more) hvalid fun _ => hclear
  obtain ⟨hlive, hleft⟩ := hend.drawn hne
  rw [render_of_mount_ok hconfig hdata hd hmount, finish, htoggles] at h
  dsimp only at h
  rw [hpath] at h
  dsimp only at h
  cases hemit : emitConfig r.chart r.store.files path with
  | error failure =>
      rw [hemit] at h
      cases h
  | ok told =>
      rw [emitConfig, hlive, hleft] at hemit
      rw [Bool.not_true, if_neg Bool.false_ne_true] at hemit
      split at hemit
      · cases hemit
      · next tree hwrite => exact (hclear.canWrite_filesWith_iff _).mp (.of_write hwrite)

/-- A run ends in the right state, for any number of toggles. If the dataset
and the configuration can be loaded, the container is valid and nothing is in
the way of the files, then the chart that is left is in the mode that the
number of toggles says, its file and its configuration are those of the view
in that mode, and what is told about it is true. With an empty dataset
nothing is written. Only a configuration that is asked for in the place of
the chart replaces it. -/
theorem rendered_after_any_toggles (files : FileTree) (args : List String)
    (request : RenderRequest) (dashboard : Dashboard) (data : Dataset)
    (notices more : List Notice) (hargs : invocation args = .command (.render request))
    (hconfig : loadDashboard files request.config = .ok (dashboard, notices))
    (hdata : Dataset.load files request.input = .ok (data, more))
    (hvalid : Svg.isValidContainer request.container = true)
    (hclear : data ≠ [] → Unobstructed files request) :
    Rendered files request (request.over dashboard) data (run files args) := by
  obtain ⟨d, hd⟩ : ∃ d, request.over dashboard = d := ⟨_, rfl⟩
  obtain ⟨c, s, drawn, exhausted, r, hmount, htoggles, hend⟩ := exists_ended d (notices ++ more)
    hvalid fun hne => (hclear hne).toDrawable
  have hmode := hend.mode
  rw [run, hargs, hd]
  dsimp only
  rw [render_of_mount_ok hconfig hdata hd hmount]
  by_cases hnil : data = []
  · obtain ⟨hlive, hleft⟩ := hend.empty hnil
    have hemit : ∀ path, request.emitConfig = some path →
        emitConfig r.chart r.store.files path = .ok (configLine data path, files) := by
      intro path _
      rw [emitConfig, hlive, configLine, if_pos hnil, hleft]
      rfl
    rw [finish_eq htoggles hemit, hend.report]
    refine ⟨rfl, rfl, ⟨c, s, drawn, _, exhausted, r, hmount, htoggles, hmode⟩, fun _ => ?_,
      absurd hnil, absurd hnil⟩
    cases request.emitConfig with
    | none => exact hleft
    | some path => rfl
  · obtain ⟨hlive, hleft⟩ := hend.drawn hnil
    have hclear := hclear hnil
    have hemit : ∀ path, request.emitConfig = some path →
        emitConfig r.chart r.store.files path = .ok (configLine data path,
          r.store.files.put (files.placeOf path)
            (.file (finalConfig request d data).saved.toByteArray)) := by
      intro path hpath
      rw [emitConfig, hlive, configLine, if_neg hnil, hleft, hend.config, writeText,
        (hclear.canWrite_config hpath _).write_eq, placeOf_filesWith]
      rfl
    rw [finish_eq htoggles hemit, hend.report, hleft]
    refine ⟨rfl, rfl, ⟨c, s, drawn, _, exhausted, r, hmount, htoggles, hmode⟩,
      fun h => absurd h hnil, fun _ hbeside => ?_, fun _ path hpath => ?_⟩
    · cases hpath : request.emitConfig with
      | none => exact hclear.read_chart _
      | some path => exact hclear.read_chart_beside hpath (hbeside path hpath) _ _
    · rw [hpath]
      exact hclear.read_config hpath _ _

/-- A directory with a dataset of one point. -/
def onePoint : FileTree :=
  FileTree.empty.put ["home", "work", "rows.csv"] (.file "label,value\na,1\n".toByteArray)

/-- At first the point is not shown. -/
def threeToggles : RenderRequest where
  input := "rows.csv"
  limit := some 0
  toggles := 3
  emitConfig := some "chart.json"

def threeTogglesArgs : List String :=
  ["render", "-i", "rows.csv", "-l0", "--toggles", "3", "--emit-config", "chart.json"]

theorem rendered_after_three_toggles :
    invocation threeTogglesArgs = .command (.render threeToggles) ∧
    (∃ more, Dataset.load onePoint "rows.csv"
      = .ok ([⟨"a", .ofInt 1⟩], more)) ∧
    Unobstructed onePoint threeToggles ∧
    Rendered onePoint threeToggles (threeToggles.over {}) [⟨"a", .ofInt 1⟩]
      (run onePoint threeTogglesArgs) ∧
    report threeToggles (threeToggles.over {}) [⟨"a", .ofInt 1⟩]
      = ["Wrote 1 bars (All) to ./chroots.svg", "Toggle: Show top 0",
        "Saved chart config to chart.json"] := by
  have hrows : (Dataset.load onePoint "rows.csv").toOption.map Prod.fst
      = some [⟨"a", .ofInt 1⟩] := by decide +kernel
  have hclear : Unobstructed onePoint threeToggles := by
    refine ⟨⟨rfl, .of_nothing (by decide +kernel) (by decide +kernel) (by decide +kernel)⟩, ?_⟩
    rintro path ⟨⟩
    exact .of_nothing (by decide +kernel) (by decide +kernel) (by decide +kernel)
  rcases hload : Dataset.load onePoint "rows.csv" with e | ⟨data, more⟩
  · rw [hload] at hrows
    cases hrows
  · rw [hload] at hrows
    cases hrows
    exact ⟨rfl, ⟨more, rfl⟩, hclear, rendered_after_any_toggles onePoint _ threeToggles {} _ [] more
      rfl rfl hload (by decide +kernel) fun _ => hclear, by decide +kernel⟩

/-- The configuration is asked for in the place of the chart. -/
def replacing : RenderRequest where
  input := "rows.csv"
  emitConfig := some "chroots.svg"

def replacingArgs : List String := ["render", "-i", "rows.csv", "--emit-config", "chroots.svg"]

/-- Nothing goes wrong then, and what is there in the end is not the chart. -/
theorem configuration_in_place_of_the_chart :
    invocation replacingArgs = .command (.render replacing) ∧
    (Dataset.load onePoint replacing.input).toOption.map Prod.fst = some [⟨"a", .ofInt 1⟩] ∧
    (run onePoint replacingArgs).exitCode = 0 ∧
    (run onePoint replacingArgs).files.read replacing.chartPath
      ≠ .ok ((⟨replacing.outDir, "en"⟩ : Svg.Settings).drawing
          (finalConfig replacing {} [⟨"a", .ofInt 1⟩])).toByteArray :=
  ⟨rfl, by decide +kernel, by decide +kernel, by decide +kernel⟩

end RankedBars.CommandLine
