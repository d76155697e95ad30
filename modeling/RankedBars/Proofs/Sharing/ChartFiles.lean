import RankedBars.Proofs.Backend.ChartFile
import RankedBars.Proofs.Sharing.Lockstep

/-!
# The files of the live charts

Which charts are live is written down twice, in the list of containers and in
the directory, and the two are not brought up to date in the same order: a
chart that comes gets its file first and is entered in the list then, a chart
that goes leaves the list first. What keeps them equal is that a container
and the name of its file determine each other, so that whatever is done for a
container concerns one entry of the list and one file, and no other.

`Kept` is that equality together with what destroying needs, which is that a
handle leads where its chart was drawn, however old it is.
-/

namespace RankedBars.Svg

open FileTree Scene Lockstep

/-- A direct call, with whatever container. -/
def isDirect : Step → Bool
  | .generate _ | .destroy _ => true
  | .render .. | .mount .. | .request .. | .unmount _ | .drop _ => false

/-- The directory holds one file for each live container and no other, every
file has the place that only its container names, and who is refused leaves
everything as it was. -/
structure Orderly (settings : Settings) (s : Store) : Prop where
  files : ((s.files.filesIn settings.directory).map (·.1)).Perm
    (s.live.map fun container => [container ++ ".svg"])
  single : s.live.Nodup
  directly : ∀ container, IsPlainName container →
    s.files.placeOf (settings.pathFor container)
      = s.files.placeOf settings.directory ++ [container ++ ".svg"]
  apart : ∀ one two, IsPlainName one → IsPlainName two →
    s.files.placeOf (settings.pathFor one) = s.files.placeOf (settings.pathFor two) → one = two
  invalid : ∀ config, (Store.generate settings config s).1
    = .error (.invalidContainer config.container) ↔ ¬ IsPlainName config.container
  busy : ∀ config, (Store.generate settings config s).1
    = .error (.containerBusy config.container) ↔
      IsPlainName config.container ∧ config.container ∈ s.live
  refused : ∀ config container,
    (Store.generate settings config s).1 = .error (.invalidContainer container) ∨
      (Store.generate settings config s).1 = .error (.containerBusy container) →
    (Store.generate settings config s).2 = s

variable {settings : Settings} {p : InFiles} {s : Store}

/-! ## What the answers say -/

theorem generate_eq_invalid_iff {config : ChartConfig} :
    (Store.generate settings config s).1 = .error (.invalidContainer config.container) ↔
      ¬ IsPlainName config.container := by
  rw [← isValidContainer_iff, Bool.not_eq_true]
  rcases Store.generate_cases settings config s with ⟨hvalid, heq⟩ | ⟨hvalid, -, heq⟩ |
    ⟨hvalid, -, e, files, hfiles, heq⟩ | ⟨hvalid, -, files, heq⟩
  · simp [heq, hvalid]
  · simp [heq, hvalid]
  · simp only [heq, hvalid]
    refine iff_of_false (fun h => ?_) (by decide)
    cases h
    cases hfiles
  · simp [heq, hvalid]

theorem generate_eq_busy_iff {config : ChartConfig} :
    (Store.generate settings config s).1 = .error (.containerBusy config.container) ↔
      IsPlainName config.container ∧ config.container ∈ s.live := by
  rw [← isValidContainer_iff, ← List.contains_iff_mem, ← Store.isLive]
  rcases Store.generate_cases settings config s with ⟨hvalid, heq⟩ | ⟨hvalid, hlive, heq⟩ |
    ⟨-, hidle, e, files, hfiles, heq⟩ | ⟨-, hidle, files, heq⟩
  · simp [heq, hvalid]
  · simp [heq, hvalid, hlive]
  · simp only [heq, hidle]
    refine iff_of_false (fun h => ?_) (by simp)
    cases h
    cases hfiles
  · simp [heq, hidle]

theorem generate_of_refused {config : ChartConfig} {container : String}
    (h : (Store.generate settings config s).1 = .error (.invalidContainer container) ∨
      (Store.generate settings config s).1 = .error (.containerBusy container)) :
    (Store.generate settings config s).2 = s := by
  rcases Store.generate_cases settings config s with ⟨-, heq⟩ | ⟨-, -, heq⟩ |
    ⟨-, -, e, files, hfiles, heq⟩ | ⟨-, -, files, heq⟩
  · rw [heq]
  · rw [heq]
  · rw [heq] at h
    rcases h with h | h
    · cases h
      cases hfiles
    · cases h
      cases hfiles
  · rw [heq] at h
    rcases h with h | h
    · cases h
    · cases h

theorem placeFor_inj {tree : FileTree} {one two : String} :
    settings.placeFor tree one = settings.placeFor tree two ↔ one = two := by
  rw [Settings.placeFor, Settings.placeFor, List.append_cancel_left_eq, List.singleton_inj,
    fileName_inj]

/-! ## The two records -/

/-- The names of the files below the directory are those of the containers on
the list. -/
def SameCharts (settings : Settings) (s : Store) : Prop :=
  ((s.files.filesBelow (s.files.placeOf settings.directory)).map (·.1)).Perm
    (s.live.map fun container => [fileName container])

namespace SameCharts

/-- A file whose container is not on the list is not there. -/
theorem ne_of_not_live (h : SameCharts settings s) {container : String}
    (hidle : container ∉ s.live) {file : Location × ByteArray}
    (hmem : file ∈ s.files.filesBelow (s.files.placeOf settings.directory)) :
    file.1 ≠ [fileName container] := by
  intro hname
  obtain ⟨live, hlive, heq⟩ := List.mem_map.mp (h.mem_iff.mp (List.mem_map_of_mem hmem))
  rw [hname, List.singleton_inj, fileName_inj] at heq
  exact hidle (heq ▸ hlive)

theorem put (h : SameCharts settings s) {made : FileTree} (hmade : Extends s.files made)
    {container : String} (hidle : container ∉ s.live) (content : ByteArray) :
    SameCharts settings
      ⟨container :: s.live, made.put (settings.placeFor made container) (.file content)⟩ := by
  have hothers : (made.filesBelow (made.placeOf settings.directory)).filter
      (fun file => file.1 ≠ [fileName container])
        = s.files.filesBelow (s.files.placeOf settings.directory) := by
    rw [hmade.filesBelow, placeOf_congr hmade.workingDirectory, List.filter_eq_self]
    exact fun file hmem => decide_eq_true (h.ne_of_not_live hidle hmem)
  show ((filesBelow _ (made.placeOf settings.directory)).map _).Perm _
  rw [Settings.placeFor, filesBelow_put (List.cons_ne_nil _ _), hothers, List.map_append]
  exact (List.perm_append_singleton _ _).trans (List.Perm.cons _ h)

/-- Taking a container off the list and its file from among the files. -/
theorem filter (h : SameCharts settings s) (container : String) :
    (((s.files.filesBelow (s.files.placeOf settings.directory)).filter
        fun file => file.1 ≠ [fileName container]).map (·.1)).Perm
      ((s.live.filter (· ≠ container)).map fun live => [fileName live]) := by
  have hnames := List.Perm.filter (· ≠ [fileName container]) h
  rw [List.filter_map, List.filter_map] at hnames
  simpa [Function.comp_def, fileName_inj] using hnames

theorem erase (h : SameCharts settings s) (container : String) :
    SameCharts settings ⟨s.live.filter (· ≠ container),
      s.files.erase (settings.placeFor s.files container)⟩ := by
  show ((filesBelow _ (s.files.placeOf settings.directory)).map _).Perm _
  rw [Settings.placeFor, filesBelow_erase]
  exact h.filter container

/-- Where there is no file there is nothing to take away. -/
theorem absent (h : SameCharts settings s) {container : String}
    (hnone : s.files.node? (settings.placeFor s.files container) = none) :
    SameCharts settings { s with live := s.live.filter (· ≠ container) } := by
  have hfilter := h.filter container
  rwa [List.filter_eq_self.mpr fun file hmem =>
    decide_eq_true (ne_of_mem_filesBelow hnone hmem)] at hfilter

end SameCharts

/-- The two records are equal, and a handle leads to where its chart was
drawn. -/
structure Kept (settings : Settings) (p : InFiles) : Prop where
  same : SameCharts settings p.state
  single : p.state.live.Nodup
  /-- Nothing is live that was not generated, so nothing is live at first. -/
  given : p.handles = [] → p.state.live = []
  directory : p.handles ≠ [] → p.state.files.HasDirectory settings.directory
  handles : ∀ handle ∈ p.handles, isValidContainer handle.container = true ∧
    (fileName handle.container).utf8ByteSize ≤ longestName ∧
    handle.path = settings.pathFor handle.container

namespace Kept

theorem init {files : FileTree} (h : files.filesBelow (files.placeOf settings.directory) = []) :
    Kept settings { state := { files } } where
  same := by
    rw [SameCharts, h]
    exact .nil
  single := .nil
  given _ := rfl
  directory h := absurd rfl h
  handles := nofun

theorem generate (h : Kept settings p) {config : ChartConfig}
    (hserved : isServed (p.answer (backend settings) (.generate config)) = true) :
    Kept settings (p.step (backend settings) (.generate config)) := by
  have refused {e : RenderError}
      (hcall : Store.generate settings config p.state = (.error e, p.state)) :
      Kept settings (p.step (backend settings) (.generate config)) := by
    have hstep : p.step (backend settings) (.generate config) = p := by
      simp only [step, backend, hcall]
      rfl
    rw [hstep]
    exact h
  rcases Store.generate_cases settings config p.state with ⟨-, hcall⟩ | ⟨-, -, hcall⟩ |
    ⟨-, -, e, files, hfiles, hcall⟩ | ⟨hvalid, hidle, files, hcall⟩
  · exact refused hcall
  · exact refused hcall
  · simp only [answer, backend, hcall, Except.map, isServed, hfiles, Bool.not_true] at hserved
    cases hserved
  · obtain ⟨-, -, made, hmade, hroom⟩ := Store.generate_ok hcall
    have hextends := createDirectories_extends p.state.files settings.directory
    rw [hmade] at hextends
    have hcall := Store.generate_of_hasRoom hvalid hidle hmade hroom
    have hnew : config.container ∉ p.state.live := by simpa [Store.isLive] using hidle
    simp only [step, backend, hcall]
    constructor
    case same => exact h.same.put hextends hnew _
    case single => exact List.nodup_cons.mpr ⟨hnew, h.single⟩
    case given => exact fun hnone => absurd hnone (by simp [gotHandle])
    case directory => exact fun _ => (hroom.put _).directory
    case handles =>
      intro handle hmem
      rcases List.mem_append.mp hmem with hold | hlast
      · exact h.handles handle hold
      · cases List.mem_singleton.mp hlast
        exact ⟨hvalid, hroom.fits, rfl⟩

/-- Destroying a handle, however late, takes away what is in its container
now. -/
theorem destroy (h : Kept settings p) {index : Nat}
    (hserved : isServed (p.answer (backend settings) (.destroy index)) = true) :
    Kept settings (p.step (backend settings) (.destroy index)) := by
  cases hget : p.handles[index]? with
  | none =>
      have hstep : p.step (backend settings) (.destroy index) = p := by simp only [step, hget]
      rw [hstep]
      exact h
  | some handle =>
      have hmem := List.mem_of_getElem? hget
      have hsome : p.handles ≠ [] := List.ne_nil_of_mem hmem
      obtain ⟨container, path⟩ := handle
      obtain ⟨hvalid, hfits, hpath⟩ := h.handles _ hmem
      have hdirectory := h.directory hsome
      have hcall := Store.destroy_eq hvalid hdirectory hfits
      rw [← hpath] at hcall
      cases hnode : p.state.files.node? (settings.placeFor p.state.files container) with
      | none =>
          simp only [hnode] at hcall
          simp only [step, hget, backend, hcall]
          exact ⟨h.same.absent hnode, h.single.filter _, fun hnone => absurd hnone hsome,
            fun _ => hdirectory, h.handles⟩
      | some node =>
          cases node with
          | directory =>
              simp only [hnode] at hcall
              simp only [answer, hget, backend, hcall, isServed] at hserved
              cases hserved
          | file content =>
              simp only [hnode] at hcall
              simp only [step, hget, backend, hcall]
              exact ⟨h.same.erase container, h.single.filter _, fun hnone => absurd hnone hsome,
                fun _ => hdirectory.erase (by simp [hnode]), h.handles⟩

theorem step (h : Kept settings p) {st : Step} (hdirect : isDirect st = true)
    (hserved : isServed (p.answer (backend settings) st) = true) :
    Kept settings (p.step (backend settings) st) := by
  cases st with
  | generate config => exact h.generate hserved
  | destroy index => exact h.destroy hserved
  | render | mount | request | unmount | drop => cases hdirect

theorem run (h : Kept settings p) {steps : List Step}
    (hdirect : ∀ st ∈ steps, isDirect st = true)
    (hfiles : filesWork settings p steps = true) :
    Kept settings (p.run (backend settings) steps) := by
  induction steps generalizing p with
  | nil => exact h
  | cons st rest ih =>
      rw [filesWork, Bool.and_eq_true] at hfiles
      exact ih (h.step (hdirect st (List.mem_cons_self ..)) hfiles.1)
        (fun st hst => hdirect st (List.mem_cons_of_mem _ hst)) hfiles.2

theorem orderly (h : Kept settings p) : Orderly settings p.state where
  files := by
    rcases eq_or_ne p.handles [] with hnone | hsome
    · have hlive := h.given hnone
      have hsame := h.same
      rw [SameCharts, hlive, List.map_nil, List.perm_nil, List.map_eq_nil_iff] at hsame
      rw [filesIn_eq_nil hsame, hlive]
      exact .nil
    · rw [filesIn_of_hasDirectory (h.directory hsome)]
      exact h.same
  single := h.single
  directly container hplain := placeOf_pathFor (isValidContainer_iff.mpr hplain)
  apart one two hone htwo hplace := by
    rw [placeOf_pathFor (isValidContainer_iff.mpr hone),
      placeOf_pathFor (isValidContainer_iff.mpr htwo), placeFor_inj] at hplace
    exact hplace
  invalid _ := generate_eq_invalid_iff
  busy _ := generate_eq_busy_iff
  refused _ _ := generate_of_refused

end Kept

theorem filesWork_append {before rest : List Step}
    (h : filesWork settings p (before ++ rest) = true) : filesWork settings p before = true := by
  induction before generalizing p with
  | nil => rfl
  | cons st before ih =>
      rw [List.cons_append, filesWork, Bool.and_eq_true] at h
      rw [filesWork, Bool.and_eq_true]
      exact ⟨h.1, ih h.2⟩

/-- The files in the directory are those of the live charts, at every moment.
This holds for charts in any containers that come and go in any order, also
if a handle is destroyed again when its container has been given away, as
long as the directory had no files at first and the files do their part. -/
theorem files_are_the_live_charts (settings : Settings) (files : FileTree)
    (hempty : files.filesBelow (files.placeOf settings.directory) = []) (steps : List Step)
    (hdirect : ∀ st ∈ steps, isDirect st = true)
    (hfiles : filesWork settings { state := { files } } steps = true) :
    ∀ before, before <+: steps →
      Orderly settings (Scene.run (backend settings) { state := { files } } before).state := by
  rintro before ⟨rest, rfl⟩
  refine Kept.orderly ?_
  exact (Kept.init hempty).run (fun st hst => hdirect st (List.mem_append_left _ hst))
    (filesWork_append hfiles)

/-- Two containers, one of them given away and taken back by an old handle,
and somebody who would like to draw outside the directory. -/
def comings : List Step :=
  let chart (container : String) : ChartConfig := ({} : Renderer).config [] container none
  [.generate (chart "one"), .generate (chart "../one"), .generate (chart "two"),
    .generate (chart "one"), .destroy 0, .generate (chart "one"), .destroy 0]

theorem files_are_the_live_charts_over_comings :
    FileTree.empty.filesBelow (FileTree.empty.placeOf "charts") = [] ∧
    (∀ st ∈ comings, isDirect st = true) ∧
    filesWork {} { state := {} } comings = true ∧
    ((Scene.run (backend {}) { state := {} } comings).state.files.filesIn "charts").map (·.1)
      = [["two.svg"]] ∧
    Orderly {} (Scene.run (backend {}) { state := {} } comings).state := by
  have hempty : FileTree.empty.filesBelow (FileTree.empty.placeOf "charts") = [] := by
    decide +kernel
  have hdirect : ∀ st ∈ comings, isDirect st = true := by decide +kernel
  have hfiles : filesWork {} { state := {} } comings = true := by decide +kernel
  exact ⟨hempty, hdirect, hfiles, by decide +kernel,
    files_are_the_live_charts {} .empty hempty comings hdirect hfiles comings (List.prefix_refl _)⟩

end RankedBars.Svg
