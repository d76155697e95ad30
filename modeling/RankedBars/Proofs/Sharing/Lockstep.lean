import RankedBars.Proofs.Sharing.Retained
import RankedBars.Proofs.Sharing.Svg

/-!
# Two backends in lockstep

Charts in memory and charts in files are asked for and destroyed in the same
way, and as long as the files do their part one expects the same answers. The
two tell charts apart by different things, though: in memory a handle owns a
number, in files it owns a name, which the next chart in its container has
too. So they come apart when a handle is destroyed late, that is, when its
chart is gone and another one has its container. In memory nothing happens
then, and in files the other chart goes.

`Coupled` is what the two have in common while nothing is late. Any call that
is not late keeps it and is answered by both in the same way, and one that is
leaves them with different containers, so being in step and never being late
are the same.
-/

namespace RankedBars

variable {σ : Type u} {η : Type v}

namespace Scene

/-- What a direct call is answered with. -/
def answer (B : Backend σ η) (p : Scene σ η) : Step → Except RenderError Unit
  | .generate config => (B.generate config p.state).1.map fun _ => ()
  | .destroy index =>
      match p.handles[index]? with
      | none => .ok ()
      | some handle => (B.destroy handle p.state).1
  | _ => .ok ()

/-- A direct call, with a container that can be part of a file name. -/
def Step.isPlainCall : Step → Bool
  | .generate config => Svg.isValidContainer config.container
  | .destroy _ => true
  | _ => false

end Scene

/-- Whether the handle's container holds a chart of another handle. -/
def Retained.Store.isTaken (s : Retained.Store) (handle : Retained.Handle) : Bool :=
  (s.slot? handle.container).any fun slot => slot.instanceNumber ≠ handle.instanceNumber

namespace Lockstep

open Scene

/-- Charts in files, and charts in memory, with the handles given out. -/
abbrev InFiles := Scene Svg.Store Svg.Handle

abbrev InMemory := Scene Retained.Store Retained.Handle

/-- Whether a call destroys a handle late. -/
def destroysLate (q : InMemory) : Step → Bool
  | .destroy index => q.handles[index]?.any q.state.isTaken
  | _ => false

def neverLate (q : InMemory) : List Step → Bool
  | [] => true
  | st :: rest => !destroysLate q st && neverLate (q.step Retained.backend st) rest

/-- Whether an answer does not come from an operation on files that failed. -/
def isServed : Except RenderError Unit → Bool
  | .ok () => true
  | .error e => !e.isOfFiles

/-- Whether no operation on files fails in the course of some calls. -/
def filesWork (settings : Svg.Settings) (p : InFiles) : List Step → Bool
  | [] => true
  | st :: rest =>
      isServed (p.answer (Svg.backend settings) st) &&
        filesWork settings (p.step (Svg.backend settings) st) rest

/-- The same containers are live. -/
def SameLive (p : InFiles) (q : InMemory) : Prop :=
  ∀ container, p.state.isLive container = (q.state.chart? container).isSome

/-- Every call is answered in the same way, and the same containers are live
before and after each. -/
def InStep (settings : Svg.Settings) (p : InFiles) (q : InMemory) : List Step → Prop
  | [] => SameLive p q
  | st :: rest =>
      SameLive p q ∧
      p.answer (Svg.backend settings) st = q.answer Retained.backend st ∧
      InStep settings (p.step (Svg.backend settings) st) (q.step Retained.backend st) rest

variable {settings : Svg.Settings} {p : InFiles} {q : InMemory}

theorem InStep.sameLive {steps : List Step} (h : InStep settings p q steps) :
    SameLive p q := by
  cases steps with
  | nil => exact h
  | cons st rest => exact h.1

/-- The same containers are live, each once, and the handles are for the same
containers. -/
structure Coupled (p : InFiles) (q : InMemory) : Prop where
  live : p.state.live = q.state.live.map (·.container)
  handles : p.handles.map (·.container) = q.handles.map (·.container)
  single : (q.state.live.map (·.container)).Nodup

namespace Coupled

theorem init (files : FileTree) : Coupled { state := { files } } { state := {} } :=
  ⟨rfl, rfl, .nil⟩

theorem sameLive (h : Coupled p q) : SameLive p q := by
  intro container
  rw [Svg.Store.isLive, h.live, Retained.Store.chart?, Option.isSome_map,
    Retained.Store.slot?, Bool.eq_iff_iff, List.contains_iff_mem, List.mem_map,
    List.find?_isSome]
  simp only [decide_eq_true_eq]

theorem generate (h : Coupled p q) {config : ChartConfig}
    (hvalid : Svg.isValidContainer config.container = true)
    (hserved : isServed (p.answer (Svg.backend settings) (.generate config)) = true) :
    p.answer (Svg.backend settings) (.generate config)
        = q.answer Retained.backend (.generate config) ∧
      Coupled (p.step (Svg.backend settings) (.generate config))
        (q.step Retained.backend (.generate config)) := by
  have hsame := h.sameLive config.container
  rw [answer] at hserved
  rcases Retained.Store.generate_cases q.state config with ⟨⟨slot, hslot⟩, hq⟩ | ⟨hfree, hq⟩
  · rw [Retained.Store.chart?, hslot] at hsame
    rcases Svg.Store.generate_cases settings config p.state with ⟨hbad, -⟩ |
      ⟨-, -, hp⟩ | ⟨-, hidle, -⟩ | ⟨-, hidle, -⟩
    · cases hvalid.symm.trans hbad
    · simp only [answer, step, Svg.backend, Retained.backend, hp, hq]
      exact ⟨rfl, h⟩
    · cases hsame.symm.trans hidle
    · cases hsame.symm.trans hidle
  · rw [Retained.Store.chart?, hfree] at hsame
    rcases Svg.Store.generate_cases settings config p.state with ⟨hbad, -⟩ |
      ⟨-, hlive, -⟩ | ⟨-, -, e, files, hfiles, hp⟩ | ⟨-, -, files, hp⟩
    · cases hvalid.symm.trans hbad
    · cases hsame.symm.trans hlive
    · simp only [Svg.backend, hp, Except.map, isServed, hfiles, Bool.not_true] at hserved
      cases hserved
    · simp only [answer, step, Svg.backend, Retained.backend, hp, hq]
      refine ⟨rfl, ?_, ?_, ?_⟩
      · exact congrArg (config.container :: ·) h.live
      · simp only [gotHandle, List.map_append, h.handles]
        rfl
      · refine List.nodup_cons.mpr ⟨?_, h.single⟩
        rw [← h.live]
        simpa [Svg.Store.isLive] using hsame

theorem getElem?_handles (h : Coupled p q) (index : Nat) :
    p.handles[index]?.map (·.container) = q.handles[index]?.map (·.container) := by
  rw [← List.getElem?_map, h.handles, List.getElem?_map]

/-- A handle that is not late takes the slot in its container, if there is
one. -/
theorem keeps_slot_iff (h : Coupled p q) {handle : Retained.Handle}
    (hown : q.state.isTaken handle = false) {slot : Retained.Slot}
    (hmem : slot ∈ q.state.live) :
    (decide (slot.container ≠ handle.container)
      || decide (slot.instanceNumber ≠ handle.instanceNumber))
      = decide (slot.container ≠ handle.container) := by
  by_cases hcontainer : slot.container = handle.container
  · have hslot := (Retained.Store.slot?_eq_some_iff h.single).mpr ⟨hmem, hcontainer⟩
    rw [Retained.Store.isTaken, hslot, Option.any_some] at hown
    rw [hown, Bool.or_false]
  · rw [decide_eq_true hcontainer, Bool.true_or]

theorem destroy (h : Coupled p q) {index : Nat}
    (htime : destroysLate q (.destroy index) = false)
    (hserved : isServed (p.answer (Svg.backend settings) (.destroy index)) = true) :
    p.answer (Svg.backend settings) (.destroy index)
        = q.answer Retained.backend (.destroy index) ∧
      Coupled (p.step (Svg.backend settings) (.destroy index))
        (q.step Retained.backend (.destroy index)) := by
  have hget := h.getElem?_handles index
  rw [destroysLate] at htime
  rw [answer] at hserved
  cases hq : q.handles[index]? with
  | none =>
      rw [hq, Option.map_none, Option.map_eq_none_iff] at hget
      simp only [answer, step, hget, hq]
      exact ⟨trivial, h⟩
  | some handle =>
      rw [hq, Option.map_some, Option.map_eq_some_iff] at hget
      obtain ⟨named, hp, hcontainer⟩ := hget
      rw [hq, Option.any_some] at htime
      rw [hp] at hserved
      rcases Svg.Store.destroy_cases named p.state with ⟨files, hcall⟩ | ⟨e, hcall⟩
      · simp only [answer, step, hp, hq, Svg.backend, hcall]
        refine ⟨rfl, ?_, h.handles, h.single.sublist (List.filter_sublist.map _)⟩
        show p.state.live.filter (· ≠ named.container) = _
        rw [h.live, List.filter_map, hcontainer]
        refine congrArg (List.map _) (List.filter_congr fun slot hmem => ?_)
        exact (h.keeps_slot_iff htime hmem).symm
      · simp only [Svg.backend, hcall, isServed, RenderError.isOfFiles] at hserved
        cases hserved

/-- Calls that are not late are answered alike and change nothing about what
the two have in common. -/
theorem step (h : Coupled p q) {st : Step} (hplain : st.isPlainCall = true)
    (htime : destroysLate q st = false)
    (hserved : isServed (p.answer (Svg.backend settings) st) = true) :
    p.answer (Svg.backend settings) st = q.answer Retained.backend st ∧
      Coupled (p.step (Svg.backend settings) st) (q.step Retained.backend st) := by
  cases st with
  | generate config => exact h.generate hplain hserved
  | destroy index => exact h.destroy htime hserved
  | render | mount | request | unmount | drop => cases hplain

/-- A late destruction leaves the other chart in memory and takes it from the
files. -/
theorem not_sameLive_of_late (h : Coupled p q) {st : Step}
    (hlate : destroysLate q st = true) :
    ¬ SameLive (p.step (Svg.backend settings) st) (q.step Retained.backend st) := by
  cases st with
  | destroy index =>
      have hget := h.getElem?_handles index
      rw [destroysLate, Option.any_eq_true] at hlate
      obtain ⟨handle, hq, htaken⟩ := hlate
      rw [Retained.Store.isTaken, Option.any_eq_true] at htaken
      obtain ⟨slot, hslot, hnumber⟩ := htaken
      rw [hq, Option.map_some, Option.map_eq_some_iff] at hget
      obtain ⟨named, hp, hcontainer⟩ := hget
      intro hsame
      have hgone : ((p.step (Svg.backend settings) (.destroy index)).state.isLive
          handle.container) = false := by
        simp only [Scene.step, hp, Svg.backend]
        rw [Svg.Store.isLive_destroy, hcontainer, decide_eq_false (not_not.mpr rfl),
          Bool.and_false]
      have hstays : ((q.step Retained.backend (.destroy index)).state.chart?
          handle.container).isSome = true := by
        have hmem := List.mem_of_find?_eq_some hslot
        have hown := Retained.Store.container_of_slot?_eq_some hslot
        simp only [Scene.step, hq, Retained.backend, Retained.Store.destroy,
          Retained.Store.chart?, Option.isSome_map, Retained.Store.slot?, List.find?_isSome]
        refine ⟨slot, List.mem_filter.mpr ⟨hmem, ?_⟩, decide_eq_true hown⟩
        rw [hnumber, Bool.or_true]
      rw [hsame, hstays] at hgone
      cases hgone
  | generate | render | mount | request | unmount | drop => cases hlate

end Coupled

/-- From a coupled state on, the two stay in step exactly if nothing is late. -/
theorem inStep_iff_of_coupled (h : Coupled p q) {steps : List Step}
    (hplain : ∀ st ∈ steps, st.isPlainCall = true)
    (hfiles : filesWork settings p steps = true) :
    InStep settings p q steps ↔ neverLate q steps = true := by
  induction steps generalizing p q with
  | nil => exact iff_of_true h.sameLive rfl
  | cons st rest ih =>
      rw [filesWork, Bool.and_eq_true] at hfiles
      rw [InStep, neverLate, Bool.and_eq_true, Bool.not_eq_true']
      cases htime : destroysLate q st with
      | true =>
          refine iff_of_false (fun hstep => ?_) (fun hnever => nomatch hnever.1)
          exact h.not_sameLive_of_late htime hstep.2.2.sameLive
      | false =>
          obtain ⟨hanswer, hnext⟩ := h.step (hplain st (List.mem_cons_self ..)) htime hfiles.1
          rw [and_iff_right h.sameLive, and_iff_right hanswer, and_iff_right rfl]
          exact ih hnext (fun st hst => hplain st (List.mem_cons_of_mem _ hst)) hfiles.2

/-- Charts in files and charts in memory follow one protocol, as far as no
handle is destroyed late. If the files do their part, then over all calls on
valid containers the two answer alike and have the same containers live at
every moment if and only if no call destroys a handle whose chart is gone
and whose container holds another chart. -/
theorem in_step_iff_never_late (settings : Svg.Settings) (files : FileTree)
    (steps : List Step) (hplain : ∀ st ∈ steps, st.isPlainCall = true)
    (hfiles : filesWork settings { state := { files } } steps = true) :
    InStep settings { state := { files } } { state := {} } steps ↔
      neverLate { state := {} } steps = true :=
  inStep_iff_of_coupled (.init files) hplain hfiles

/-- A chart without bars. -/
def noBars : ChartConfig := ({} : Renderer).config [] "chroots" none

/-- A handle is destroyed twice while its container is empty, after somebody
else was refused there. -/
def repeatedDestroy : List Step :=
  [.generate noBars, .generate noBars, .destroy 0, .destroy 0, .generate noBars]

theorem in_step_over_repeated_destroy :
    filesWork {} { state := {} } repeatedDestroy = true ∧
    neverLate { state := {} } repeatedDestroy = true ∧
    InStep {} { state := {} } { state := {} } repeatedDestroy := by
  have hplain : ∀ st ∈ repeatedDestroy, st.isPlainCall = true := by decide +kernel
  have hfiles : filesWork {} { state := {} } repeatedDestroy = true := by decide +kernel
  have hnever : neverLate { state := {} } repeatedDestroy = true := by decide +kernel
  exact ⟨hfiles, hnever,
    (in_step_iff_never_late {} .empty repeatedDestroy hplain hfiles).mpr hnever⟩

/-- A handle is destroyed, and once more after its container was given to
another chart. -/
def lateDestroy : List Step :=
  [.generate noBars, .destroy 0, .generate noBars, .destroy 0]

/-- The old handle takes the chart of the new one from the files. In memory
that chart stays. -/
theorem late_destroy_takes_another_chart :
    (∀ st ∈ lateDestroy, st.isPlainCall = true) ∧
    filesWork {} { state := {} } lateDestroy = true ∧
    (run (Svg.backend {}) { state := {} } lateDestroy).handles.length = 2 ∧
    (run (Svg.backend {}) { state := {} } lateDestroy).state.isLive "chroots" = false ∧
    (run Retained.backend { state := {} } lateDestroy).state.chart? "chroots" = some noBars ∧
    ¬ InStep {} { state := {} } { state := {} } lateDestroy := by
  have hplain : ∀ st ∈ lateDestroy, st.isPlainCall = true := by decide +kernel
  have hfiles : filesWork {} { state := {} } lateDestroy = true := by decide +kernel
  refine ⟨hplain, hfiles, by decide +kernel, by decide +kernel, by decide +kernel, ?_⟩
  rw [inStep_iff_of_coupled (.init .empty) hplain hfiles]
  decide +kernel

end Lockstep

end RankedBars
