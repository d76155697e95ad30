import RankedBars.Backend.Svg
import RankedBars.Proofs.Sharing.Scene

/-!
# Sharing the charts in files

With this backend a container is live or not, and nobody is remembered for
it: a handle names its container and the file, and destroying takes the
container out of the live ones before the file is removed. If the file then
stays, the chart was not destroyed, its owner keeps the handle, and yet the
container is free.

A removal fails because of what others do to the files, so the backend is
put among others here: `exposed` is the same backend over files to which
anything may happen before each call. What is live is then a matter of what
was called last. `Journal.holder?` reads it off the journal, and `Tracked`,
which no call breaks, says that it is right.
-/

namespace RankedBars

variable {η : Type v}

/-- Whether an operation on files failed. -/
def RenderError.isOfFiles : RenderError → Bool
  | .drawing _ | .io _ => true
  | .containerBusy _ | .invalidContainer _ => false

namespace BackendCall

/-- Whether a chart of a container was to be destroyed, with success or
without. -/
def triesToDestroyIn (container : String) : BackendCall η → Bool
  | .destroyed chart | .kept chart _ => chart.config.container = container
  | .generated _ | .refused .. => false

/-- The holder of a container after a call. -/
def passOn (container : String) (holder : Option (GeneratedChart η)) :
    BackendCall η → Option (GeneratedChart η)
  | .generated chart => if chart.config.container = container then some chart else holder
  | .refused .. => holder
  | .destroyed chart | .kept chart _ =>
      if chart.config.container = container then none else holder

end BackendCall

namespace Journal

/-- The chart that was generated into a container last, unless some chart was
to be destroyed there since. -/
def holder? (j : Journal η) (container : String) : Option (GeneratedChart η) :=
  j.foldl (BackendCall.passOn container) none

theorem holder?_concat (j : Journal η) (call : BackendCall η) (container : String) :
    holder? (j ++ [call]) container = call.passOn container (j.holder? container) := by
  rw [holder?, List.foldl_append]
  rfl

/-- A container stays held until some chart is to be destroyed there. -/
theorem isSome_passOn {call : BackendCall η} {container : String}
    {holder : Option (GeneratedChart η)} (hcall : call.triesToDestroyIn container = false)
    (hholder : holder.isSome) : (call.passOn container holder).isSome := by
  cases call with
  | generated chart =>
      rw [BackendCall.passOn]
      split
      · rfl
      · exact hholder
  | refused config cause => exact hholder
  | destroyed chart | kept chart cause =>
      rw [BackendCall.passOn, if_neg (of_decide_eq_false hcall)]
      exact hholder

theorem isSome_holder? {before since : Journal η} {chart : GeneratedChart η}
    (h : ∀ call ∈ since, call.triesToDestroyIn chart.config.container = false) :
    (holder? (before ++ .generated chart :: since) chart.config.container).isSome := by
  rw [holder?, List.foldl_append, List.foldl_cons, BackendCall.passOn, if_pos rfl]
  exact List.foldlRecOn (motive := (Option.isSome · = true)) since _ rfl
    fun _ hholder call hcall => isSome_passOn (h call hcall) hholder

end Journal

namespace Svg

open Scene

namespace Store

@[simp] theorem isLive_cons (container other : String) (live : List String)
    (files : FileTree) : (⟨container :: live, files⟩ : Store).isLive other
      = (decide (other = container) || (⟨live, files⟩ : Store).isLive other) := by
  rw [isLive, isLive, List.contains_cons]
  exact congrArg (· || _) (Bool.eq_iff_iff.mpr (by simp))

@[simp] theorem isLive_filter (container other : String) (live : List String)
    (files : FileTree) : (⟨live.filter (· ≠ container), files⟩ : Store).isLive other
      = ((⟨live, files⟩ : Store).isLive other && decide (other ≠ container)) := by
  rw [isLive, isLive, Bool.eq_iff_iff]
  simp

/-- Generating is refused for what the container is, or for what is live in
it, or because of the files, and otherwise makes the container live. -/
theorem generate_cases (settings : Settings) (config : ChartConfig) (s : Store) :
    (isValidContainer config.container = false ∧
      generate settings config s = (.error (.invalidContainer config.container), s)) ∨
    (isValidContainer config.container = true ∧ s.isLive config.container = true ∧
      generate settings config s = (.error (.containerBusy config.container), s)) ∨
    (isValidContainer config.container = true ∧ s.isLive config.container = false ∧
      ∃ e files, e.isOfFiles = true ∧
        generate settings config s = (.error e, { s with files })) ∨
    (isValidContainer config.container = true ∧ s.isLive config.container = false ∧
      ∃ files, generate settings config s
        = (.ok ⟨config.container, settings.pathFor config.container⟩,
          ⟨config.container :: s.live, files⟩)) := by
  cases hvalid : isValidContainer config.container with
  | false =>
      refine .inl ⟨rfl, ?_⟩
      simp only [generate, hvalid, Bool.not_false, if_true]
  | true =>
      right
      cases hlive : s.isLive config.container with
      | true =>
          refine .inl ⟨rfl, rfl, ?_⟩
          simp only [generate, hvalid, hlive, Bool.not_true, Bool.false_eq_true, if_false, if_true]
      | false =>
          right
          rcases hdirectory : s.files.createDirectories settings.directory with ⟨e | _, files⟩
          · refine .inl ⟨rfl, rfl, .io e, files, rfl, ?_⟩
            simp only [generate, hvalid, hlive, hdirectory, Bool.not_true, Bool.false_eq_true,
              if_false]
          · rcases hwrite : files.writeText (settings.pathFor config.container)
              (Chart.draw config (.ofTag settings.localeTag)).svg with e | written
            · refine .inl ⟨rfl, rfl, .drawing e.message, files, rfl, ?_⟩
              simp only [generate, hvalid, hlive, hdirectory, hwrite, Bool.not_true,
                Bool.false_eq_true, if_false]
            · refine .inr ⟨rfl, rfl, written, ?_⟩
              simp only [generate, hvalid, hlive, hdirectory, hwrite, Bool.not_true,
                Bool.false_eq_true, if_false]

/-- Only a live container is busy. -/
theorem isLive_of_busy {settings : Settings} {config : ChartConfig} {s : Store}
    {other : String} (h : (generate settings config s).1 = .error (.containerBusy other)) :
    s.isLive config.container = true := by
  rcases generate_cases settings config s with ⟨-, heq⟩ | ⟨-, hlive, -⟩ |
    ⟨-, -, e, files, hfiles, heq⟩ | ⟨-, -, files, heq⟩
  · rw [heq] at h
    cases h
  · exact hlive
  · rw [heq] at h
    cases h
    cases hfiles
  · rw [heq] at h
    cases h

/-- Destroying frees the container in any case. -/
theorem destroy_cases (handle : Handle) (s : Store) :
    (∃ files, destroy handle s
      = (.ok (), ⟨s.live.filter (· ≠ handle.container), files⟩)) ∨
    (∃ e, destroy handle s
      = (.error (.io e), ⟨s.live.filter (· ≠ handle.container), s.files⟩)) := by
  rcases hremove : s.files.removeFile handle.path with e | files
  · by_cases hgone : e = .notFound
    · subst hgone
      exact .inl ⟨s.files, by simp only [destroy, hremove]⟩
    · refine .inr ⟨e, ?_⟩
      rw [destroy, hremove]
      cases e with
      | notFound => exact absurd rfl hgone
      | _ => rfl
  · exact .inl ⟨files, by simp only [destroy, hremove]⟩

theorem isLive_destroy (handle : Handle) (s : Store) (container : String) :
    (destroy handle s).2.isLive container
      = (s.isLive container && decide (container ≠ handle.container)) := by
  rcases destroy_cases handle s with ⟨files, heq⟩ | ⟨e, heq⟩
  · rw [heq]
    exact isLive_filter ..
  · rw [heq]
    exact isLive_filter ..

end Store

/-! ## Files that others use -/

/-- A store of charts in files to which something may happen before each
call. -/
structure Exposed where
  store : Store
  /-- What happens to the files before the next call, before the one after
  it, and so on. -/
  meanwhile : Nat → FileTree → FileTree

namespace Exposed

/-- A store without charts. -/
def fresh (files : FileTree) (meanwhile : Nat → FileTree → FileTree) : Exposed :=
  ⟨{ files }, meanwhile⟩

/-- The store as the next call finds it. -/
def found (s : Exposed) : Store :=
  { s.store with files := s.meanwhile 0 s.store.files }

/-- The store as a call leaves it. -/
def left (s : Exposed) (store : Store) : Exposed :=
  ⟨store, fun n => s.meanwhile (n + 1)⟩

def isLive (s : Exposed) (container : String) : Bool := s.store.isLive container

end Exposed

/-- The backend among others who use its files. -/
def exposed (settings : Settings) : Backend Exposed Handle where
  generate config s :=
    let (result, store) := Store.generate settings config s.found
    (result, s.left store)
  destroy handle s :=
    let (result, store) := Store.destroy handle s.found
    (result, s.left store)
  container := Handle.container
  notices config handle := [.wrote config.barCount handle.path]

theorem Exposed.isLive_of_busy {settings : Settings} {config : ChartConfig} {s : Exposed}
    {other : String}
    (h : ((exposed settings).generate config s).1 = .error (.containerBusy other)) :
    s.isLive config.container = true := Store.isLive_of_busy (s := s.found) h

/-- What is live is what the journal says. -/
structure Tracked (s : Exposed × Journal Handle) : Prop where
  live : ∀ container, s.1.isLive container = (s.2.holder? container).isSome
  handles : ∀ chart ∈ s.2.generated, chart.handle.container = chart.config.container

namespace Tracked

variable {settings : Settings} {s : Exposed × Journal Handle}

theorem init (files : FileTree) (meanwhile : Nat → FileTree → FileTree) :
    Tracked (.fresh files meanwhile, []) := ⟨fun _ => rfl, nofun⟩

theorem generate (h : Tracked s) (config : ChartConfig) :
    Tracked ((exposed settings).recorded.generate config s).2 := by
  have refused {e : RenderError} {files : FileTree}
      (hcall : Store.generate settings config s.1.found = (.error e, { s.1.found with files })) :
      Tracked ((exposed settings).recorded.generate config s).2 := by
    have heq : ((exposed settings).recorded.generate config s).2
        = (s.1.left { s.1.found with files }, s.2 ++ [.refused config e]) := by
      simp only [Backend.recorded, exposed, hcall]
    rw [heq]
    constructor
    case live =>
      intro container
      rw [Journal.holder?_concat]
      exact h.live container
    case handles => simpa using h.handles
  rcases Store.generate_cases settings config s.1.found with ⟨-, hcall⟩ | ⟨-, -, hcall⟩ |
    ⟨-, -, e, files, -, hcall⟩ | ⟨-, -, files, hcall⟩
  · exact refused hcall
  · exact refused hcall
  · exact refused hcall
  · obtain ⟨chart, hchart⟩ : ∃ chart : GeneratedChart Handle, chart =
        ⟨s.2.generated.length + 1, config, config.container,
          settings.pathFor config.container⟩ := ⟨_, rfl⟩
    have heq : ((exposed settings).recorded.generate config s).2
        = (s.1.left ⟨config.container :: s.1.store.live, files⟩, s.2 ++ [.generated chart]) := by
      simp only [Backend.recorded, exposed, hcall, hchart]
      rfl
    rw [heq]
    constructor
    case live =>
      intro container
      have hlive := h.live container
      rw [Journal.holder?_concat, BackendCall.passOn, hchart, Exposed.isLive, Exposed.left,
        Store.isLive_cons]
      by_cases hown : config.container = container
      · rw [if_pos hown, decide_eq_true hown.symm, Bool.true_or]
        rfl
      · rw [if_neg hown, decide_eq_false (Ne.symm hown), Bool.false_or]
        exact hlive
    case handles =>
      intro other hother
      rw [Journal.generated_concat] at hother
      rcases List.mem_append.mp hother with hold | hnew
      · exact h.handles other hold
      · cases List.mem_singleton.mp hnew
        rw [hchart]

theorem destroy (h : Tracked s) {chart : GeneratedChart Handle}
    (hmem : chart ∈ s.2.generated) :
    Tracked ((exposed settings).recorded.destroy chart s).2 := by
  obtain ⟨files, call, hcall, heq⟩ : ∃ files call,
      (call = .destroyed chart ∨ ∃ cause, call = .kept chart cause) ∧
      ((exposed settings).recorded.destroy chart s).2
        = (s.1.left ⟨s.1.store.live.filter (· ≠ chart.handle.container), files⟩,
          s.2 ++ [call]) := by
    rcases Store.destroy_cases chart.handle s.1.found with ⟨files, hcall⟩ | ⟨e, hcall⟩
    · refine ⟨files, .destroyed chart, .inl rfl, ?_⟩
      simp only [Backend.recorded, exposed, hcall]
      rfl
    · refine ⟨s.1.found.files, .kept chart (.io e), .inr ⟨_, rfl⟩, ?_⟩
      simp only [Backend.recorded, exposed, hcall]
      rfl
  rw [heq]
  constructor
  case live =>
    intro container
    have hlive := h.live container
    have hpass : call.passOn container (s.2.holder? container)
        = if chart.config.container = container then none else s.2.holder? container := by
      rcases hcall with rfl | ⟨cause, rfl⟩
      · rfl
      · rfl
    rw [Journal.holder?_concat, hpass, ← h.handles chart hmem, Exposed.isLive, Exposed.left,
      Store.isLive_filter]
    by_cases hown : chart.handle.container = container
    · rw [if_pos hown, decide_eq_false (not_not.mpr hown.symm), Bool.and_false]
      rfl
    · rw [if_neg hown, decide_eq_true (Ne.symm hown), Bool.and_true]
      exact hlive
  case handles =>
    rw [Journal.generated_concat]
    rcases hcall with rfl | ⟨cause, rfl⟩
    · simpa using h.handles
    · simpa using h.handles

theorem stable (settings : Settings) : Scene.Stable (exposed settings) Tracked where
  generate config _ _ h := h.generate config
  destroy _ _ _ h hmem := h.destroy hmem

end Tracked

/-! ## What is read off the journal -/

/-- A store of which the last call that concerned a container decides whether
it is live. -/
structure Decided (settings : Settings) (s : Exposed) (j : Journal Handle) : Prop where
  /-- A container is live if a chart was generated into it and no chart was to
  be destroyed there since, whether that succeeded or not. -/
  live : ∀ container, s.isLive container = (j.holder? container).isSome
  /-- A chart that cannot be destroyed loses its container and keeps its file.
  Whoever asks for a chart there next is not told that it is busy. -/
  failed : ∀ chart ∈ j.generated, ∀ e s',
    (exposed settings).destroy chart.handle s = (.error e, s') →
      (∀ container, s'.isLive container
        = (s.isLive container && decide (container ≠ chart.config.container))) ∧
      s'.store.files = s.found.files ∧
      ∀ config other, config.container = chart.config.container →
        ((exposed settings).generate config s').1 ≠ .error (.containerBusy other)

theorem Tracked.decided {settings : Settings} {s : Exposed × Journal Handle}
    (h : Tracked s) : Decided settings s.1 s.2 where
  live := h.live
  failed chart hmem e s' hcall := by
    have hlive (container : String) :
        (((exposed settings).destroy chart.handle s.1).2).isLive container
          = (s.1.isLive container && decide (container ≠ chart.config.container)) := by
      rw [← h.handles chart hmem]
      exact Store.isLive_destroy chart.handle s.1.found container
    rw [hcall] at hlive
    rcases Store.destroy_cases chart.handle s.1.found with ⟨files, heq⟩ | ⟨cause, heq⟩
    · simp only [exposed, heq] at hcall
      cases hcall
    · simp only [exposed, heq] at hcall
      cases hcall
      refine ⟨hlive, rfl, fun config other hconfig hbusy => ?_⟩
      have hstill := Exposed.isLive_of_busy hbusy
      rw [hlive, hconfig, decide_eq_false (not_not.mpr rfl), Bool.and_false] at hstill
      cases hstill

/-- Whoever draws with one store, and whatever happens to the files, a chart
that cannot be destroyed loses its container all the same. A toggle chart
that has a chart finds its container live as long as nobody, itself
included, tried to destroy a chart there since it drew. -/
theorem failed_destroy_frees_the_container (settings : Settings) (files : FileTree)
    (meanwhile : Nat → FileTree → FileTree) (steps : List Step) :
    Decided settings (run (exposed settings) { state := .fresh files meanwhile } steps).state
      (journal (exposed settings) (.fresh files meanwhile) steps) ∧
    ∀ id c, (run (exposed settings) { state := .fresh files meanwhile } steps).charts id
        = some c → c.isLive = true →
      ∃ chart ∈ (journal (exposed settings) (.fresh files meanwhile) steps).live,
        c.handle = some chart.handle ∧ chart.config = c.config ∧
        ∀ before since, journal (exposed settings) (.fresh files meanwhile) steps
            = before ++ .generated chart :: since →
          (∀ call ∈ since, call.triesToDestroyIn c.container = false) →
          (run (exposed settings) { state := .fresh files meanwhile } steps).state.isLive
            c.container = true := by
  obtain ⟨htracked, -, hcharts⟩ :=
    Scene.of_run (Tracked.stable settings) (Tracked.init files meanwhile) steps
  refine ⟨htracked.decided, fun id c hc hlive => ?_⟩
  obtain ⟨chart, hmem, hhandle, hconfig⟩ := hcharts id c hc hlive
  refine ⟨chart, hmem, hhandle, hconfig, fun before since hj hsince => ?_⟩
  have hcontainer : c.container = chart.config.container := by rw [hconfig]; rfl
  rw [hcontainer] at hsince ⊢
  rw [htracked.live, hj]
  exact Journal.isSome_holder? hsince

/-- A directory gets in the way of a chart's file before the second call, and
is gone before the third. -/
def obstructed : Nat → FileTree → FileTree
  | 1, tree => tree.put ["home", "work", "charts", "chroots.svg"] .directory
  | 2, tree => tree.erase ["home", "work", "charts", "chroots.svg"]
  | _, tree => tree

/-- A click that fails in destroying leaves the toggle chart with its chart
and takes its container from it. The container was live before and is not
afterwards, so the next one to ask gets it. -/
theorem failed_destroy_lets_another_chart_in :
    (run (exposed {}) { state := .fresh .empty obstructed }
      [.mount 0 .threePoints]).state.isLive "chroots" = true ∧
    (journal (exposed {}) (.fresh .empty obstructed)
      [.mount 0 .threePoints, .request 0 .activate]).map BackendCall.succeeded
        = [true, false] ∧
    ((run (exposed {}) { state := .fresh .empty obstructed }
      [.mount 0 .threePoints, .request 0 .activate]).charts 0).map
        (fun c => (c.isLive, c.container)) = some (true, "chroots") ∧
    (run (exposed {}) { state := .fresh .empty obstructed }
      [.mount 0 .threePoints, .request 0 .activate]).state.isLive "chroots" = false ∧
    (run (exposed {}) { state := .fresh .empty obstructed }
      [.mount 0 .threePoints, .request 0 .activate,
        .render {} [] "chroots" none]).handles.map Handle.container = ["chroots"] := by
  decide +kernel

end Svg

end RankedBars
