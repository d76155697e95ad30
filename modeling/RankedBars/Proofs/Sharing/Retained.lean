import RankedBars.Backend.Retained
import RankedBars.Proofs.Sharing.Scene

/-!
# Sharing the charts in memory

Everybody who draws with this backend shares one store, in which a chart is
found by its container, whereas a handle owns a chart by its number. The two
agree as long as the store mirrors the journal: its slots are the live charts
one by one, with their containers, numbers and configurations.

`Mirrors` is that invariant. Generating keeps it because a container is given
away only while no live chart is in it, so that no two live charts meet in
one. Destroying keeps it for the other reason, which is numbers: the slot
that goes is the one with the number of the handle, and if that chart was
destroyed before there is no such slot, whoever has the container now. What
is proved of a whole scene is then read off the mirror.
-/

namespace RankedBars.Retained

namespace Store

/-- Generating fails on a busy container and does nothing, and otherwise adds
a slot with the next number. -/
theorem generate_cases (s : Store) (config : ChartConfig) :
    ((∃ slot, s.slot? config.container = some slot) ∧
      generate config s = (.error (.containerBusy config.container), s)) ∨
    (s.slot? config.container = none ∧
      generate config s = (.ok ⟨config.container, s.generated + 1⟩,
        ⟨⟨config.container, s.generated + 1, config⟩ :: s.live, s.generated + 1⟩)) := by
  cases hslot : s.slot? config.container with
  | some slot =>
      have hbusy : (s.slot? config.container).isSome := by rw [hslot]; rfl
      exact .inl ⟨⟨slot, rfl⟩, generate_of_isSome hbusy⟩
  | none =>
      have hfree : ¬ (s.slot? config.container).isSome := by
        rw [hslot]
        exact Bool.false_ne_true
      exact .inr ⟨rfl, if_neg hfree⟩

/-- Where no two slots have one container, a slot is found by its own. -/
theorem slot?_eq_some_iff {s : Store} (h : (s.live.map (·.container)).Nodup)
    {container : String} {slot : Slot} :
    s.slot? container = some slot ↔ slot ∈ s.live ∧ slot.container = container := by
  constructor
  · intro hslot
    exact ⟨List.mem_of_find?_eq_some hslot, container_of_slot?_eq_some hslot⟩
  · rintro ⟨hmem, rfl⟩
    obtain ⟨found, hfound⟩ : ∃ found, s.slot? slot.container = some found := by
      refine Option.isSome_iff_exists.mp (List.find?_isSome.mpr ⟨slot, hmem, ?_⟩)
      exact decide_eq_true rfl
    have heq := List.inj_on_of_nodup_map h (List.mem_of_find?_eq_some hfound) hmem
      (container_of_slot?_eq_some hfound)
    rw [hfound, heq]

end Store

/-- The slot of a chart. -/
def slotOf (chart : GeneratedChart Handle) : Slot :=
  ⟨chart.config.container, chart.number, chart.config⟩

/-- The store is the image of its journal. -/
structure Mirrors (s : Store × Journal Handle) : Prop where
  live : s.1.live = (s.2.live.map slotOf).reverse
  generated : s.1.generated = s.2.generated.length
  handles : ∀ chart ∈ s.2.generated,
    chart.handle = ⟨chart.config.container, chart.number⟩
  containers : (s.2.live.map (·.config.container)).Nodup

namespace Mirrors

variable {s : Store × Journal Handle} {chart : GeneratedChart Handle}

theorem init : Mirrors ({}, []) := ⟨rfl, rfl, nofun, .nil⟩

theorem mem_slots (h : Mirrors s) {slot : Slot} :
    slot ∈ s.1.live ↔ ∃ chart ∈ s.2.live, slotOf chart = slot := by
  rw [h.live, List.mem_reverse, List.mem_map]

theorem nodup_slots (h : Mirrors s) : (s.1.live.map (·.container)).Nodup := by
  rw [h.live, List.map_reverse, List.nodup_reverse, List.map_map]
  exact h.containers

theorem slot?_eq_some_iff (h : Mirrors s) {container : String} {slot : Slot} :
    s.1.slot? container = some slot ↔
      ∃ chart ∈ s.2.live, chart.config.container = container ∧
        slotOf chart = slot := by
  rw [Store.slot?_eq_some_iff h.nodup_slots, h.mem_slots]
  constructor
  · rintro ⟨⟨chart, hmem, rfl⟩, hcontainer⟩
    exact ⟨chart, hmem, hcontainer, rfl⟩
  · rintro ⟨chart, hmem, hcontainer, rfl⟩
    exact ⟨⟨chart, hmem, rfl⟩, hcontainer⟩

theorem container_handle (h : Mirrors s) (hmem : chart ∈ s.2.generated) :
    chart.handle.container = chart.config.container := by
  rw [h.handles chart hmem]

theorem container_handle_live (h : Mirrors s) (hmem : chart ∈ s.2.live) :
    chart.handle.container = chart.config.container :=
  h.container_handle (Journal.mem_live.mp hmem).1

/-- A handle takes from the slots those with its number. There are no others
in its container with that number, so the container adds nothing. -/
theorem keeps_slot_iff (h : Mirrors s) (hnumbered : s.2.Numbered)
    (hmem : chart ∈ s.2.generated) {other : GeneratedChart Handle}
    (hother : other ∈ s.2.live) :
    (decide ((slotOf other).container ≠ chart.handle.container) ||
      decide ((slotOf other).instanceNumber ≠ chart.handle.instanceNumber))
      = decide (other.number ≠ chart.number) := by
  rw [h.handles chart hmem]
  by_cases hnumber : other.number = chart.number
  · obtain rfl := hnumbered.eq_of_number (Journal.mem_live.mp hother).1 hmem hnumber
    simp [slotOf]
  · simp [slotOf, hnumber]

/-- A chart that is generated into a free container joins the mirror. -/
theorem joined (h : Mirrors s) (hnumbered : s.2.Numbered) {config : ChartConfig}
    (hfree : s.1.slot? config.container = none)
    (hchart : chart = ⟨s.2.generated.length + 1, config,
      ⟨config.container, s.2.generated.length + 1⟩⟩) :
    Mirrors (⟨slotOf chart :: s.1.live, s.1.generated + 1⟩,
      s.2 ++ [.generated chart]) := by
  have hnumber : chart.number = s.2.generated.length + 1 := by rw [hchart]
  have hlive := hnumbered.live_generated hnumber
  constructor
  case live =>
    rw [hlive, List.map_append, List.reverse_append, h.live]
    rfl
  case generated =>
    rw [Journal.generated_concat, List.length_append, h.generated]
    rfl
  case handles =>
    intro other hother
    rw [Journal.generated_concat] at hother
    rcases List.mem_append.mp hother with hold | hnew
    · exact h.handles other hold
    · cases List.mem_singleton.mp hnew
      rw [hchart]
  case containers =>
    rw [hlive, List.map_append]
    refine h.containers.append (List.nodup_singleton _) ?_
    refine List.disjoint_singleton.mpr fun hmem => ?_
    -- A live chart in the container would have its slot there.
    obtain ⟨other, hother, hcontainer⟩ := List.mem_map.mp hmem
    have hslot := h.slot?_eq_some_iff.mpr ⟨other, hother, hcontainer, rfl⟩
    rw [hchart] at hslot
    cases hfree.symm.trans hslot

theorem generate (h : Mirrors s) (hnumbered : s.2.Numbered) (config : ChartConfig) :
    Mirrors (backend.recorded.generate config s).2 := by
  rcases Store.generate_cases s.1 config with ⟨-, heq⟩ | ⟨hfree, heq⟩
  · have hcall : (backend.recorded.generate config s).2
        = (s.1, s.2 ++ [.refused config (.containerBusy config.container)]) := by
      simp only [Backend.recorded, backend, heq]
    rw [hcall]
    constructor
    case live => rw [Journal.live_refused, h.live]
    case generated => simpa using h.generated
    case handles => simpa using h.handles
    case containers => simpa using h.containers
  · obtain ⟨chart, hchart⟩ : ∃ chart : GeneratedChart Handle,
        chart = ⟨s.2.generated.length + 1, config,
          ⟨config.container, s.2.generated.length + 1⟩⟩ := ⟨_, rfl⟩
    have hcall : (backend.recorded.generate config s).2
        = (⟨slotOf chart :: s.1.live, s.1.generated + 1⟩,
          s.2 ++ [.generated chart]) := by
      simp only [Backend.recorded, backend, heq, hchart, slotOf, h.generated]
    rw [hcall]
    exact h.joined hnumbered hfree hchart

theorem destroy (h : Mirrors s) (hnumbered : s.2.Numbered)
    (hmem : chart ∈ s.2.generated) :
    Mirrors (backend.recorded.destroy chart s).2 := by
  have hcall : (backend.recorded.destroy chart s).2
      = ((Store.destroy chart.handle s.1).2, s.2 ++ [.destroyed chart]) := rfl
  rw [hcall]
  constructor
  case live =>
    rw [Journal.live_destroyed, Store.destroy, h.live, List.filter_reverse,
      List.filter_map]
    refine congrArg (fun charts => (List.map slotOf charts).reverse) ?_
    exact List.filter_congr fun other hother => h.keeps_slot_iff hnumbered hmem hother
  case generated => simpa [Store.destroy] using h.generated
  case handles => simpa using h.handles
  case containers =>
    rw [Journal.live_destroyed]
    exact h.containers.sublist (List.filter_sublist.map _)

theorem stable : Scene.Stable backend Mirrors where
  generate config _ hnumbered h := h.generate hnumbered config
  destroy _ _ hnumbered h hmem := h.destroy hnumbered hmem

end Mirrors

/-! ## What is read off the mirror -/

/-- A store that tells the truth about the charts of a journal. -/
structure Faithful (s : Store) (j : Journal Handle) : Prop where
  /-- No two charts have one handle. -/
  distinct : (j.generated.map (·.handle)).Nodup
  /-- A container has at most one live chart. -/
  single : (j.live.map (·.handle.container)).Nodup
  /-- What is found in a container is what the live chart in it was generated
  with, and where nothing is found there is none. -/
  chart : ∀ container config, s.chart? container = some config ↔
    ∃ chart ∈ j.live, chart.handle.container = container ∧ chart.config = config
  count : s.liveCount = j.live.length
  generated : s.generated = j.generated.length
  /-- Nothing is generated into a container with a live chart. -/
  busy : ∀ config, (∃ chart ∈ j.live, chart.handle.container = config.container) →
    backend.generate config s = (.error (.containerBusy config.container), s)
  /-- Destroying a handle again does nothing. -/
  spent : ∀ chart ∈ j.destroyed, backend.destroy chart.handle s = (.ok (), s)

theorem Mirrors.faithful {s : Store × Journal Handle} (h : Mirrors s)
    (hnumbered : s.2.Numbered) : Faithful s.1 s.2 where
  distinct := by
    refine .of_map Handle.instanceNumber ?_
    rw [List.map_map]
    have heq : s.2.generated.map (Handle.instanceNumber ∘ (·.handle))
        = s.2.generated.map (·.number) :=
      List.map_congr_left fun chart hmem => by
        rw [Function.comp_apply, h.handles chart hmem]
    rw [heq, hnumbered.numbers]
    exact List.nodup_range'
  single := by
    have heq : s.2.live.map (·.handle.container) = s.2.live.map (·.config.container) :=
      List.map_congr_left fun _ hmem => h.container_handle_live hmem
    rw [heq]
    exact h.containers
  chart container config := by
    rw [Store.chart?, Option.map_eq_some_iff]
    constructor
    · rintro ⟨slot, hslot, rfl⟩
      obtain ⟨chart, hmem, hcontainer, rfl⟩ := h.slot?_eq_some_iff.mp hslot
      exact ⟨chart, hmem, (h.container_handle_live hmem).trans hcontainer, rfl⟩
    · rintro ⟨chart, hmem, rfl, rfl⟩
      refine ⟨slotOf chart, h.slot?_eq_some_iff.mpr ⟨chart, hmem, ?_, rfl⟩, rfl⟩
      exact (h.container_handle_live hmem).symm
  count := by
    rw [Store.liveCount, h.live, List.length_reverse, List.length_map]
  generated := h.generated
  busy config hbusy := by
    obtain ⟨chart, hmem, hcontainer⟩ := hbusy
    rw [h.container_handle_live hmem] at hcontainer
    have hslot := h.slot?_eq_some_iff.mpr ⟨chart, hmem, hcontainer, rfl⟩
    rcases Store.generate_cases s.1 config with ⟨-, heq⟩ | ⟨hfree, -⟩
    · exact heq
    · cases hfree.symm.trans hslot
  spent chart hspent := by
    have hmem := hnumbered.known chart hspent
    have hkeeps : s.1.live.filter (fun slot =>
        slot.container ≠ chart.handle.container ||
          slot.instanceNumber ≠ chart.handle.instanceNumber) = s.1.live := by
      refine List.filter_eq_self.mpr fun slot hslot => ?_
      obtain ⟨other, hother, rfl⟩ := h.mem_slots.mp hslot
      refine (h.keeps_slot_iff hnumbered hmem hother).trans (decide_eq_true ?_)
      intro hnumber
      refine (Journal.mem_live.mp hother).2 ?_
      rw [hnumber]
      exact List.mem_map_of_mem hspent
    simp only [backend, Store.destroy, hkeeps]

/-- Whoever draws with one store, and in whatever order charts are asked for,
destroyed, destroyed again, mounted, clicked and unmounted, the store is
faithful to what happened, and a toggle chart that has a chart finds it in
its container as it drew it. -/
theorem shared_store_is_faithful (steps : List Scene.Step) :
    Faithful (Scene.run backend { state := {} } steps).state
      (Scene.journal backend {} steps) ∧
    ∀ id c, (Scene.run backend { state := {} } steps).charts id = some c →
      c.isLive = true →
      (Scene.run backend { state := {} } steps).state.chart? c.container
        = some c.config := by
  have howned := (Scene.Owned.init Mirrors.init).run Mirrors.stable steps
  have hrun := Scene.run_project (Backend.recorded_projects backend)
    { state := ({}, []) } steps
  have hinit : (Scene.project Prod.fst GeneratedChart.handle
      { state := (({}, []) : Store × Journal Handle) } : Scene Store Handle)
      = { state := {} } := rfl
  rw [hinit] at hrun
  rw [hrun]
  have hfaithful := howned.state.faithful howned.numbered
  refine ⟨hfaithful, fun id c hc hlive => ?_⟩
  rw [Scene.charts_project, Option.map_eq_some_iff] at hc
  obtain ⟨c, hc, rfl⟩ := hc
  rw [ToggleChart.isLive_mapHandle] at hlive
  obtain ⟨chart, hchart⟩ := ToggleChart.isLive_iff.mp hlive
  have hmem := howned.live ⟨c, hc, hchart⟩
  have hconfig := howned.config hc hchart
  refine (hfaithful.chart _ _).mpr ⟨chart, hmem, ?_, hconfig⟩
  rw [howned.state.container_handle_live hmem, hconfig]
  rfl

/-- A handle that is destroyed again leaves the next owner of its container
alone. -/
example : (Scene.run backend { state := {} }
    [.render {} [] "chroots" none, .destroy 0, .mount 7 .threePoints,
      .destroy 0]).state.liveCount = 1 := rfl

end RankedBars.Retained
