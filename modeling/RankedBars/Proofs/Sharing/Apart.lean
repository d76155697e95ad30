import RankedBars.Proofs.Sharing.Retained

/-!
# Toggle charts that do not meet

Any number of toggle charts share one store of charts in memory, each in
containers of its own. What one of them answers and shows is then what it
would answer and show if the others were not there. The stores of the two
runs do differ, in the charts of the others and also in the numbers of its
own, since everybody draws from one count. So the runs are compared by what
can be seen: `seen` is a toggle chart without the number of what it holds,
and of the store only the configurations in its own containers count.

Two things make the comparison go through a step. `slotsIn_moves` is the
frame: whatever a toggle chart does, it does in its own container. And a
chart that is held is the one that is found there (`Firm`), so that two runs
in which the same is found come to the same when it is destroyed, whatever
its numbers are.
-/

namespace RankedBars

open ToggleChart

variable {σ : Type u} {η : Type v}

/-- What can be seen of a toggle chart: all of it, and whether it is live, but
not which chart it holds. -/
def ToggleChart.seen (c : ToggleChart η) : ToggleChart Unit := c.mapHandle fun _ => ()

namespace Scene

def Step.actor? : Step → Option Nat
  | .mount id _ | .request id _ | .unmount id | .drop id => some id
  | .generate _ | .render .. | .destroy _ => none

/-- The container that a step asks for a chart in by its name. -/
def Step.container? : Step → Option String
  | .mount _ m => some m.container
  | .generate config => some config.container
  | .render _ _ container _ => some container
  | .request .. | .unmount _ | .drop _ | .destroy _ => none

inductive Reply
  | mounted (result : Except RenderError (ToggleChart Unit)) (notices : List Notice)
  | served (result : Except RenderError Bool) (event : ClickEvent) (notices : List Notice)
  | unmounted (result : Except RenderError (Option Button))
  | silent

/-- The answer to a step. There is none from a chart that is not mounted. -/
def reply (B : Backend σ η) (p : Scene σ η) : Step → Reply
  | .mount _ m =>
      let (result, _, notices) := m.mount B p.state
      .mounted (result.map ToggleChart.seen) notices
  | .request id r =>
      match p.charts id with
      | none => .silent
      | some c =>
          let served := c.serve B p.state r
          .served served.result served.event served.notices
  | .unmount id =>
      match p.charts id with
      | none => .silent
      | some c => .unmounted (c.unmount B p.state).1
  | .generate _ | .render .. | .destroy _ | .drop _ => .silent

/-- The container of a toggle chart that is about to take a step. -/
def stage? (p : Scene σ η) (id : Nat) (st : Step) : Option String :=
  st.container?.or ((p.charts id).map ToggleChart.container)

/-- What is seen of a toggle chart when it has taken a step: its answer, the
chart as it is now, if it is still there, and what the store has in its
container. -/
structure Sighting where
  reply : Reply
  chart : Option (ToggleChart Unit)
  shown : Option ChartConfig

def sighting (p : Scene Retained.Store Retained.Handle) (id : Nat) (st : Step) : Sighting where
  reply := p.reply Retained.backend st
  chart := ((p.step Retained.backend st).charts id).map ToggleChart.seen
  shown := (p.stage? id st).bind (p.step Retained.backend st).state.chart?

/-- What is seen of a toggle chart after each of its own steps. -/
def sightings (id : Nat) (p : Scene Retained.Store Retained.Handle) : List Step → List Sighting
  | [] => []
  | st :: rest =>
      let later := sightings id (p.step Retained.backend st) rest
      if st.actor? = some id then p.sighting id st :: later else later

theorem charts_withChart_self (p : Scene σ η) (id : Nat) (c : ToggleChart η) (s : σ) :
    (p.withChart id c s).charts id = some c := Function.update_self ..

theorem charts_withChart_of_ne (p : Scene σ η) {id other : Nat} (h : other ≠ id)
    (c : ToggleChart η) (s : σ) : (p.withChart id c s).charts other = p.charts other :=
  Function.update_of_ne h ..

theorem charts_dropChart_self (p : Scene σ η) (id : Nat) : (p.dropChart id).charts id = none :=
  Function.update_self ..

theorem charts_dropChart_of_ne (p : Scene σ η) {id other : Nat} (h : other ≠ id) :
    (p.dropChart id).charts other = p.charts other := Function.update_of_ne h ..

end Scene

namespace Retained

namespace Store

/-- The slots of a container, of which there is never more than one. -/
def slotsIn (s : Store) (container : String) : List Slot :=
  s.live.filter fun slot => slot.container = container

theorem slot?_eq_head? (s : Store) (container : String) :
    s.slot? container = (s.slotsIn container).head? := by
  rw [slotsIn, List.head?_filter, slot?]

theorem chart?_eq_head? (s : Store) (container : String) :
    s.chart? container = (s.slotsIn container).head?.map (·.config) := by
  rw [chart?, slot?_eq_head?]

theorem chart?_congr {s t : Store} {container : String}
    (h : s.slotsIn container = t.slotsIn container) : s.chart? container = t.chart? container := by
  rw [chart?_eq_head?, chart?_eq_head?, h]

theorem slotsIn_eq_nil_iff {s : Store} {container : String} :
    s.slotsIn container = [] ↔ s.chart? container = none := by
  rw [chart?_eq_head?, Option.map_eq_none_iff, List.head?_eq_none_iff]

theorem slotsIn_cons_self (s : Store) (slot : Slot) (generated : Nat) :
    slotsIn ⟨slot :: s.live, generated⟩ slot.container = slot :: s.slotsIn slot.container := by
  rw [slotsIn, List.filter_cons_of_pos (by simp), slotsIn]

theorem container_of_generate_eq_ok {s s' : Store} {config : ChartConfig} {handle : Handle}
    (h : generate config s = (.ok handle, s')) : handle.container = config.container := by
  rcases generate_cases s config with ⟨-, heq⟩ | ⟨-, heq⟩
  · cases heq.symm.trans h
  · cases heq.symm.trans h
    rfl

theorem slotsIn_generate_of_ne {s : Store} {config : ChartConfig} {container : String}
    (h : config.container ≠ container) :
    (generate config s).2.slotsIn container = s.slotsIn container := by
  rcases generate_cases s config with ⟨-, heq⟩ | ⟨-, heq⟩
  · rw [heq]
  · rw [heq, slotsIn, List.filter_cons_of_neg (by simpa using h), slotsIn]

theorem slotsIn_destroy (s : Store) (handle : Handle) (container : String) :
    (destroy handle s).2.slotsIn container = (s.slotsIn container).filter fun slot =>
      slot.container ≠ handle.container || slot.instanceNumber ≠ handle.instanceNumber := by
  rw [destroy, slotsIn, slotsIn, List.filter_filter, List.filter_filter]
  exact List.filter_congr fun slot _ => Bool.and_comm ..

theorem slotsIn_destroy_of_ne {s : Store} {handle : Handle} {container : String}
    (h : handle.container ≠ container) :
    (destroy handle s).2.slotsIn container = s.slotsIn container := by
  rw [slotsIn_destroy, List.filter_eq_self]
  intro slot hslot
  have hcontainer : slot.container = container := by
    simpa using (List.mem_filter.mp hslot).2
  simp [hcontainer, Ne.symm h]

end Store

/-! ## One toggle chart in two stores -/

/-- A toggle chart with the store that it draws in. -/
abbrev Stand := ToggleChart Handle × Store

/-- What a toggle chart holds is in its own container. -/
def Inside (c : ToggleChart Handle) : Prop :=
  ∀ handle, c.handle = some handle → handle.container = c.container

/-- What a toggle chart holds is what is found in its container. -/
def Firm (a : Stand) : Prop :=
  ∀ handle, a.1.handle = some handle → handle.container = a.1.container ∧
    ∀ slot ∈ a.2.slotsIn a.1.container, slot.instanceNumber = handle.instanceNumber

theorem Firm.inside {a : Stand} (h : Firm a) : Inside a.1 := fun handle hheld =>
  (h handle hheld).1

theorem inside_of_handle_eq_none {c : ToggleChart Handle} (h : c.handle = none) : Inside c :=
  fun handle hheld => absurd (h.symm.trans hheld) (Option.some_ne_none handle).symm

theorem firm_of_handle_eq_none {a : Stand} (h : a.1.handle = none) : Firm a :=
  fun handle hheld => absurd (h.symm.trans hheld) (Option.some_ne_none handle).symm

/-- Destroying what is held leaves nothing in the container. -/
theorem Firm.chart?_destroy {c : ToggleChart Handle} {s : Store} {handle : Handle}
    (h : Firm (c, s)) (hheld : c.handle = some handle) :
    (Store.destroy handle s).2.chart? c.container = none := by
  obtain ⟨hcontainer, hnumber⟩ := h handle hheld
  rw [← Store.slotsIn_eq_nil_iff, Store.slotsIn_destroy, List.filter_eq_nil_iff]
  intro slot hslot
  have hin : slot.container = c.container := by
    simpa using (List.mem_filter.mp hslot).2
  simp [hin, hcontainer, hnumber slot hslot]

/-- A toggle chart stays inside its container and leaves all others alone. -/
theorem slotsIn_moves {a b : Stand} (hmoves : Moves backend a b) (hinside : Inside a.1) :
    b.1.container = a.1.container ∧ Inside b.1 ∧
      ∀ container, container ≠ a.1.container →
        b.2.slotsIn container = a.2.slotsIn container := by
  refine hmoves.preserve (P := fun b => b.1.container = a.1.container ∧ Inside b.1 ∧
    ∀ container, container ≠ a.1.container →
      b.2.slotsIn container = a.2.slotsIn container) ?_ ⟨rfl, hinside, fun _ _ => rfl⟩
  intro p q hmove
  rintro ⟨hcontainer, hin, hothers⟩
  cases hmove with
  | @destroyed c handle s s' held call =>
      obtain rfl : (Store.destroy handle s).2 = s' := congrArg Prod.snd call
      refine ⟨hcontainer, inside_of_handle_eq_none rfl, fun container hne => ?_⟩
      rw [← hothers container hne]
      refine Store.slotsIn_destroy_of_ne ?_
      rw [hin handle held, hcontainer]
      exact hne.symm
  | kept held call => cases call
  | @advanced c s free =>
      obtain ⟨_, _, _, heq⟩ := advance_eq c
      rw [heq]
      exact ⟨hcontainer, fun handle hheld => hin handle hheld, hothers⟩
  | @generated c handle s s' free call =>
      obtain rfl : (Store.generate c.config s).2 = s' := congrArg Prod.snd call
      refine ⟨hcontainer, fun other hother => ?_, fun container hne => ?_⟩
      · cases hother
        exact Store.container_of_generate_eq_ok call
      · rw [← hothers container hne]
        refine Store.slotsIn_generate_of_ne ?_
        show c.container ≠ container
        rw [hcontainer]
        exact hne.symm
  | @refused c e s s' free call =>
      obtain rfl : (Store.generate c.config s).2 = s' := congrArg Prod.snd call
      refine ⟨hcontainer, hin, fun container hne => ?_⟩
      rw [← hothers container hne]
      refine Store.slotsIn_generate_of_ne ?_
      show c.container ≠ container
      rw [hcontainer]
      exact hne.symm

/-- Two toggle charts that look the same, each in its store, and find the same
in their container. -/
structure Twins (a b : Stand) : Prop where
  seen : a.1.seen = b.1.seen
  shown : a.2.chart? a.1.container = b.2.chart? a.1.container
  firm : Firm a
  firm' : Firm b

namespace Twins

variable {c d : ToggleChart Handle} {s t : Store}

theorem container_eq (h : Twins (c, s) (d, t)) : d.container = c.container :=
  (congrArg ToggleChart.container h.seen).symm

theorem config_eq (h : Twins (c, s) (d, t)) : d.config = c.config :=
  (congrArg ToggleChart.config h.seen).symm

theorem handle_eq_none (h : Twins (c, s) (d, t)) (free : c.handle = none) :
    d.handle = none := by
  have hhandle := congrArg ToggleChart.handle h.seen
  simpa [ToggleChart.seen, mapHandle, free] using hhandle.symm

theorem advance (h : Twins (c, s) (d, t)) (free : c.handle = none) :
    Twins (c.advance, s) (d.advance, t) where
  seen := by
    rw [ToggleChart.seen, ← advance_mapHandle]
    exact (congrArg ToggleChart.advance h.seen).trans (advance_mapHandle _ d)
  shown := by
    obtain ⟨_, _, _, heq⟩ := advance_eq c
    rw [heq]
    exact h.shown
  firm handle hheld := by
    rw [handle_advance, free] at hheld
    cases hheld
  firm' handle hheld := by
    rw [handle_advance, h.handle_eq_none free] at hheld
    cases hheld

/-- Both give up what they hold. Where something was held nothing is found
afterwards, and elsewhere it is the same as before. -/
theorem release (h : Twins (c, s) (d, t)) : ∃ c' d' s' t',
    c.release backend s = (.ok c', s') ∧ d.release backend t = (.ok d', t') ∧
    c'.handle = none ∧ c'.container = c.container ∧ Twins (c', s') (d', t') := by
  cases hc : c.handle with
  | none =>
      have hd := h.handle_eq_none hc
      exact ⟨c, d, s, t, release_of_handle_eq_none _ hc s, release_of_handle_eq_none _ hd t,
        hc, rfl, h⟩
  | some handle =>
      obtain ⟨handle', hd⟩ : ∃ handle', d.handle = some handle' := by
        have hhandle := congrArg ToggleChart.handle h.seen
        rw [ToggleChart.seen, ToggleChart.seen, mapHandle, mapHandle, hc] at hhandle
        exact (Option.map_eq_some_iff.mp hhandle.symm).imp fun _ => And.left
      refine ⟨{ c with handle := none }, { d with handle := none },
        (Store.destroy handle s).2, (Store.destroy handle' t).2, ?_, ?_, rfl, rfl, ?_, ?_,
        firm_of_handle_eq_none rfl, firm_of_handle_eq_none rfl⟩
      · simp only [ToggleChart.release, hc, backend, Store.destroy]
      · simp only [ToggleChart.release, hd, backend, Store.destroy]
      · exact congrArg
          (fun e : ToggleChart Unit => ({ e with handle := none } : ToggleChart Unit)) h.seen
      · show (Store.destroy handle s).2.chart? c.container
          = (Store.destroy handle' t).2.chart? c.container
        rw [(h.firm).chart?_destroy hc, ← h.container_eq, (h.firm').chart?_destroy hd]

def drawNotice (c : ToggleChart Handle) : Notice :=
  .rendering c.config.barCount c.container c.config.size.height

theorem drawNotice_eq (h : Twins (c, s) (d, t)) : drawNotice d = drawNotice c := by
  rw [drawNotice, drawNotice, h.config_eq, h.container_eq]

theorem draw_cases (c : ToggleChart Handle) (s : Store) :
    (s.chart? c.container ≠ none ∧
      c.draw backend s = (.error (.containerBusy c.container), s, [drawNotice c])) ∨
    (s.chart? c.container = none ∧ c.draw backend s
      = (.ok { c with handle := some ⟨c.container, s.generated + 1⟩ },
        ⟨⟨c.container, s.generated + 1, c.config⟩ :: s.live, s.generated + 1⟩,
        [drawNotice c])) := by
  rcases Store.generate_cases s c.config with ⟨⟨slot, hslot⟩, hg⟩ | ⟨hslot, hg⟩
  · refine .inl ⟨?_, ?_⟩
    · rw [Store.chart?, show s.slot? c.container = some slot from hslot]
      exact Option.some_ne_none _
    · rw [ToggleChart.config] at hg
      simp only [ToggleChart.draw, Renderer.render, backend, hg]
      rfl
  · refine .inr ⟨?_, ?_⟩
    · rw [Store.chart?, show s.slot? c.container = none from hslot]
      rfl
    · rw [ToggleChart.config] at hg
      simp only [ToggleChart.draw, Renderer.render, backend, hg]
      rfl

/-- A chart that is drawn is the only one in its container. -/
theorem firm_drawn (hfree : s.chart? c.container = none) :
    Firm ({ c with handle := some ⟨c.container, s.generated + 1⟩ },
      ⟨⟨c.container, s.generated + 1, c.config⟩ :: s.live, s.generated + 1⟩) := by
  intro handle hheld
  cases hheld
  refine ⟨rfl, fun slot hslot => ?_⟩
  have hslots := Store.slotsIn_cons_self s ⟨c.container, s.generated + 1, c.config⟩
    (s.generated + 1)
  rw [Store.slotsIn_eq_nil_iff.mpr hfree] at hslots
  rw [hslots] at hslot
  cases List.mem_singleton.mp hslot
  rfl

theorem chart?_drawn (c : ToggleChart Handle) (s : Store) :
    Store.chart? ⟨⟨c.container, s.generated + 1, c.config⟩ :: s.live, s.generated + 1⟩
      c.container = some c.config := by
  rw [Store.chart?_eq_head?, Store.slotsIn, List.filter_cons_of_pos (by simp)]
  rfl

/-- Both are refused, since something is in their container, or both get
what they asked for. -/
theorem draw (h : Twins (c, s) (d, t)) :
    (∃ e notices, c.draw backend s = (.error e, s, notices) ∧
      d.draw backend t = (.error e, t, notices)) ∨
    (∃ c' d' s' t' notices, c.draw backend s = (.ok c', s', notices) ∧
      d.draw backend t = (.ok d', t', notices) ∧ Twins (c', s') (d', t')) := by
  have hshown : s.chart? c.container = t.chart? d.container := by
    rw [h.container_eq]
    exact h.shown
  rcases draw_cases c s with ⟨hs, hdraw⟩ | ⟨hs, hdraw⟩
  · rcases draw_cases d t with ⟨-, hdraw'⟩ | ⟨ht, -⟩
    · rw [h.container_eq, h.drawNotice_eq] at hdraw'
      exact .inl ⟨_, _, hdraw, hdraw'⟩
    · exact absurd (hshown.trans ht) hs
  · rcases draw_cases d t with ⟨ht, -⟩ | ⟨ht, hdraw'⟩
    · exact absurd (hshown.symm.trans hs) ht
    · rw [h.drawNotice_eq] at hdraw'
      refine .inr ⟨_, _, _, _, _, hdraw, hdraw', ?_, ?_, firm_drawn hs, firm_drawn ht⟩
      · exact congrArg
          (fun e : ToggleChart Unit => ({ e with handle := some () } : ToggleChart Unit)) h.seen
      · refine (chart?_drawn c s).trans ?_
        rw [← h.config_eq, ← chart?_drawn d t, h.container_eq]

/-- Twins answer a click alike and are twins afterwards. -/
theorem click (h : Twins (c, s) (d, t)) (handler : HandlerId) (event : ClickEvent) :
    ∃ result event' notices c' d' s' t',
      c.click backend handler event s = ⟨result, c', event', s', notices⟩ ∧
      d.click backend handler event t = ⟨result, d', event', t', notices⟩ ∧
      Twins (c', s') (d', t') := by
  have hhandler : d.handler = c.handler := (congrArg ToggleChart.handler h.seen).symm
  by_cases hh : c.handler = some handler
  · obtain ⟨c₁, d₁, s₁, t₁, hc, hd, hfree, -, hreleased⟩ := h.release
    have hnext := hreleased.advance hfree
    rcases hnext.draw with ⟨e, notices, hc', hd'⟩ | ⟨c', d', s', t', notices, hc', hd', htwins⟩
    · refine ⟨.error e, event.prevent, notices, _, _, s₁, t₁, ?_, ?_, hnext⟩
      · simp only [ToggleChart.click, hh, hc, hc', ne_eq, not_true_eq_false, if_false]
      · simp only [ToggleChart.click, hhandler, hh, hd, hd', ne_eq, not_true_eq_false, if_false]
    · refine ⟨.ok true, event.prevent,
        notices ++ [.switched c'.container c'.mode c'.view.length], c', d', s', t', ?_, ?_,
        htwins⟩
      · simp only [ToggleChart.click, hh, hc, hc', ne_eq, not_true_eq_false, if_false]
      · have hmode : d'.mode = c'.mode := (congrArg ToggleChart.mode htwins.seen).symm
        have hview : d'.view = c'.view := (congrArg ToggleChart.view htwins.seen).symm
        simp only [ToggleChart.click, hhandler, hh, hd, hd', htwins.container_eq, hmode, hview,
          ne_eq, not_true_eq_false, if_false]
  · refine ⟨.ok false, event, [.staleClick c.container handler], c, d, s, t, if_pos hh, ?_, h⟩
    rw [ToggleChart.click, hhandler, if_pos hh, h.container_eq]

theorem serve (h : Twins (c, s) (d, t)) (r : Request) :
    ∃ result event notices c' d' s' t',
      c.serve backend s r = ⟨result, c', event, s', notices⟩ ∧
      d.serve backend t r = ⟨result, d', event, t', notices⟩ ∧
      Twins (c', s') (d', t') := by
  have htarget : r.handler? d = r.handler? c := by
    cases r with
    | click => rfl
    | activate =>
        exact congrArg (fun e : ToggleChart Unit => e.control.bind Button.clickTarget) h.seen.symm
  rw [serve_eq, serve_eq, htarget]
  cases r.handler? c with
  | none => exact ⟨_, _, _, c, d, s, t, rfl, rfl, h⟩
  | some handler => exact h.click handler r.event

theorem unmount (h : Twins (c, s) (d, t)) : ∃ control s' t',
    c.unmount backend s = (.ok control, s') ∧ d.unmount backend t = (.ok control, t') ∧
      s'.chart? c.container = t'.chart? c.container := by
  obtain ⟨c', d', s', t', hc, hd, -, hcontainer, hreleased⟩ := h.release
  have hcontrol : d'.control = c'.control := (congrArg ToggleChart.control hreleased.seen).symm
  refine ⟨c'.control.map (·.bind none), s', t', ?_, ?_, ?_⟩
  · simp only [ToggleChart.unmount, hc]
  · simp only [ToggleChart.unmount, hd, hcontrol]
  · rw [← hcontainer]
    exact hreleased.shown

theorem dressed (h : Twins (c, s) (d, t)) : Twins (c.dressed, s) (d.dressed, t) := by
  obtain ⟨_, _, _, hc⟩ := dressed_eq c
  obtain ⟨_, _, _, hd⟩ := dressed_eq d
  constructor
  case seen =>
    rw [ToggleChart.seen, ← dressed_mapHandle]
    exact (congrArg ToggleChart.dressed h.seen).trans (dressed_mapHandle _ d)
  case shown =>
    rw [hc]
    exact h.shown
  case firm =>
    rw [hc]
    exact h.firm
  case firm' =>
    rw [hd]
    exact h.firm'

end Twins

theorem mount_of_draw_ok {m : Mounting} {c : ToggleChart Handle} {s s' : Store}
    {notices : List Notice} (hd : m.dataset ≠ [])
    (h : m.blank.draw backend s = (.ok c, s', notices)) :
    m.mount backend s = (.ok c.dressed, s', notices) := by
  rcases Mounting.mount_cases backend m s with ⟨hnil, -⟩ | ⟨-, c₁, s₁, n, hdraw, heq⟩ |
    ⟨-, e, s₁, n, hdraw, -⟩
  · exact absurd hnil hd
  · cases hdraw.symm.trans h
    exact heq
  · cases hdraw.symm.trans h

theorem mount_of_draw_error {m : Mounting} {e : RenderError} {s s' : Store}
    {notices : List Notice} (hd : m.dataset ≠ [])
    (h : m.blank.draw backend s = (.error e, s', notices)) :
    m.mount backend s = (.error e, s', notices) := by
  rcases Mounting.mount_cases backend m s with ⟨hnil, -⟩ | ⟨-, c₁, s₁, n, hdraw, -⟩ |
    ⟨-, e, s₁, n, hdraw, heq⟩
  · exact absurd hnil hd
  · cases hdraw.symm.trans h
  · cases hdraw.symm.trans h
    exact heq

/-- A mounting does the same in two stores that have the same in its
container. -/
theorem Twins.mount {s t : Store} {m : Mounting}
    (h : s.chart? m.container = t.chart? m.container) :
    (∃ e notices, m.mount backend s = (.error e, s, notices) ∧
      m.mount backend t = (.error e, t, notices)) ∨
    (∃ c d s' t' notices, m.mount backend s = (.ok c, s', notices) ∧
      m.mount backend t = (.ok d, t', notices) ∧ Twins (c, s') (d, t')) := by
  have hblank : Twins (m.blank, s) (m.blank, t) :=
    ⟨rfl, h, firm_of_handle_eq_none rfl, firm_of_handle_eq_none rfl⟩
  by_cases hd : m.dataset = []
  · have hmount (s : Store) := Mounting.mount_cases backend m s
    simp only [hd, ne_eq, not_true_eq_false, false_and, or_false, true_and] at hmount
    exact .inr ⟨_, _, s, t, _, hmount s, hmount t, rfl, h,
      firm_of_handle_eq_none rfl, firm_of_handle_eq_none rfl⟩
  · rcases hblank.draw with ⟨e, notices, hs, ht⟩ | ⟨c, d, s', t', notices, hs, ht, htwins⟩
    · exact .inl ⟨e, notices, mount_of_draw_error hd hs, mount_of_draw_error hd ht⟩
    · exact .inr ⟨c.dressed, d.dressed, s', t', notices, mount_of_draw_ok hd hs,
        mount_of_draw_ok hd ht, htwins.dressed⟩

theorem slotsIn_mount {m : Mounting} {c : ToggleChart Handle} {s s' : Store}
    {notices : List Notice} (h : m.mount backend s = (.ok c, s', notices)) :
    c.container = m.container ∧ Inside c ∧
      ∀ container, container ≠ m.container → s'.slotsIn container = s.slotsIn container := by
  obtain ⟨handle, rfl, hmoves, -⟩ := Mounting.mount_ok h
  obtain ⟨_, hinside, hothers⟩ := slotsIn_moves hmoves (inside_of_handle_eq_none rfl)
  obtain ⟨_, _, _, hdressed⟩ := dressed_eq (m.holding handle)
  rw [hdressed]
  exact ⟨rfl, hinside, hothers⟩

/-! ## One toggle chart in two scenes -/

abbrev InMemory := Scene Store Handle

/-- Two scenes in which the same is seen of a toggle chart and in its
containers. In the first one there may be others, all of them elsewhere. -/
structure Alike (own : String → Prop) (id : Nat) (p q : InMemory) : Prop where
  seen : (p.charts id).map ToggleChart.seen = (q.charts id).map ToggleChart.seen
  shown : ∀ container, own container → p.state.chart? container = q.state.chart? container
  mine : ∀ c, p.charts id = some c → own c.container ∧ Firm (c, p.state)
  mine' : ∀ d, q.charts id = some d → Firm (d, q.state)
  others : ∀ other c, other ≠ id → p.charts other = some c → ¬ own c.container ∧ Inside c
  handles : ∀ handle ∈ p.handles, ¬ own handle.container

namespace Alike

open Scene

variable {own : String → Prop} {id : Nat} {p q : InMemory}

theorem init (own : String → Prop) (id : Nat) :
    Alike own id { state := {} } { state := {} } where
  seen := rfl
  shown _ _ := rfl
  mine _ hc := absurd hc (Option.some_ne_none _).symm
  mine' _ hd := absurd hd (Option.some_ne_none _).symm
  others _ _ _ hc := absurd hc (Option.some_ne_none _).symm
  handles _ hmem := absurd hmem List.not_mem_nil

theorem twins (h : Alike own id p q) {c : ToggleChart Handle} (hc : p.charts id = some c) :
    ∃ d, q.charts id = some d ∧ Twins (c, p.state) (d, q.state) := by
  have hseen := h.seen
  rw [hc, Option.map_some, eq_comm, Option.map_eq_some_iff] at hseen
  obtain ⟨d, hd, hseen⟩ := hseen
  obtain ⟨hown, hfirm⟩ := h.mine c hc
  exact ⟨d, hd, hseen.symm, h.shown _ hown, hfirm, h.mine' d hd⟩

theorem absent (h : Alike own id p q) (hc : p.charts id = none) : q.charts id = none := by
  have hseen := h.seen
  rw [hc, Option.map_none, eq_comm, Option.map_eq_none_iff] at hseen
  exact hseen

/-- What others do elsewhere changes nothing about what is seen. -/
theorem aside (h : Alike own id p q) {p' : InMemory} (hcharts : p'.charts id = p.charts id)
    (hslots : ∀ container, own container →
      p'.state.slotsIn container = p.state.slotsIn container)
    (hothers : ∀ other c, other ≠ id → p'.charts other = some c →
      ¬ own c.container ∧ Inside c)
    (hhandles : ∀ handle ∈ p'.handles, ¬ own handle.container) : Alike own id p' q where
  seen := by rw [hcharts, h.seen]
  shown container hown := by rw [Store.chart?_congr (hslots container hown), h.shown _ hown]
  mine c hc := by
    obtain ⟨hown, hfirm⟩ := h.mine c (hcharts ▸ hc)
    refine ⟨hown, fun handle hheld => ?_⟩
    rw [hslots _ hown]
    exact hfirm handle hheld
  mine' := h.mine'
  others := hothers
  handles := hhandles

theorem otherChart (h : Alike own id p q) {other : Nat} {c : ToggleChart Handle} {s : Store}
    (hne : other ≠ id) (hc : ¬ own c.container) (hinside : Inside c)
    (hslots : ∀ container, container ≠ c.container →
      s.slotsIn container = p.state.slotsIn container) :
    Alike own id (p.withChart other c s) q := by
  refine h.aside ?_ ?_ ?_ h.handles
  · exact charts_withChart_of_ne p hne.symm c s
  · exact fun container hown => hslots container fun heq => hc (heq ▸ hown)
  · intro third d hthird hd
    by_cases heq : third = other
    · subst heq
      rw [charts_withChart_self] at hd
      cases hd
      exact ⟨hc, hinside⟩
    · rw [charts_withChart_of_ne p heq] at hd
      exact h.others third d hthird hd

theorem otherLeft (h : Alike own id p q) {other : Nat} {s : Store} (hne : other ≠ id)
    (hslots : ∀ container, own container →
      s.slotsIn container = p.state.slotsIn container) :
    Alike own id { p.dropChart other with state := s } q := by
  refine h.aside ?_ hslots ?_ h.handles
  · exact charts_dropChart_of_ne p hne.symm
  · intro third d hthird hd
    by_cases heq : third = other
    · subst heq
      cases (charts_dropChart_self p third).symm.trans hd
    · exact h.others third d hthird ((charts_dropChart_of_ne p heq).symm.trans hd)

theorem otherGenerate (h : Alike own id p q) {config : ChartConfig}
    (hconfig : ¬ own config.container) :
    Alike own id (p.step backend (.generate config)) q := by
  have hslots (container : String) (hown : own container) :
      (Store.generate config p.state).2.slotsIn container = p.state.slotsIn container :=
    Store.slotsIn_generate_of_ne fun heq => hconfig (heq ▸ hown)
  rw [step]
  show Alike own id (p.gotHandle (Store.generate config p.state)) q
  rcases hg : Store.generate config p.state with ⟨e | handle, s⟩
  · rw [hg] at hslots
    exact h.aside rfl hslots h.others h.handles
  · rw [hg] at hslots
    refine h.aside rfl hslots h.others fun other hmem => ?_
    rcases List.mem_append.mp hmem with hold | hnew
    · exact h.handles other hold
    · cases List.mem_singleton.mp hnew
      rw [Store.container_of_generate_eq_ok hg]
      exact hconfig

/-- A step of somebody else, who asks for nothing in these containers. -/
theorem otherStep (h : Alike own id p q) {st : Step} (hactor : st.actor? ≠ some id)
    (hplace : ∀ container, st.container? = some container → ¬ own container) :
    Alike own id (p.step backend st) q := by
  cases st with
  | generate config => exact h.otherGenerate (hplace _ rfl)
  | render renderer view container paddingLeft =>
      rw [render_eq]
      exact h.otherGenerate (hplace _ rfl)
  | destroy index =>
      rw [step]
      cases hget : p.handles[index]? with
      | none => exact h
      | some handle =>
          refine h.aside rfl (fun container hown => ?_) h.others h.handles
          refine Store.slotsIn_destroy_of_ne fun heq => ?_
          exact h.handles handle (List.mem_of_getElem? hget) (heq ▸ hown)
  | mount other m =>
      have hne : other ≠ id := fun heq => hactor (congrArg some heq)
      have hm : ¬ own m.container := hplace _ rfl
      rw [step]
      rcases hmount : m.mount backend p.state with ⟨e | c, s, notices⟩
      · obtain ⟨-, -, hslots⟩ := slotsIn_moves (Mounting.mount_error hmount)
          (inside_of_handle_eq_none rfl)
        refine h.otherLeft hne fun container hin => hslots container ?_
        rintro rfl
        exact hm hin
      · obtain ⟨hcontainer, hinside, hslots⟩ := slotsIn_mount hmount
        rw [← hcontainer] at hm hslots
        exact h.otherChart hne hm hinside hslots
  | request other r =>
      have hne : other ≠ id := fun heq => hactor (congrArg some heq)
      rw [step]
      cases hc : p.charts other with
      | none => exact h
      | some c =>
          obtain ⟨hown, hinside⟩ := h.others other c hne hc
          obtain ⟨hcontainer, hinside', hslots⟩ :=
            slotsIn_moves (moves_serve backend c p.state r) hinside
          refine h.otherChart hne ?_ hinside' ?_
          · rw [hcontainer]
            exact hown
          · rw [hcontainer]
            exact hslots
  | unmount other =>
      have hne : other ≠ id := fun heq => hactor (congrArg some heq)
      rw [step]
      cases hc : p.charts other with
      | none => exact h
      | some c =>
          obtain ⟨hown, hinside⟩ := h.others other c hne hc
          obtain ⟨c', hmoves, -⟩ := moves_unmount backend c p.state
          obtain ⟨-, -, hslots⟩ := slotsIn_moves hmoves hinside
          exact h.otherLeft hne fun container hin =>
            hslots container fun heq => hown (heq ▸ hin)
  | drop other =>
      exact h.otherLeft (fun heq => hactor (congrArg some heq)) fun _ _ => rfl

theorem ownChart (h : Alike own id p q) {c d : ToggleChart Handle} {s t : Store}
    (hown : own c.container) (htwins : Twins (c, s) (d, t))
    (hs : ∀ container, container ≠ c.container →
      s.slotsIn container = p.state.slotsIn container)
    (ht : ∀ container, container ≠ c.container →
      t.slotsIn container = q.state.slotsIn container) :
    Alike own id (p.withChart id c s) (q.withChart id d t) := by
  constructor
  case seen =>
    rw [charts_withChart_self, charts_withChart_self]
    exact congrArg some htwins.seen
  case shown =>
    intro container hin
    by_cases heq : container = c.container
    · rw [heq]
      exact htwins.shown
    · exact (Store.chart?_congr (hs container heq)).trans
        ((h.shown container hin).trans (Store.chart?_congr (ht container heq)).symm)
  case mine =>
    intro e he
    cases (charts_withChart_self p id c s).symm.trans he
    exact ⟨hown, htwins.firm⟩
  case mine' =>
    intro e he
    cases (charts_withChart_self q id d t).symm.trans he
    exact htwins.firm'
  case others =>
    intro other e hne he
    exact h.others other e hne ((charts_withChart_of_ne p hne c s).symm.trans he)
  case handles => exact h.handles

theorem ownLeft (h : Alike own id p q) {s t : Store}
    (hshown : ∀ container, own container → s.chart? container = t.chart? container) :
    Alike own id { p.dropChart id with state := s } { q.dropChart id with state := t } := by
  constructor
  case seen =>
    show ((p.dropChart id).charts id).map _ = ((q.dropChart id).charts id).map _
    rw [charts_dropChart_self, charts_dropChart_self]
  case shown => exact hshown
  case mine =>
    intro e he
    cases (charts_dropChart_self p id).symm.trans he
  case mine' =>
    intro e he
    cases (charts_dropChart_self q id).symm.trans he
  case others =>
    intro other e hne he
    exact h.others other e hne ((charts_dropChart_of_ne p hne).symm.trans he)
  case handles => exact h.handles

theorem ownMount (h : Alike own id p q) {m : Mounting} (hown : own m.container) :
    p.reply backend (.mount id m) = q.reply backend (.mount id m) ∧
      Alike own id (p.step backend (.mount id m)) (q.step backend (.mount id m)) := by
  rcases Twins.mount (h.shown _ hown) with ⟨e, notices, hp, hq⟩ |
    ⟨c, d, s, t, notices, hp, hq, htwins⟩
  · simp only [reply, step, hp, hq]
    exact ⟨trivial, h.ownLeft h.shown⟩
  · obtain ⟨hc, -, hs⟩ := slotsIn_mount hp
    obtain ⟨-, -, ht⟩ := slotsIn_mount hq
    rw [← hc] at hown hs ht
    simp only [reply, step, hp, hq]
    refine ⟨?_, h.ownChart hown htwins hs ht⟩
    rw [Except.map, Except.map, show c.seen = d.seen from htwins.seen]

theorem ownRequest (h : Alike own id p q) (r : Request) :
    p.reply backend (.request id r) = q.reply backend (.request id r) ∧
      Alike own id (p.step backend (.request id r)) (q.step backend (.request id r)) := by
  cases hc : p.charts id with
  | none =>
      simp only [reply, step, hc, h.absent hc]
      exact ⟨trivial, h⟩
  | some c =>
      obtain ⟨d, hd, htwins⟩ := h.twins hc
      obtain ⟨result, event, notices, c', d', s', t', hp, hq, hafter⟩ := htwins.serve r
      obtain ⟨hc', -, hs⟩ := slotsIn_moves (moves_serve backend c p.state r) htwins.firm.inside
      obtain ⟨-, -, ht⟩ := slotsIn_moves (moves_serve backend d q.state r) htwins.firm'.inside
      simp only [hp] at hc' hs
      simp only [hq, htwins.container_eq] at ht
      rw [← hc'] at hs ht
      simp only [reply, step, hc, hd, hp, hq]
      refine ⟨trivial, h.ownChart ?_ hafter hs ht⟩
      rw [hc']
      exact (h.mine c hc).1

theorem ownUnmount (h : Alike own id p q) :
    p.reply backend (.unmount id) = q.reply backend (.unmount id) ∧
      Alike own id (p.step backend (.unmount id)) (q.step backend (.unmount id)) := by
  cases hc : p.charts id with
  | none =>
      simp only [reply, step, hc, h.absent hc]
      exact ⟨trivial, h⟩
  | some c =>
      obtain ⟨d, hd, htwins⟩ := h.twins hc
      obtain ⟨control, s', t', hp, hq, hshown⟩ := htwins.unmount
      obtain ⟨_, hmoves, -⟩ := moves_unmount backend c p.state
      obtain ⟨_, hmoves', -⟩ := moves_unmount backend d q.state
      obtain ⟨-, -, hs⟩ := slotsIn_moves hmoves htwins.firm.inside
      obtain ⟨-, -, ht⟩ := slotsIn_moves hmoves' htwins.firm'.inside
      simp only [hp] at hs
      simp only [hq, htwins.container_eq] at ht
      simp only [reply, step, hc, hd, hp, hq]
      refine ⟨trivial, h.ownLeft fun container hin => ?_⟩
      by_cases heq : container = c.container
      · rw [heq]
        exact hshown
      · exact (Store.chart?_congr (hs container heq)).trans
          ((h.shown container hin).trans (Store.chart?_congr (ht container heq)).symm)

/-- A step of the toggle chart itself is answered alike in both scenes. -/
theorem ownStep (h : Alike own id p q) {st : Step} (hactor : st.actor? = some id)
    (hplace : ∀ container, st.container? = some container → own container) :
    p.reply backend st = q.reply backend st ∧
      Alike own id (p.step backend st) (q.step backend st) := by
  cases st with
  | generate | render | destroy => cases hactor
  | mount id' m =>
      cases hactor
      exact h.ownMount (hplace _ rfl)
  | request id' r =>
      cases hactor
      exact h.ownRequest r
  | unmount id' =>
      cases hactor
      exact h.ownUnmount
  | drop id' =>
      cases hactor
      exact ⟨rfl, h.ownLeft h.shown⟩

theorem stage?_eq (h : Alike own id p q) (st : Step) : p.stage? id st = q.stage? id st := by
  have hcontainer := congrArg (Option.map ToggleChart.container) h.seen
  rw [Option.map_map, Option.map_map] at hcontainer
  exact congrArg st.container?.or hcontainer

/-- After a step of its own the same is seen of the toggle chart. -/
theorem sighting_eq (h : Alike own id p q) {st : Step} (hactor : st.actor? = some id)
    (hplace : ∀ container, st.container? = some container → own container) :
    p.sighting id st = q.sighting id st := by
  obtain ⟨hreply, hnext⟩ := h.ownStep hactor hplace
  rw [sighting, sighting, hreply, hnext.seen, ← h.stage?_eq]
  refine congrArg (Sighting.mk _ _) ?_
  cases hstage : p.stage? id st with
  | none => rfl
  | some container =>
      refine hnext.shown container ?_
      rw [stage?, Option.or_eq_some_iff, Option.map_eq_some_iff] at hstage
      rcases hstage with hnamed | ⟨-, c, hc, rfl⟩
      · exact hplace container hnamed
      · exact (h.mine c hc).1

/-- The toggle chart is seen alike all along, if the others ask for nothing in
its containers. -/
theorem sightings_eq (h : Alike own id p q) {steps : List Step}
    (hplaces : ∀ st ∈ steps, ∀ container, st.container? = some container →
      (own container ↔ st.actor? = some id)) :
    sightings id p steps = sightings id q (steps.filter fun st => st.actor? = some id) := by
  induction steps generalizing p q with
  | nil => rfl
  | cons st rest ih =>
      have hplace := hplaces st (List.mem_cons_self ..)
      have hrest := fun st hst => hplaces st (List.mem_cons_of_mem _ hst)
      by_cases hactor : st.actor? = some id
      · have hin := fun container hc => (hplace container hc).mpr hactor
        rw [List.filter_cons_of_pos (by simpa using hactor), sightings, sightings,
          if_pos hactor, if_pos hactor, h.sighting_eq hactor hin,
          ih (h.ownStep hactor hin).2 hrest]
      · have hout := fun container hc hown => hactor ((hplace container hc).mp hown)
        rw [List.filter_cons_of_neg (by simpa using hactor), sightings, if_neg hactor,
          ih (h.otherStep hactor hout) hrest]

end Alike

/-- No container is asked for by two toggle charts, or by one and directly. -/
def Apart (steps : List Scene.Step) : Prop :=
  ∀ st ∈ steps, ∀ other ∈ steps, ∀ container,
    st.container? = some container → other.container? = some container →
      st.actor? = other.actor?

/-- Toggle charts in different containers do not interfere. However many they
are, and in whatever order they are mounted, clicked, activated and unmounted
over one store, each of them answers and looks, and has in its container,
after each of its steps what it would have if it had taken its steps alone,
over a store of its own. -/
theorem charts_apart_do_not_interfere (steps : List Scene.Step) (hapart : Apart steps) (id : Nat) :
    Scene.sightings id { state := {} } steps
      = Scene.sightings id { state := {} } (steps.filter fun st => st.actor? = some id) := by
  have halike := Alike.init
    (fun container => ∃ st ∈ steps, st.container? = some container ∧ st.actor? = some id) id
  refine halike.sightings_eq fun st hst container hcontainer => ⟨?_, fun hactor => ?_⟩
  · rintro ⟨other, hother, hsame, hactor⟩
    rw [hapart st hst other hother container hcontainer hsame, hactor]
  · exact ⟨st, hst, hcontainer, hactor⟩

/-- Two toggle charts take turns, and the first one goes in between. -/
def takingTurns : List Scene.Step :=
  [.mount 0 .threePoints, .mount 1 { Mounting.threePoints with container := "packages" },
    .request 0 .activate, .request 1 .activate, .unmount 0, .request 1 .activate]

theorem charts_taking_turns_do_not_interfere :
    Apart takingTurns ∧
    Scene.sightings 1 { state := {} } takingTurns
      = Scene.sightings 1 { state := {} }
        [.mount 1 { Mounting.threePoints with container := "packages" },
          .request 1 .activate, .request 1 .activate] := by
  have hapart : Apart takingTurns := by
    simp [Apart, takingTurns, Scene.Step.container?, Scene.Step.actor?, Mounting.threePoints]
  have hown : takingTurns.filter (fun st => st.actor? = some 1)
      = [.mount 1 { Mounting.threePoints with container := "packages" },
        .request 1 .activate, .request 1 .activate] := by
    simp [takingTurns, Scene.Step.actor?]
  refine ⟨hapart, ?_⟩
  rw [charts_apart_do_not_interfere takingTurns hapart 1, hown]

end Retained

end RankedBars
