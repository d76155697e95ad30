import Mathlib.Data.List.Nodup
import RankedBars.Proofs.Toggle.OnScreen

/-!
# The handlers of one mount

A toggle chart binds its control to one handler after the other, and a click
is taken only if it was sent to the last of them. So a click that was on its
way while the control was bound anew is dropped, provided that no handler
ever comes back.

Handlers are issued in order and every request issues one or none, whatever
the backend does: `Issued` says of a chart how many it has issued, and
`serve_chart_cases` that a request either leaves the control alone or takes
it one handler further. Hence what a mount binds is always an initial part
of one and the same sequence, `HandlerId.nth`. Numbers are words, so the
sequence comes round after `UInt64.size` handlers and not before.
-/

namespace RankedBars

variable {σ : Type u} {η : Type v}

namespace HandlerId

/-- The handler that a chart issues after `n` others. -/
def nth (n : Nat) : HandlerId := ⟨UInt64.ofNat (n + 1)⟩

/-- The handlers that a chart issues before the one after `n` others. -/
def issued (n : Nat) : List HandlerId := (List.range n).map nth

theorem next_nth (n : Nat) : (nth n).next = nth (n + 1) := by
  rw [next, nth, nth, UInt64.ofNat_add (n + 1) 1]
  rfl

theorem nth_inj {m n : Nat} (hm : m < UInt64.size) (hn : n < UInt64.size) (h : nth m = nth n) :
    m = n := by
  have hnumber := congrArg (fun id => id.number.toNat) h
  simp only [nth, UInt64.toNat_ofNat'] at hnumber
  rw [UInt64.size] at hm hn
  omega

@[simp] theorem length_issued (n : Nat) : (issued n).length = n := by
  rw [issued, List.length_map, List.length_range]

theorem issued_succ (n : Nat) : issued (n + 1) = issued n ++ [nth n] := by
  rw [issued, List.range_succ, List.map_append, issued]
  rfl

theorem getLast?_issued_succ (n : Nat) : (issued (n + 1)).getLast? = some (nth n) := by
  rw [issued_succ, List.getLast?_concat]

theorem getElem?_issued {n i : Nat} {handler : HandlerId} :
    (issued n)[i]? = some handler ↔ i < n ∧ nth i = handler := by
  simp [issued, List.getElem?_eq_some_iff]

theorem nodup_issued {n : Nat} (h : n ≤ UInt64.size) : (issued n).Nodup := by
  refine List.Nodup.map_on ?_ List.nodup_range
  intro i hi j hj heq
  rw [List.mem_range] at hi hj
  exact nth_inj (by omega) (by omega) heq

end HandlerId

namespace ToggleChart

/-- The handler that the control is bound to. -/
def boundTo (c : ToggleChart η) : Option HandlerId := c.control.bind Button.handler

/-- How often the control was bound to a handler, by this chart or before. -/
def rebinds (c : ToggleChart η) : Nat := c.control.elim 0 Button.rebinds

/-- The handler that a request leaves the control newly bound to, if any. -/
def Visit.rebound (B : Backend σ η) (v : Visit σ η) : Option HandlerId :=
  if (v.served B).chart.rebinds = v.chart.rebinds then none
  else (v.served B).chart.boundTo

end ToggleChart

/-- The handlers that a control is bound to in the course of a run: one, it
may be, when the chart is mounted, and then some by requests. -/
def Mounting.handlersBound (B : Backend σ η) (m : Mounting)
    (requests : List ToggleChart.Request) (s : σ) : List HandlerId :=
  match m.mount B s with
  | (.error _, _) => []
  | (.ok c, s, _) =>
      c.boundTo.toList ++ (c.visits B s requests).filterMap fun v => v.rebound B

namespace ToggleChart

open HandlerId

/-! ## What a request does to the control -/

theorem advance_withHandle (c : ToggleChart η) (handle : Option η) :
    ({ c with handle } : ToggleChart η).advance = { c.advance with handle } := by
  obtain ⟨r, d, n, control, o, mode, _, handler, next⟩ := c
  cases control <;> rfl

/-- Apart from the live chart a request changes nothing, or it takes the chart
to its other mode. Clicks that fail in generating belong to the latter. -/
theorem serve_chart_cases (B : Backend σ η) (c : ToggleChart η) (s : σ) (r : Request) :
    (∃ handle, (c.serve B s r).chart = { c with handle }) ∨
    (c.handler.isSome = true ∧
      ∃ handle, (c.serve B s r).chart = { c.advance with handle }) := by
  rw [serve_eq]
  cases hr : r.handler? c with
  | none => exact .inl ⟨c.handle, rfl⟩
  | some handler =>
      have past {c₁ s₁} (hrel : c.release B s = (.ok c₁, s₁)) :
          c₁.advance = { c.advance with handle := none } := by
        rw [(release_ok hrel).1, advance_withHandle]
      rcases click_cases B c handler r.event s with ⟨-, heq⟩ | ⟨-, e, s', -, heq⟩ |
        ⟨hh, c₁, s₁, e, s', n, hrel, -, heq⟩ | ⟨hh, c₁, s₁, c', s', n, hrel, hdraw, heq⟩
      · exact .inl ⟨c.handle, by simp only [heq]⟩
      · exact .inl ⟨c.handle, by simp only [heq]⟩
      · refine .inr ⟨by rw [hh]; rfl, none, ?_⟩
        simp only [heq]
        exact past hrel
      · obtain ⟨⟨handle, rfl⟩, -⟩ := draw_ok (handle_advance_of_release_ok hrel) hdraw
        refine .inr ⟨by rw [hh]; rfl, some handle, ?_⟩
        simp only [heq, past hrel]

/-- A chart that has issued `n` handlers since its control had been bound
`base` times. It listens to the last of them, and so does its control. -/
structure Issued (c : ToggleChart η) (base n : Nat) : Prop where
  next : c.nextHandler = nth n
  bound : c.boundTo = c.handler
  current : c.handler = (issued n).getLast?
  count : c.rebinds = base + n

namespace Issued

variable {B : Backend σ η} {c : ToggleChart η} {s : σ} {base n : Nat}

theorem withHandle (h : Issued c base n) (handle : Option η) :
    Issued { c with handle } base n := ⟨h.next, h.bound, h.current, h.count⟩

theorem advance (h : Issued c base n) (hlistening : c.handler.isSome = true) :
    Issued c.advance base (n + 1) := by
  obtain ⟨b, hb⟩ : ∃ b, c.control = some b := by
    rw [← h.bound, boundTo] at hlistening
    cases hc : c.control with
    | none =>
        rw [hc] at hlistening
        cases hlistening
    | some b => exact ⟨b, rfl⟩
  have hcount : b.rebinds = base + n := by rw [← h.count, rebinds, hb]; rfl
  rw [advance_of_control_eq_some hb]
  constructor
  case next => rw [h.next, next_nth]
  case bound => rfl
  case current => rw [h.next, getLast?_issued_succ]
  case count => exact congrArg (· + 1) hcount

/-- A request issues the next handler or none. -/
theorem serve (h : Issued c base n) (B : Backend σ η) (s : σ) (r : Request) :
    ((⟨c, s, r⟩ : Visit σ η).rebound B = none ∧
      Issued (c.serve B s r).chart base n) ∨
    ((⟨c, s, r⟩ : Visit σ η).rebound B = some (nth n) ∧
      Issued (c.serve B s r).chart base (n + 1)) := by
  have hrebound : (⟨c, s, r⟩ : Visit σ η).rebound B
      = if (c.serve B s r).chart.rebinds = c.rebinds then none
        else (c.serve B s r).chart.boundTo := rfl
  rcases serve_chart_cases B c s r with ⟨handle, heq⟩ | ⟨hlistening, handle, heq⟩
  · rw [hrebound, heq]
    exact .inl ⟨if_pos rfl, h.withHandle handle⟩
  · have hnext := (h.advance hlistening).withHandle handle
    have hmore : base + (n + 1) ≠ base + n := by omega
    rw [hrebound, heq, hnext.count, h.count, if_neg hmore, hnext.bound, hnext.current]
    exact .inr ⟨getLast?_issued_succ n, hnext⟩

/-- The control listens to the last handler only, whatever its number. -/
theorem handler_eq_nth_iff (h : Issued c base n) (hn : n ≤ UInt64.size) {i : Nat}
    (hi : i < UInt64.size) : c.handler = some (nth i) ↔ i + 1 = n := by
  rw [h.current]
  cases n with
  | zero => exact iff_of_false nofun nofun
  | succ n =>
      rw [getLast?_issued_succ, Option.some_inj, Nat.add_right_cancel_iff]
      exact ⟨fun heq => (nth_inj hn hi heq).symm, fun heq => congrArg nth heq.symm⟩

/-- Requests go on where the mount stopped. -/
theorem serveAll (h : Issued c base n) (B : Backend σ η) (s : σ)
    (requests : List Request) : ∃ k,
      issued n ++ (c.visits B s requests).filterMap (fun v => v.rebound B) = issued k ∧
        Issued (c.serveAll B s requests).1 base k := by
  induction requests generalizing c s n with
  | nil => exact ⟨n, List.append_nil _, h⟩
  | cons r rest ih =>
      rw [visits, ToggleChart.serveAll]
      rcases h.serve B s r with ⟨hrebound, hserved⟩ | ⟨hrebound, hserved⟩
      · rw [List.filterMap_cons_none hrebound]
        exact ih hserved _
      · rw [List.filterMap_cons_some hrebound, List.append_cons, ← issued_succ]
        exact ih hserved _

end Issued

theorem serveAll_append (B : Backend σ η) (c : ToggleChart η) (s : σ)
    (earlier later : List Request) :
    c.serveAll B s (earlier ++ later)
      = (c.serveAll B s earlier).1.serveAll B (c.serveAll B s earlier).2 later := by
  induction earlier generalizing c s with
  | nil => rfl
  | cons r rest ih => exact ih ..

theorem visits_append (B : Backend σ η) (c : ToggleChart η) (s : σ)
    (earlier later : List Request) :
    c.visits B s (earlier ++ later) = c.visits B s earlier
      ++ (c.serveAll B s earlier).1.visits B (c.serveAll B s earlier).2 later := by
  induction earlier generalizing c s with
  | nil => rfl
  | cons r rest ih => exact congrArg (_ :: ·) (ih ..)

end ToggleChart

namespace Mounting

open ToggleChart HandlerId

variable {B : Backend σ η} {m : Mounting} {requests : List Request} {s s' : σ}
  {c : ToggleChart η}

theorem run_append (h : m.run B requests s = (some c, s')) (later : List Request) :
    m.run B (requests ++ later) s
      = (some (c.serveAll B s' later).1, (c.serveAll B s' later).2) := by
  obtain ⟨c₀, s₀, notices, hmount, hserve⟩ := run_eq_some h
  simp only [run, hmount, serveAll_append, hserve]

theorem length_handlersBound_le (B : Backend σ η) (m : Mounting)
    (earlier later : List Request) (s : σ) :
    (m.handlersBound B earlier s).length
      ≤ (m.handlersBound B (earlier ++ later) s).length := by
  rcases hm : m.mount B s with ⟨e | c, s₀, notices⟩
  · simp only [handlersBound, hm]
    exact Nat.le_refl _
  · simp only [handlersBound, hm, visits_append, List.filterMap_append, List.length_append]
    omega

/-- A chart is mounted with the first handler, or with none if there is
nothing to click or nothing to show. -/
theorem issued_dressed (m : Mounting) (handle : Option η) : ∃ n,
    (m.holding handle).dressed.boundTo.toList = issued n ∧
      Issued (m.holding handle).dressed (m.control.elim 0 Button.rebinds) n := by
  rw [dressed]
  split
  · cases hcontrol : m.control with
    | none =>
        have hblank : (m.holding handle).control = none := hcontrol
        have hbound : (m.holding handle).boundTo = none := by rw [boundTo, hblank]; rfl
        rw [offer_of_control_eq_none hblank, hbound]
        refine ⟨0, rfl, rfl, hbound, rfl, ?_⟩
        rw [rebinds, hblank]
        rfl
    | some b =>
        have hblank : (m.holding handle).control = some b := hcontrol
        rw [offer_of_control_eq_some hblank]
        exact ⟨1, rfl, rfl, rfl, rfl, rfl⟩
  · have hbound : (m.holding handle).hideControl.boundTo = none := by
      rw [boundTo, hideControl, holding, blank]
      cases m.control <;> rfl
    rw [hbound]
    refine ⟨0, rfl, rfl, hbound, rfl, ?_⟩
    rw [rebinds, hideControl, holding, blank]
    cases m.control <;> rfl

/-- What a run binds are the first handlers of the sequence. -/
theorem handlersBound_of_run (h : m.run B requests s = (some c, s')) : ∃ n,
    m.handlersBound B requests s = issued n ∧
      Issued c (m.control.elim 0 Button.rebinds) n := by
  obtain ⟨c₀, s₀, notices, hmount, hserve⟩ := run_eq_some h
  obtain ⟨handle, rfl, -, -⟩ := mount_ok hmount
  obtain ⟨k, hfirst, hissued⟩ := issued_dressed m handle
  obtain ⟨n, hall, hserved⟩ := hissued.serveAll B s₀ requests
  rw [hserve] at hserved
  refine ⟨n, ?_, hserved⟩
  simp only [handlersBound, hmount]
  rw [hfirst, hall]

/-- One more request is written down behind the others. -/
theorem journal_concat {c' : ToggleChart (GeneratedChart η)} {p : σ × Journal η}
    (hrec : m.run B.recorded requests (s, []) = (some c', p)) (r : Request) :
    m.journal B (requests ++ [r]) s = (c'.serve B.recorded p r).state.2 := by
  rw [journal, run_append hrec]
  rfl

/-- A request that is ignored does not reach the backend. -/
theorem journal_of_ignored (h : m.run B requests s = (some c, s')) {r : Request}
    (hr : ∀ handler, r.handler? c = some handler → c.handler ≠ some handler) :
    m.journal B (requests ++ [r]) s = m.journal B requests s := by
  obtain ⟨c', hrec, rfl⟩ := exists_recorded_run h
  have htarget : r.handler? (c'.mapHandle GeneratedChart.handle) = r.handler? c' := by
    cases r <;> rfl
  rw [htarget] at hr
  have hignored := ignores_of_handler_ne B.recorded (s', m.journal B requests s) hr
  rw [journal_concat hrec, hignored.state]

/-- No click is taken that was meant for a handler which has been replaced.
In the course of a run the control is bound to pairwise different handlers,
as many as it counts itself, and the last one is the one it is bound to. A
handler that was replaced is not bound in any later state, and a click on
any handler but the bound one is answered with no, reaches no backend and
leaves everything as it was. -/
theorem replaced_handlers_stay_stale (B : Backend σ η) (m : Mounting)
    (requests : List Request) (s s' : σ) (c : ToggleChart η)
    (h : m.run B requests s = (some c, s'))
    (hfew : (m.handlersBound B requests s).length ≤ UInt64.size) :
    (m.handlersBound B requests s).Nodup ∧
    c.rebinds = m.control.elim 0 Button.rebinds
      + (m.handlersBound B requests s).length ∧
    (m.handlersBound B requests s).getLast? = c.boundTo ∧
    (∀ earlier later c₀ s₀, requests = earlier ++ later →
      m.run B earlier s = (some c₀, s₀) →
      ∀ handler ∈ m.handlersBound B earlier s, c₀.boundTo ≠ some handler →
        c.boundTo ≠ some handler) ∧
    ∀ handler event, c.boundTo ≠ some handler →
      c.Ignores B s' (.click handler event) ∧
      m.journal B (requests ++ [.click handler event]) s = m.journal B requests s := by
  obtain ⟨n, hall, hissued⟩ := handlersBound_of_run h
  rw [hall, length_issued] at hfew
  refine ⟨?_, ?_, ?_, ?_, ?_⟩
  · rw [hall]
    exact nodup_issued hfew
  · rw [hall, length_issued]
    exact hissued.count
  · rw [hall, hissued.bound, hissued.current]
  · intro earlier later c₀ s₀ hsplit h₀ handler hmem hreplaced hbound
    subst hsplit
    obtain ⟨k, hfirst, hissued₀⟩ := handlersBound_of_run h₀
    have hle := length_handlersBound_le B m earlier later s
    rw [hfirst, hall, length_issued, length_issued] at hle
    rw [hfirst] at hmem
    obtain ⟨i, hi⟩ := List.mem_iff_getElem?.mp hmem
    obtain ⟨hik, rfl⟩ := getElem?_issued.mp hi
    have hword : i < UInt64.size := by omega
    rw [hissued₀.bound, ne_eq, hissued₀.handler_eq_nth_iff (by omega) hword] at hreplaced
    rw [hissued.bound, hissued.handler_eq_nth_iff hfew hword] at hbound
    -- What is not the last of the first `k` handlers is not the last of any
    -- more.
    omega
  · intro handler event hne
    rw [hissued.bound] at hne
    have hstale : ∀ other, (Request.click handler event).handler? c = some other →
        c.handler ≠ some other := by
      rintro other ⟨⟩
      exact hne
    exact ⟨ignores_of_handler_ne B s' hstale, journal_of_ignored h hstale⟩

/-- A click that failed in generating has moved the control on all the same,
so that neither its own handler nor the one before it is listened to. -/
theorem replaced_handlers_stay_stale_after_refusal :
    ∃ c s', threePoints.run Scripted.backend [.activate, .activate]
        { failGenerateAt := [2] } = (some c, s') ∧
      threePoints.handlersBound Scripted.backend [.activate, .activate]
        { failGenerateAt := [2] } = [⟨1⟩, ⟨2⟩, ⟨3⟩] ∧ c.boundTo = some ⟨3⟩ ∧
      c.Ignores Scripted.backend s' (.click ⟨1⟩ {}) ∧
      c.Ignores Scripted.backend s' (.click ⟨2⟩ {}) := by
  obtain ⟨-, -, -, -, hstale⟩ := replaced_handlers_stay_stale Scripted.backend threePoints
    [.activate, .activate] { failGenerateAt := [2] } _ _ rfl (by decide)
  exact ⟨_, _, rfl, rfl, rfl, (hstale ⟨1⟩ {} (by decide)).1, (hstale ⟨2⟩ {} (by decide)).1⟩

end Mounting

end RankedBars
