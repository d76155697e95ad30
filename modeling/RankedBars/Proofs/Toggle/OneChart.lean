import Mathlib.Data.List.Chain
import RankedBars.Proofs.Backend.Projection

/-!
# One chart at a time

A toggle chart never has two charts, however its backend fails. The statement
is about the calls that reach the backend, so it is read off the journal of a
run, and it goes in two steps.

`Solo` is the grammar of the journals that the owner of at most one chart
writes: a chart is asked for only when there is none, and destroyed, or kept
when that fails, only when there is one. `Solo.oneAtATime` draws from the
grammar all that is said about such journals, by induction on how they were
written, and no toggle chart is mentioned there.

`Accounts.move` is the other half, that whatever a toggle chart does it
writes such a journal, and it has one case for each kind of move. It carries
along that the chart on show was accepted with the configuration that the
toggle chart has now, which is why a chart can change its mode only between
two charts.
-/

namespace RankedBars

open ToggleChart

variable {σ : Type u} {η : Type v}

namespace Journal

/-- Of each call that succeeded, whether it was a generation. -/
def successes (j : Journal η) : List Bool :=
  (j.filter BackendCall.succeeded).map BackendCall.isGenerate

theorem successes_concat_of_succeeded {j : Journal η} {call : BackendCall η}
    (h : call.succeeded = true) :
    successes (j ++ [call]) = j.successes ++ [call.isGenerate] := by
  rw [successes, List.filter_append, List.filter_cons_of_pos h, List.map_append]
  rfl

theorem successes_concat_of_failed {j : Journal η} {call : BackendCall η}
    (h : call.succeeded = false) : successes (j ++ [call]) = j.successes := by
  have hneg : ¬ call.succeeded = true := by rw [h]; exact Bool.false_ne_true
  rw [successes, List.filter_append, List.filter_cons_of_neg hneg, List.filter_nil,
    List.append_nil, successes]

/-- The calls of a journal never make a second chart out of one, nor destroy
one twice. -/
structure OneAtATime (j : Journal η) : Prop where
  /-- A chart is asked for, with success or without, only when none is live. -/
  free : ∀ before call, before ++ [call] <+: j → call.isGenerate = true →
    Journal.live before = []
  /-- It is the live chart that is destroyed, or kept when that fails. -/
  held : ∀ before call, before ++ [call] <+: j → call.isGenerate = false →
    ∃ chart, Journal.live before = [chart] ∧
      (call = .destroyed chart ∨ ∃ cause, call = .kept chart cause)
  /-- Charts are generated and destroyed in turn. -/
  alternating : j.successes.IsChain (· ≠ ·)
  /-- What succeeds first is a generation. -/
  starting : ∀ success ∈ j.successes.head?, success = true
  /-- No chart is destroyed twice. -/
  once : (j.destroyed.map (·.number)).Nodup

/-- The journals of an owner of at most one chart, with the chart that is
live in the end. -/
inductive Solo : Journal η → Option (GeneratedChart η) → Prop
  | nil : Solo [] none
  | generated {j : Journal η} {chart : GeneratedChart η} (h : Solo j none)
      (next : chart.number = j.generated.length + 1) :
      Solo (j ++ [.generated chart]) (some chart)
  | refused {j : Journal η} (h : Solo j none) (config : ChartConfig)
      (cause : RenderError) : Solo (j ++ [.refused config cause]) none
  | destroyed {j : Journal η} {chart : GeneratedChart η}
      (h : Solo j (some chart)) : Solo (j ++ [.destroyed chart]) none
  | kept {j : Journal η} {chart : GeneratedChart η} (h : Solo j (some chart))
      (cause : RenderError) : Solo (j ++ [.kept chart cause]) (some chart)

namespace Solo

variable {j : Journal η} {chart? : Option (GeneratedChart η)}

/-- The numbers are in order, and the live chart is the one that is said to
be. Neither goes without the other: a chart is known to the journal because
it is live, and live because its number is new. -/
theorem numbered_live (h : Solo j chart?) : j.Numbered ∧ j.live = chart?.toList := by
  induction h with
  | nil => exact ⟨.nil, rfl⟩
  | generated _ next ih =>
      refine ⟨ih.1.generated next, ?_⟩
      rw [ih.1.live_generated next, ih.2]
      rfl
  | refused _ config cause ih =>
      exact ⟨ih.1.refused config cause, by rw [live_refused, ih.2]⟩
  | @destroyed j chart _ ih =>
      have hmem : chart ∈ j.live := by rw [ih.2]; exact List.mem_singleton_self _
      refine ⟨ih.1.destroyed (mem_live.mp hmem).1, ?_⟩
      rw [live_destroyed, ih.2]
      simp
  | kept _ cause ih => exact ⟨ih.1.kept _ cause, by rw [live_kept, ih.2]⟩

theorem live_eq (h : Solo j chart?) : j.live = chart?.toList := h.numbered_live.2

/-- A chart is live exactly if the last success was a generation, a journal
without successes counting as one that ends with a destruction. -/
theorem chain_successes (h : Solo j chart?) :
    (false :: j.successes).IsChain (· ≠ ·) ∧
      (false :: j.successes).getLast? = some chart?.isSome := by
  have extend {l : List Bool} {a b : Bool} (hl : l.IsChain (· ≠ ·))
      (hlast : l.getLast? = some a) (hab : a ≠ b) :
      (l ++ [b]).IsChain (· ≠ ·) ∧ (l ++ [b]).getLast? = some b := by
    refine ⟨List.isChain_append.mpr ⟨hl, .singleton b, ?_⟩, List.getLast?_concat⟩
    intro x hx y hy
    rw [hlast] at hx
    cases hx
    cases hy
    exact hab
  induction h with
  | nil => exact ⟨.singleton _, rfl⟩
  | generated _ _ ih =>
      rw [successes_concat_of_succeeded rfl, ← List.cons_append]
      exact extend ih.1 ih.2 Bool.false_ne_true
  | refused _ config cause ih =>
      rw [successes_concat_of_failed rfl]
      exact ih
  | destroyed _ ih =>
      rw [successes_concat_of_succeeded rfl, ← List.cons_append]
      exact extend ih.1 ih.2 Bool.false_ne_true.symm
  | kept _ cause ih =>
      rw [successes_concat_of_failed rfl]
      exact ih

/-- What holds of a call and of the calls before it, for each call of a
journal, is found out by looking at the last one. -/
private theorem forall_calls_concat {P : Journal η → BackendCall η → Prop}
    {last : BackendCall η} (hlast : P j last)
    (h : ∀ before call, before ++ [call] <+: j → P before call) :
    ∀ before call, before ++ [call] <+: j ++ [last] → P before call := by
  intro before call hprefix
  rcases List.prefix_concat_iff.mp hprefix with heq | hprefix
  · obtain ⟨hbefore, hcall⟩ := List.append_inj' heq rfl
    cases hbefore
    cases hcall
    exact hlast
  · exact h before call hprefix

theorem free (h : Solo j chart?) : ∀ before call, before ++ [call] <+: j →
    call.isGenerate = true → live before = [] := by
  induction h with
  | nil =>
      intro before call hprefix
      simp at hprefix
  | generated h _ ih => exact forall_calls_concat (fun _ => h.live_eq) ih
  | refused h config cause ih => exact forall_calls_concat (fun _ => h.live_eq) ih
  | destroyed h ih => exact forall_calls_concat nofun ih
  | kept h cause ih => exact forall_calls_concat nofun ih

theorem held (h : Solo j chart?) : ∀ before call, before ++ [call] <+: j →
    call.isGenerate = false → ∃ chart, live before = [chart] ∧
      (call = .destroyed chart ∨ ∃ cause, call = .kept chart cause) := by
  induction h with
  | nil =>
      intro before call hprefix
      simp at hprefix
  | generated h _ ih => exact forall_calls_concat nofun ih
  | refused h config cause ih => exact forall_calls_concat nofun ih
  | destroyed h ih =>
      exact forall_calls_concat (fun _ => ⟨_, h.live_eq, .inl rfl⟩) ih
  | kept h cause ih =>
      exact forall_calls_concat (fun _ => ⟨_, h.live_eq, .inr ⟨cause, rfl⟩⟩) ih

theorem nodup_destroyed (h : Solo j chart?) :
    (j.destroyed.map (·.number)).Nodup := by
  induction h with
  | nil => exact .nil
  | generated _ _ ih => simpa using ih
  | refused _ config cause ih => simpa using ih
  | @destroyed j chart h ih =>
      have hmem : chart ∈ j.live := by rw [h.live_eq]; exact List.mem_singleton_self _
      rw [destroyed_concat, List.map_append]
      exact ih.append (List.nodup_singleton _)
        (List.disjoint_singleton.mpr (mem_live.mp hmem).2)
  | kept _ cause ih => simpa using ih

theorem oneAtATime (h : Solo j chart?) : j.OneAtATime := by
  obtain ⟨hfirst, hchain⟩ := List.isChain_cons.mp h.chain_successes.1
  refine ⟨h.free, h.held, hchain, fun success hmem => ?_, h.nodup_destroyed⟩
  have hne := hfirst success hmem
  cases success with
  | false => exact absurd rfl hne
  | true => rfl

end Solo

end Journal

/-! ## What a toggle chart writes -/

namespace ToggleChart

/-- A journal that accounts for the chart on show: it is the one live chart,
and it was accepted with the configuration that the toggle chart has. -/
structure Accounts (c : ToggleChart (GeneratedChart η)) (j : Journal η) : Prop where
  solo : j.Solo c.handle
  config : ∀ chart, c.handle = some chart → chart.config = c.config

theorem Accounts.move {B : Backend σ η}
    {p q : ToggleChart (GeneratedChart η) × (σ × Journal η)}
    (hmove : Move B.recorded p q) (h : Accounts p.1 p.2.2) : Accounts q.1 q.2.2 := by
  cases hmove with
  | destroyed held call =>
      refine ⟨?_, fun _ h => nomatch h⟩
      rw [(Backend.recorded_destroy_ok call).2]
      exact .destroyed (held ▸ h.solo)
  | kept held call =>
      refine ⟨?_, h.config⟩
      rw [(Backend.recorded_destroy_error call).2, held]
      exact .kept (held ▸ h.solo) _
  | advanced free =>
      -- Only the configuration changes, and no chart has to agree with it.
      constructor
      · rw [handle_advance]
        exact h.solo
      · intro chart hchart
        rw [handle_advance, free] at hchart
        cases hchart
  | generated free call =>
      obtain ⟨hnumber, hconfig, -, hj⟩ := Backend.recorded_generate_ok call
      constructor
      · rw [hj]
        exact .generated (free ▸ h.solo) hnumber
      · intro chart hchart
        cases hchart
        exact hconfig
  | refused free call =>
      refine ⟨?_, h.config⟩
      rw [(Backend.recorded_generate_error call).2, free]
      exact .refused (free ▸ h.solo) _ _

theorem Accounts.moves {B : Backend σ η}
    {p q : ToggleChart (GeneratedChart η) × (σ × Journal η)}
    (hmoves : Moves B.recorded p q) (h : Accounts p.1 p.2.2) : Accounts q.1 q.2.2 :=
  hmoves.preserve (P := fun p => Accounts p.1 p.2.2) Accounts.move h

theorem Accounts.dressed {c : ToggleChart (GeneratedChart η)} {j : Journal η}
    (h : Accounts c j) : Accounts c.dressed j :=
  ⟨by rw [handle_dressed]; exact h.solo,
    by rw [handle_dressed, config_dressed]; exact h.config⟩

end ToggleChart

namespace Mounting

/-- The calls of a run that reach the backend. -/
def journal (B : Backend σ η) (m : Mounting) (requests : List Request) (s : σ) :
    Journal η :=
  (m.run B.recorded requests (s, [])).2.2

/-- The calls of a run that ends with unmounting the chart, if there is one. -/
def closedJournal (B : Backend σ η) (m : Mounting) (requests : List Request) (s : σ) :
    Journal η :=
  match m.run B.recorded requests (s, []) with
  | (none, _, j) => j
  | (some c, s) => (c.unmount B.recorded s).2.2

/-- A run over the backend that keeps a journal, for every run. -/
theorem exists_recorded_run {B : Backend σ η} {m : Mounting} {requests : List Request} {s s' : σ}
    {c : ToggleChart η} (h : m.run B requests s = (some c, s')) :
    ∃ c', m.run B.recorded requests (s, []) = (some c', s', m.journal B requests s) ∧
      c = c'.mapHandle GeneratedChart.handle := by
  have hrun := run_map B.recorded_projects m requests (s, [])
  rcases hr : m.run B.recorded requests (s, []) with ⟨_ | c', s''⟩
  · rw [hr] at hrun
    cases hrun.symm.trans h
  · rw [hr] at hrun
    cases hrun.symm.trans h
    refine ⟨c', ?_, rfl⟩
    rw [journal, hr]

variable {B : Backend σ η} {m : Mounting} {requests : List Request} {s : σ}
  {s' : σ × Journal η} {c : ToggleChart (GeneratedChart η)}

theorem accounts_blank : Accounts (m.blank : ToggleChart (GeneratedChart η)) [] :=
  ⟨.nil, fun _ h => nomatch h⟩

theorem accounts_of_run (h : m.run B.recorded requests (s, []) = (some c, s')) :
    Accounts c s'.2 := by
  obtain ⟨handle, s₀, hmounted, hserved⟩ := moves_of_run h
  exact (accounts_blank.moves hmounted).dressed.moves hserved

/-- If a chart could not be mounted, nothing is left of the attempt. -/
theorem solo_of_run_eq_none (h : m.run B.recorded requests (s, []) = (none, s')) :
    s'.2.Solo none := by
  obtain ⟨e, notices, hmount⟩ := run_eq_none h
  exact (accounts_blank.moves (mount_error hmount)).solo

/-- Unmounting ends with a journal of the same kind, and with no live chart
unless it fails. -/
theorem solo_unmount (h : Accounts c s'.2) :
    ∃ chart?, (c.unmount B.recorded s').2.2.Solo chart? ∧
      ((c.unmount B.recorded s').1.isOk → chart? = none) := by
  obtain ⟨c₁, hmoves, hfree⟩ := moves_unmount B.recorded c s'
  exact ⟨c₁.handle, (h.moves hmoves).solo, hfree⟩

/-- One chart at a time, whatever the backend does. In every run of a toggle
chart the calls that reach the backend are those of an owner of one chart,
before unmounting and after it. Once the requests are served there is one
live chart or none, as the toggle chart says, and none at all if it could
not be mounted. Nothing is live after it was unmounted with success, and
with an empty dataset the backend is never called. -/
theorem one_chart_at_a_time (B : Backend σ η) (m : Mounting)
    (requests : List Request) (s : σ) :
    (m.journal B requests s).OneAtATime ∧
    (m.closedJournal B requests s).OneAtATime ∧
    (m.journal B requests s).live.length
      = ((m.run B requests s).1.any isLive).toNat ∧
    (∀ c, (m.run B requests s).1 = some c →
      (c.unmount B (m.run B requests s).2).1.isOk →
      (m.closedJournal B requests s).live = []) ∧
    (m.dataset = [] →
      m.journal B requests s = [] ∧ m.closedJournal B requests s = []) := by
  have hrun := run_map B.recorded_projects m requests (s, [])
  rcases hr : m.run B.recorded requests (s, []) with ⟨_ | c, s'⟩
  · have hsolo := solo_of_run_eq_none hr
    rw [hr] at hrun
    have hrun : m.run B requests s = (none, s'.1) := hrun
    have hj : m.journal B requests s = s'.2 := by rw [journal, hr]
    have hcj : m.closedJournal B requests s = s'.2 := by rw [closedJournal, hr]
    rw [hj, hcj, hrun]
    refine ⟨hsolo.oneAtATime, hsolo.oneAtATime, ?_, ?_, fun hd => ?_⟩
    · rw [hsolo.live_eq]
      rfl
    · intro c hc
      cases hc
    · cases (run_of_dataset_eq_nil B.recorded requests (s, []) hd).symm.trans hr
  · have hacc := accounts_of_run hr
    obtain ⟨chart?, hsolo, hfree⟩ := solo_unmount (B := B) hacc
    rw [hr] at hrun
    have hrun : m.run B requests s = (some (c.mapHandle GeneratedChart.handle), s'.1) :=
      hrun
    have hj : m.journal B requests s = s'.2 := by rw [journal, hr]
    have hcj : m.closedJournal B requests s = (c.unmount B.recorded s').2.2 := by
      rw [closedJournal, hr]
    have hunmount := unmount_mapHandle B.recorded_projects c s'
    rw [hj, hcj, hrun]
    refine ⟨hacc.solo.oneAtATime, hsolo.oneAtATime, ?_, ?_, ?_⟩
    · rw [hacc.solo.live_eq, Option.any_some, isLive_mapHandle, isLive]
      cases c.handle <;> rfl
    · intro c₁ hc₁ hok
      cases hc₁
      rw [hunmount] at hok
      rw [hsolo.live_eq, hfree hok]
      rfl
    · intro hd
      cases (run_of_dataset_eq_nil B.recorded requests (s, []) hd).symm.trans hr
      exact ⟨rfl, rfl⟩

end Mounting

end RankedBars
