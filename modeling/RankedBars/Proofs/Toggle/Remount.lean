import RankedBars.Backend.Retained
import RankedBars.Proofs.Toggle.Handlers

/-!
# A control that is mounted again

A control outlives the toggle charts that drive it: unmounting gives it back,
and it can be mounted again. Each mount issues its handlers from the first
one on, so the handlers of two mounts are not told apart by their numbers,
only by how many went before them.

`Remounted` is the history of a control up to the moment at which nobody
drives it, with the handlers of every mount. Since each of them is an initial
part of the one sequence, a click that was sent to an earlier mount is
dropped by a later one except in one state, the one in which that mount has
bound as many handlers as the other had when the click was sent. There it is
taken.
-/

namespace RankedBars

variable {σ : Type u} {η : Type v}

/-- A control was mounted, served and unmounted any number of times over one
backend, beginning with `b₀` and `s₀`. These are the handlers that it was
bound to, mount by mount. -/
inductive Remounted (B : Backend σ η) (b₀ : Button) (s₀ : σ) :
    Button → σ → List (List HandlerId) → Prop
  | new : Remounted B b₀ s₀ b₀ s₀ []
  | again {b b' : Button} {s s₁ s' : σ} {past : List (List HandlerId)} {m : Mounting}
      {requests : List ToggleChart.Request} {c : ToggleChart η}
      (before : Remounted B b₀ s₀ b s past) (given : m.control = some b)
      (ran : m.run B requests s = (some c, s₁))
      (back : c.unmount B s₁ = (.ok (some b'), s')) :
      Remounted B b₀ s₀ b' s' (past ++ [m.handlersBound B requests s])

namespace HandlerId

theorem issued_disjoint_iff {m n : Nat} :
    (issued m).Disjoint (issued n) ↔ issued m = [] ∨ issued n = [] := by
  constructor
  · intro h
    rcases m with _ | m
    · exact .inl rfl
    rcases n with _ | n
    · exact .inr rfl
    · have hfirst {k : Nat} : nth 0 ∈ issued (k + 1) :=
        List.mem_map_of_mem (List.mem_range.mpr k.succ_pos)
      exact absurd hfirst (h hfirst)
  · rintro (h | h)
    · rw [h]
      exact List.disjoint_nil_left _
    · rw [h]
      exact List.disjoint_nil_right _

/-- Every mount that binds a handler binds the first one. -/
theorem nodup_flatten_iff {mounts : List (List HandlerId)}
    (hissued : ∀ handlers ∈ mounts, ∃ n, handlers = issued n)
    (hfew : ∀ handlers ∈ mounts, handlers.length ≤ UInt64.size) :
    mounts.flatten.Nodup ↔
      mounts.Pairwise fun earlier later => earlier = [] ∨ later = [] := by
  have hnodup : ∀ handlers ∈ mounts, handlers.Nodup := by
    intro handlers hmem
    obtain ⟨n, rfl⟩ := hissued handlers hmem
    have hn := hfew _ hmem
    rw [length_issued] at hn
    exact nodup_issued hn
  rw [List.nodup_flatten, and_iff_right hnodup]
  refine List.Pairwise.iff_of_mem fun {earlier later} hearlier hlater => ?_
  obtain ⟨m, rfl⟩ := hissued earlier hearlier
  obtain ⟨n, rfl⟩ := hissued later hlater
  exact issued_disjoint_iff

end HandlerId

namespace ToggleChart

/-- A click on the handler that the control listens to is taken, even if it
fails. -/
theorem click_of_handler_eq (B : Backend σ η) {c : ToggleChart η} {handler : HandlerId}
    (h : c.handler = some handler) (event : ClickEvent) (s : σ) :
    (c.click B handler event s).result ≠ .ok false ∧
      (c.click B handler event s).event.prevented = true := by
  rcases click_cases B c handler event s with ⟨hne, -⟩ | ⟨-, e, s₁, -, heq⟩ |
    ⟨-, c₁, s₁, e, s₂, notices, -, -, heq⟩ | ⟨-, c₁, s₁, c₂, s₂, notices, -, -, heq⟩
  · exact absurd h hne
  · rw [heq]
    exact ⟨nofun, rfl⟩
  · rw [heq]
    exact ⟨nofun, rfl⟩
  · rw [heq]
    exact ⟨nofun, rfl⟩

end ToggleChart

namespace Remounted

open ToggleChart HandlerId

variable {B : Backend σ η} {b₀ b : Button} {s₀ s : σ} {past : List (List HandlerId)}

theorem issued (h : Remounted B b₀ s₀ b s past) :
    ∀ handlers ∈ past, ∃ n, handlers = HandlerId.issued n := by
  induction h with
  | new => exact nofun
  | again before given ran back ih =>
      intro handlers hmem
      rcases List.mem_append.mp hmem with hold | hlast
      · exact ih handlers hold
      · cases List.mem_singleton.mp hlast
        obtain ⟨n, hn, -⟩ := Mounting.handlersBound_of_run ran
        exact ⟨n, hn⟩

/-- Handlers start over with each mount. Over the whole history of a control
no handler comes back exactly if at most one of its mounts bound any. A click
on the handler that an earlier mount bound `i`-th is taken by a later one if
the handler that this has bound last is its `i`-th too, and is ignored
otherwise. -/
theorem handlers_start_over (h : Remounted B b₀ s₀ b s past) (m : Mounting)
    (requests : List Request) (s' : σ) (c : ToggleChart η)
    (ran : m.run B requests s = (some c, s'))
    (hfew : ∀ handlers ∈ past ++ [m.handlersBound B requests s],
      handlers.length ≤ UInt64.size) :
    ((past ++ [m.handlersBound B requests s]).flatten.Nodup ↔
      (past ++ [m.handlersBound B requests s]).Pairwise
        fun earlier later => earlier = [] ∨ later = []) ∧
    ∀ handlers ∈ past, ∀ i handler event, handlers[i]? = some handler →
      (i + 1 = (m.handlersBound B requests s).length →
        (c.click B handler event s').result ≠ .ok false ∧
        (c.click B handler event s').event.prevented = true) ∧
      (i + 1 ≠ (m.handlersBound B requests s).length →
        c.Ignores B s' (.click handler event)) := by
  obtain ⟨n, hnow, hissued⟩ := Mounting.handlersBound_of_run ran
  have hall : ∀ handlers ∈ past ++ [m.handlersBound B requests s],
      ∃ k, handlers = HandlerId.issued k := by
    intro handlers hmem
    rcases List.mem_append.mp hmem with hold | hlast
    · exact h.issued handlers hold
    · exact ⟨n, (List.mem_singleton.mp hlast).trans hnow⟩
  refine ⟨nodup_flatten_iff hall hfew, fun handlers hmem i handler event hi => ?_⟩
  obtain ⟨k, rfl⟩ := h.issued handlers hmem
  obtain ⟨hik, rfl⟩ := getElem?_issued.mp hi
  have hk := hfew _ (List.mem_append_left _ hmem)
  have hn := hfew _ (List.mem_append_right _ (List.mem_singleton_self _))
  rw [length_issued] at hk
  rw [hnow, length_issued] at hn ⊢
  have hlast : c.handler = some (nth i) ↔ i + 1 = n :=
    hissued.handler_eq_nth_iff hn (by omega)
  constructor
  · intro hsame
    exact click_of_handler_eq B (hlast.mpr hsame) event s'
  · intro hother
    refine ignores_of_handler_ne B s' ?_
    rintro other ⟨⟩ htaken
    exact hother (hlast.mp htaken)

/-- A control that was mounted once, and not clicked. -/
theorem once : Remounted Retained.backend {} {} ⟨"Show full chart", true, none, 1⟩
    { generated := 1 } [[.first]] := by
  have ran : Mounting.threePoints.run Retained.backend [] {} = (some _, _) := rfl
  exact .again (m := .threePoints) .new rfl ran rfl

/-- The same dataset with a control that has been mounted before. -/
def secondMount : Mounting :=
  { Mounting.threePoints with control := some ⟨"Show full chart", true, none, 1⟩ }

/-- The second mount has bound one handler more than the first did, and does
not take the click of the first. -/
theorem handlers_start_over_after_a_click :
    Remounted Retained.backend {} {} ⟨"Show full chart", true, none, 1⟩ { generated := 1 }
      [[.first]] ∧
    ∃ c s', secondMount.run Retained.backend [.activate] { generated := 1 } = (some c, s') ∧
      c.mode = .all ∧ c.Ignores Retained.backend s' (.click .first {}) := by
  have hposition := (once.handlers_start_over secondMount [.activate] _ _ rfl
    (by decide)).2 [.first] (List.mem_singleton_self _) 0 .first {} rfl
  exact ⟨once, _, _, rfl, rfl, hposition.2 (by decide)⟩

/-- A click that was sent before a control was unmounted is taken after it
was mounted again: its handler has come back. -/
theorem earlier_click_is_taken : ∃ c s',
    secondMount.run Retained.backend [] { generated := 1 } = (some c, s') ∧
    Remounted Retained.backend {} {} ⟨"Show full chart", true, none, 1⟩ { generated := 1 }
      [[.first]] ∧
    secondMount.handlersBound Retained.backend [] { generated := 1 } = [.first] ∧
    (c.click Retained.backend .first {} s').result = .ok true ∧
    c.mode = .topN ∧ (c.click Retained.backend .first {} s').chart.mode = .all :=
  ⟨_, _, rfl, once, rfl, rfl, rfl, rfl⟩

end Remounted

end RankedBars
