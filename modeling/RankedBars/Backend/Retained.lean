import RankedBars.Backend

/-!
# Charts kept in memory

This backend keeps the configuration of the live chart of each container, for
hosts that paint it whenever they like. Charts are numbered as they are
generated, and a handle destroys only the chart of its own number: destroying it
late, after the container was given to another chart, does nothing.
-/

namespace RankedBars.Retained

structure Slot where
  container : String
  instanceNumber : Nat
  config : ChartConfig
deriving DecidableEq

structure Store where
  live : List Slot := []
  generated : Nat := 0
deriving DecidableEq

structure Handle where
  container : String
  instanceNumber : Nat
deriving DecidableEq

namespace Store

def slot? (s : Store) (container : String) : Option Slot :=
  s.live.find? fun slot => slot.container = container

/-- The live chart of a container. -/
def chart? (s : Store) (container : String) : Option ChartConfig :=
  (s.slot? container).map (·.config)

def liveCount (s : Store) : Nat := s.live.length

def generate (config : ChartConfig) (s : Store) : Except RenderError Handle × Store :=
  if (s.slot? config.container).isSome then (.error (.containerBusy config.container), s)
  else
    let number := s.generated + 1
    (.ok ⟨config.container, number⟩, ⟨⟨config.container, number, config⟩ :: s.live, number⟩)

/-- Removes the chart of a handle, if it is still the one in its container. -/
def destroy (handle : Handle) (s : Store) : Except RenderError Unit × Store :=
  (.ok (), { s with
    live := s.live.filter fun slot =>
      slot.container ≠ handle.container || slot.instanceNumber ≠ handle.instanceNumber })

theorem container_of_slot?_eq_some {s : Store} {container : String} {slot : Slot}
    (h : s.slot? container = some slot) : slot.container = container := by
  have hfound := List.find?_some h
  exact of_decide_eq_true hfound

theorem generate_of_isSome {s : Store} {config : ChartConfig}
    (h : (s.slot? config.container).isSome) :
    generate config s = (.error (.containerBusy config.container), s) := if_pos h

end Store

def backend : Backend Store Handle where
  generate := Store.generate
  destroy := Store.destroy
  container := Handle.container

end RankedBars.Retained
