import RankedBars.Backend

/-!
# Charts that fail on demand

This backend draws nothing. It remembers which containers are live and writes
down every request with its outcome, and it fails where it was told to: the
generations with certain numbers, and the next few destructions. It shows what
the parts above it do when a backend fails.
-/

namespace RankedBars.Scripted

structure Store where
  /-- The numbers of the generations that fail. -/
  failGenerateAt : List Nat := []
  /-- How many of the next destructions fail. -/
  failDestroys : Nat := 0
  generated : Nat := 0
  live : List String := []
  /-- What was requested, in order. -/
  events : List String := []
deriving DecidableEq

structure Handle where
  container : String
deriving DecidableEq

namespace Store

def record (s : Store) (event : String) : Store := { s with events := s.events ++ [event] }

def generate (config : ChartConfig) (s : Store) : Except RenderError Handle × Store :=
  let container := config.container
  let s := { s with generated := s.generated + 1 }
  let event := "generate " ++ container ++ " " ++ toString config.barCount
  if s.failGenerateAt.contains s.generated then
    (.error (.drawing "backend unavailable"), s.record (event ++ " failed"))
  else if s.live.contains container then
    (.error (.containerBusy container), s.record (event ++ " busy"))
  else (.ok ⟨container⟩, { s with live := container :: s.live }.record event)

def destroy (handle : Handle) (s : Store) : Except RenderError Unit × Store :=
  let event := "destroy " ++ handle.container
  if 0 < s.failDestroys then
    (.error (.io (.other "chart file is locked")),
      { s with failDestroys := s.failDestroys - 1 }.record (event ++ " failed"))
  else (.ok (), { s with live := s.live.filter (· ≠ handle.container) }.record event)

end Store

def backend : Backend Store Handle where
  generate := Store.generate
  destroy := Store.destroy
  container := Handle.container

end RankedBars.Scripted
