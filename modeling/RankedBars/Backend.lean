import RankedBars.Chart.Renderer
import RankedBars.FileTree
import RankedBars.Notice
import RankedBars.Text.Quoted

/-!
# Charting backends

A backend turns a chart configuration into a live chart and gives back a handle,
with which the chart can be destroyed again. Either may fail, and neither
failure is repaired here: whoever holds the handle decides what becomes of it. A
backend is two functions on a state, so that what happened can be read off the
state alone.
-/

namespace RankedBars

/-- Why a chart could not be generated or destroyed. -/
inductive RenderError
  | containerBusy (container : String)
  | invalidContainer (container : String)
  | drawing (reason : String)
  | io (cause : IoError)
deriving DecidableEq

def RenderError.message : RenderError → String
  | .containerBusy container => "container " ++ container ++ " already holds a live chart"
  | .invalidContainer container => "invalid container " ++ Text.quote container
  | .drawing reason => "drawing failed: " ++ reason
  | .io cause => cause.message

/-- A backend with states `σ` and handles `η`. -/
structure Backend (σ : Type u) (η : Type v) where
  /-- Makes a chart live, or fails. -/
  generate : ChartConfig → σ → Except RenderError η × σ
  /-- Destroys the chart of a handle, or fails. -/
  destroy : η → σ → Except RenderError Unit × σ
  /-- The container that a handle's chart was generated into. -/
  container : η → String
  /-- What is worth telling about a chart that was generated. -/
  notices : ChartConfig → η → List Notice := fun _ _ => []

variable {σ : Type u} {η : Type v}

/-- Generates the chart of a view in a container. Nothing is done about a chart
that may be there already. -/
def Renderer.render (r : Renderer) (B : Backend σ η) (view : Dataset) (container : String)
    (paddingLeft : Option UInt32) (s : σ) : Except RenderError η × σ × List Notice :=
  let config := r.config view container paddingLeft
  let start := Notice.rendering config.barCount container config.size.height
  match B.generate config s with
  | (.ok handle, s) => (.ok handle, s, start :: B.notices config handle)
  | (.error e, s) => (.error e, s, [start])

end RankedBars
