import RankedBars.Json.Reader
import RankedBars.Chart.Saved

/-!
# The two modes of a chart and their labels

A chart shows the largest points up to a limit, or all of them. Its control
offers the mode that it is not in, in words that can be chosen.
-/

namespace RankedBars

open Reader (once elementOr)

/-- Which part of the dataset a chart shows. -/
inductive ViewMode
  | topN
  | all
deriving DecidableEq, Inhabited

namespace ViewMode

def showsAll : ViewMode → Bool
  | .topN => false
  | .all => true

def flipped : ViewMode → ViewMode
  | .topN => .all
  | .all => .topN

@[simp] theorem flipped_flipped (mode : ViewMode) : mode.flipped.flipped = mode := by
  cases mode <;> rfl

def name : ViewMode → String
  | .topN => "TopN"
  | .all => "All"

end ViewMode

/-- The text with every occurrence of `part` replaced, found from the front and
without overlap. `skip` characters belong to the occurrence found last. -/
def replaceChars (part replacement : List Char) : (skip : Nat) → List Char → List Char
  | _, [] => []
  | skip + 1, _ :: rest => replaceChars part replacement skip rest
  | 0, c :: rest =>
      if part.isPrefixOf (c :: rest) then
        replacement ++ replaceChars part replacement (part.length - 1) rest
      else c :: replaceChars part replacement 0 rest

/-- What a control says, by the mode that it offers. -/
structure ToggleLabels where
  showAll : String := "Show full chart"
  showTop : String := "Show top \x7bn\x7d"
deriving DecidableEq, Inhabited

namespace ToggleLabels

/-- What stands for the limit in the label that offers the largest points. -/
def limitMark : List Char := ['\x7b', 'n', '\x7d']

/-- The label of a chart that is in a mode. -/
def labelFor (labels : ToggleLabels) (mode : ViewMode) (limit : Int) : String :=
  match mode with
  | .topN => labels.showAll
  | .all => String.ofList (replaceChars limitMark (toString limit).toList 0 labels.showTop.toList)

def toJson (labels : ToggleLabels) : Json :=
  .object [("show_all", .text labels.showAll), ("show_top", .text labels.showTop)]

structure Draft where
  showAll : Option String := none
  showTop : Option String := none

def fieldNames : List String := ["show_all", "show_top"]

def Draft.field (name : String) (draft : Draft) : Except ShapeError (Reader Draft) :=
  match name with
  | "show_all" => once name draft.showAll Reader.text fun v => { draft with showAll := v }
  | "show_top" => once name draft.showTop Reader.text fun v => { draft with showTop := v }
  | _ => .error (.unknownField name fieldNames)

/-- The labels of a draft, with defaults for what it does not say. -/
def Draft.finish (draft : Draft) : ToggleLabels :=
  let d : ToggleLabels := {}
  { showAll := draft.showAll.getD d.showAll, showTop := draft.showTop.getD d.showTop }

/-- Labels in JSON text. What is not given has its default, and nothing else may
be given. -/
def reader : Reader ToggleLabels :=
  let d : ToggleLabels := {}
  Reader.record "ToggleLabels"
    (do return (← Reader.object Draft.field {}).finish)
    (do return ⟨← elementOr 0 d.showAll Reader.text, ← elementOr 1 d.showTop Reader.text⟩)

end ToggleLabels

/-- How a chart is mounted. -/
structure MountOptions where
  limit : Int := 10
  paddingLeft : Option UInt32 := none
  labels : ToggleLabels := {}
deriving DecidableEq, Inhabited

end RankedBars
