import RankedBars.Control
import RankedBars.Toggle.Labels

/-!
# Notices

What is worth telling while charts are loaded, drawn and toggled.
-/

namespace RankedBars

inductive Notice
  | loadedRows (count : Nat) (path : String)
  | loadedConfig (path : String)
  | rendering (bars : Nat) (container : String) (height : UInt32)
  | wrote (bars : Nat) (path : String)
  | nothingToRender (container : String)
  | staleClick (container : String) (handler : HandlerId)
  | switched (container : String) (mode : ViewMode) (bars : Nat)
deriving DecidableEq

namespace Notice

/-- Whether the notice is meant for whoever runs the program, or for whoever
mends it. -/
def level : Notice → String
  | .wrote .. | .switched .. => "INFO"
  | _ => "DEBUG"

def text : Notice → String
  | .loadedRows count path => "loaded " ++ toString count ++ " rows from " ++ path
  | .loadedConfig path => "loaded config from " ++ path
  | .rendering bars container height =>
      "rendering " ++ toString bars ++ " bars into " ++ container ++ " (height "
        ++ toString height.toNat ++ "px)"
  | .wrote bars path => "wrote " ++ toString bars ++ " bars to " ++ path
  | .nothingToRender container => container ++ ": empty dataset, nothing to render"
  | .staleClick container handler => container ++ ": ignoring click for stale " ++ handler.text
  | .switched container mode bars =>
      container ++ ": switched to " ++ mode.name ++ " (" ++ toString bars ++ " bars)"

/-- The notice as a line of a log. -/
def line (n : Notice) : String := n.level ++ " " ++ n.text

end Notice

end RankedBars
