import RankedBars.Dataset.Csv
import RankedBars.FileTree
import RankedBars.Notice

/-!
# Loading datasets

A file is a dataset in comma-separated text when its name ends that way, in any
case, and in JSON otherwise. A dataset is refused when a value is not finite or
a label occurs twice, at the first row that has either fault; a row that has
both is refused for its value.
-/

namespace RankedBars

/-- Why a row cannot be charted. -/
inductive RowFault
  | notFinite (label : String)
  | duplicateLabel (label : String)
deriving DecidableEq

def RowFault.message : RowFault → String
  | .notFinite label => "value for " ++ Text.quote label ++ " is not a finite number"
  | .duplicateLabel label => "duplicate label " ++ Text.quote label

/-- Why a file could not be loaded. -/
inductive LoadError
  | unreadable (what : String) (path : String) (cause : IoError)
  | unparsable (what : String) (path : String) (cause : ReadError)
  | unreadableRow (path : String) (row : Nat) (cause : IoError)
  | badRow (path : String) (row : Nat) (cause : Csv.RowError)
  | invalid (path : String) (row : Nat) (cause : RowFault)

namespace LoadError

/-- What a row is called in messages. -/
def rowName (row : Nat) : String := "row " ++ toString row

/-- What was being done, outermost first. -/
def contexts : LoadError → List String
  | .unreadable what path _ => ["reading " ++ what ++ path]
  | .unparsable what path _ => ["parsing " ++ what ++ path]
  | .unreadableRow path row _ => [path ++ ": " ++ rowName row]
  | .badRow path row _ => [path ++ ": " ++ rowName row]
  | .invalid path _ _ => ["invalid dataset " ++ path]

/-- What went wrong, where it can be said without the place in the text. -/
def cause? : LoadError → Option String
  | .unreadable _ _ cause => some cause.message
  | .unparsable _ _ (.shape cause) => some cause.message
  | .unparsable _ _ .malformed => none
  | .unreadableRow _ _ cause => some cause.message
  | .badRow _ _ (.shape cause) => some cause.message
  | .badRow _ _ _ => none
  | .invalid _ row cause => some (rowName row ++ ": " ++ cause.message)

/-- The whole message. -/
def message (e : LoadError) : String := ": ".intercalate (e.contexts ++ e.cause?.toList)

end LoadError

namespace Dataset

/-- The first row that cannot be charted, counted from `row`, when the labels in
`seen` are taken. -/
def faultFrom? (seen : List String) (row : Nat) : Dataset → Option (Nat × RowFault)
  | [] => none
  | p :: rest =>
      if !p.value.isFinite then some (row, .notFinite p.label)
      else if seen.contains p.label then some (row, .duplicateLabel p.label)
      else faultFrom? (p.label :: seen) (row + 1) rest

/-- The first row that cannot be charted, counted from one. -/
def fault? (data : Dataset) : Option (Nat × RowFault) := faultFrom? [] 1 data

/-- Whether a path names comma-separated text. -/
def isCsvPath (path : String) : Bool :=
  match FileTree.extension? path with
  | some ending => ending.toLower = "csv"
  | none => false

/-- The dataset in a JSON file, not checked. -/
def parseJsonFile (files : FileTree) (path : String) : Except LoadError Dataset :=
  match files.readText path with
  | .error cause => .error (.unreadable "" path cause)
  | .ok text => (ofJson text).mapError (.unparsable "" path)

/-- The dataset in a file of comma-separated text, not checked. A directory can
be opened like a file and fails at its first row. -/
def parseCsvFile (files : FileTree) (path : String) : Except LoadError Dataset :=
  match files.read path with
  | .error .isADirectory => .error (.unreadableRow path 1 .isADirectory)
  | .error cause => .error (.unreadable "" path cause)
  | .ok content => (Csv.dataset content).mapError fun (row, cause) => .badRow path row cause

/-- Loads a dataset. -/
def load (files : FileTree) (path : String) : Except LoadError (Dataset × List Notice) :=
  let parsed := if isCsvPath path then parseCsvFile files path else parseJsonFile files path
  match parsed with
  | .error e => .error e
  | .ok data =>
      match data.fault? with
      | some (row, cause) => .error (.invalid path row cause)
      | none => .ok (data, [.loadedRows data.length path])

end Dataset

end RankedBars
