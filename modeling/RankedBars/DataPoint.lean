import RankedBars.Json.Reader
import RankedBars.Text.Blank

/-!
# Data points

A data point is a label and the value to be charted for it. In JSON its value is
a number or a text that holds one, blanks around the number allowed.

A row of a dataset may be written as a pair or as a record with these two fields
and any others. The row is read as a whole before it is decided which of the two
it is, so a row that is neither is refused as a row and not at the place where
it goes wrong.
-/

namespace RankedBars

structure DataPoint where
  label : String
  value : Binary64
deriving DecidableEq, Inhabited

abbrev Dataset := List DataPoint

namespace DataPoint

/-- What messages say about the value of a data point. -/
def expectedValue : String := "a number or a string holding a number"

def toJson (p : DataPoint) : Json := .object [("label", .text p.label), ("value", .float p.value)]

/-- The number that a text holds, blanks around it left aside. -/
def valueOfText (s : String) : Except ShapeError Binary64 :=
  (NumberText.read (Text.trim s)).mapError .badNumber

/-- A value: a number or a text that holds one. -/
def valueReader : Reader Binary64
  | .number literal :: rest =>
      match literal.value? with
      | some number => .ok (number.toBinary, rest)
      | none => .error .malformed
  | .text (some s) :: rest => Reader.ofShape (valueOfText s) rest
  | token :: _ => .error (Reader.mismatch expectedValue token)
  | [] => .error .malformed

/-- The fields of a data point that have been read so far. -/
structure Draft where
  label : Option String := none
  value : Option Binary64 := none

def Draft.finish (draft : Draft) : Except ShapeError DataPoint := do
  return ⟨← Reader.required "label" draft.label, ← Reader.required "value" draft.value⟩

def Draft.field (name : String) (draft : Draft) : Except ShapeError (Reader Draft) :=
  match name with
  | "label" => Reader.once name draft.label Reader.text fun v => { draft with label := v }
  | "value" => Reader.once name draft.value valueReader fun v => { draft with value := v }
  | _ => Reader.passedOver draft

/-- How messages name the record that a data point is. -/
def shapeName : String := recordOfSize "DataPoint" 2

/-- A single data point. -/
def reader : Reader DataPoint :=
  Reader.record "DataPoint"
    (do Reader.ofShape (← Reader.object Draft.field {}).finish)
    (do return ⟨← Reader.element shapeName 0 Reader.text, ← Reader.element shapeName 1 valueReader⟩)

/-! ## Rows -/

/-- The number in a value of a row. -/
def valueOfJson? : Json → Option Binary64
  | .integer value => some (.ofInt value)
  | .float value => some value
  | .text s => (valueOfText s).toOption
  | _ => none

def labelOfJson? : Json → Option String
  | .text s => some s
  | _ => none

/-- The only value of a field, if the field is given exactly once. -/
def onlyField? (name : String) (fields : List (String × Json)) : Option Json :=
  match fields.filter fun field => field.1 = name with
  | [field] => some field.2
  | _ => none

/-- The data point of a row, written as a pair or as a record. -/
def ofRow? : Json → Option DataPoint
  | .list [label, value] => do return ⟨← labelOfJson? label, ← valueOfJson? value⟩
  | .object fields => do
    return ⟨← labelOfJson? (← onlyField? "label" fields),
      ← valueOfJson? (← onlyField? "value" fields)⟩
  | _ => none

/-- How deep lists and objects may be nested in the text of a dataset, the list
of rows not counted. -/
def rowDepth : Nat := 126

def rowReader : Reader DataPoint := do
  match ofRow? (← Reader.value rowDepth) with
  | some p => pure p
  | none => throw (.shape .noMatchingRow)

end DataPoint

/-- The data points in the text of a JSON dataset, in their order. -/
def Dataset.ofJson (text : String) : Except ReadError Dataset :=
  (Reader.list DataPoint.rowReader).readAll text

end RankedBars
