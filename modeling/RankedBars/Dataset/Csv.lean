import RankedBars.Csv.Record
import RankedBars.DataPoint

/-!
# Datasets in comma-separated text

The first record names the columns, and every other one is a data point. Columns
other than the label and the value are passed over. When the first record is not
text it names nothing, and the label and the value are the first two columns.

A value is taken to be a truth value, a whole number or a floating-point number
by what it looks like; truth values and whole numbers past 64 bits are refused
by their kind, everything that looks like none of these as a number that cannot
be read.
-/

namespace RankedBars.Csv

/-- Why a record is not a data point. -/
inductive RowError
  | unequalLengths
  | notText
  | shape (cause : ShapeError)

/-- The number that a field writes with an optional sign and digits only. -/
def wholeNumber? (s : String) : Option (Bool × Nat) :=
  let (minus, digits) := NumberText.takeSign s.toList
  if digits.isEmpty ∨ ¬ digits.all Char.isDigit then none else some (minus, ofDigits digits)

/-- The number in a value field. -/
def valueOfField (s : String) : Except ShapeError Binary64 :=
  let refuse (found : Found) := .error (.wrongKind found DataPoint.expectedValue)
  if s = "true" then refuse (.bool true)
  else if s = "false" then refuse (.bool false)
  else
    match wholeNumber? s with
    | some (minus, n) =>
        if minus then
          if n ≤ Nat.pow 2 63 then .ok (.ofInt (-n))
          else if n ≤ Nat.pow 2 127 then refuse (.wideInteger (-n))
          else DataPoint.valueOfText s
        else if n < Nat.pow 2 64 then .ok (.ofNat n)
        else if n < Nat.pow 2 128 then refuse (.wideInteger n)
        else DataPoint.valueOfText s
    | none => DataPoint.valueOfText s

/-- Takes a field into the draft of a data point, by the name of its column. -/
def takeField (draft : DataPoint.Draft) (column field : String) :
    Except ShapeError DataPoint.Draft :=
  match column with
  | "label" =>
      if draft.label.isSome then .error (.duplicateField column)
      else .ok { draft with label := field }
  | "value" =>
      if draft.value.isSome then .error (.duplicateField column)
      else do return { draft with value := ← valueOfField field }
  | _ => .ok draft

/-- The data point in a record whose columns have names. -/
def pointByName (columns fields : List String) : Except ShapeError DataPoint := do
  let draft ← (columns.zip fields).foldlM
    (fun draft (column, field) => takeField draft column field) {}
  draft.finish

/-- The data point in a record whose columns have no names. -/
def pointByPosition : List String → Except ShapeError DataPoint
  | label :: value :: _ => do return ⟨label, ← valueOfField value⟩
  | fields => .error (.tooShort fields.length DataPoint.shapeName)

/-- The data point in a record, under the first record of the file. -/
def pointOfRecord (header record : Record) : Except RowError DataPoint :=
  if record.length ≠ header.length then .error .unequalLengths
  else
    match recordText? record with
    | none => .error .notText
    | some fields =>
        let fields := fields.map Text.trim
        let point := match recordText? header with
          | some columns => pointByName (columns.map Text.trim) fields
          | none => pointByPosition fields
        point.mapError .shape

/-- The data points of a list of records, or the number of the first record that
is none, counted from `row`, and why. -/
def pointsFrom (header : Record) (row : Nat) : List Record → Except (Nat × RowError) Dataset
  | [] => .ok []
  | record :: rest =>
      match pointOfRecord header record with
      | .error cause => .error (row, cause)
      | .ok point => (point :: ·) <$> pointsFrom header (row + 1) rest

/-- The data points of a file, or the first record that is none and why. Records
are counted from one, without the record that names the columns. -/
def dataset (content : ByteArray) : Except (Nat × RowError) Dataset :=
  match records content with
  | [] => .ok []
  | header :: rows => pointsFrom header 1 rows

end RankedBars.Csv
