import RankedBars.Json.Number
import RankedBars.Text.Quoted

/-!
# Data of the wrong shape

Text that can be read as data may still hold other data than was asked for. The
causes are kept as what was found and what was expected; `ShapeError.message`
gives them words.
-/

namespace RankedBars

/-- A value that stands where another kind of value was expected. -/
inductive Found
  | null
  | bool (value : Bool)
  | integer (value : Int)
  | wideInteger (value : Int)
  | float (value : Binary64)
  | text (value : String)
  | sequence
  | map

/-- A word between the marks that set it off from the message around it. -/
def marked (s : String) : String := "`" ++ s ++ "`"

def Found.describe : Found → String
  | .null => "null"
  | .bool value => "boolean " ++ marked (if value then "true" else "false")
  | .integer value => "integer " ++ marked (toString value)
  | .wideInteger value =>
      "integer " ++ marked (toString value) ++ (if value < 0 then " as i128" else " as u128")
  | .float value => "floating point " ++ marked (Json.floatText value)
  | .text value => "string " ++ Text.quote value
  | .sequence => "sequence"
  | .map => "map"

/-- Why a piece of data does not have the shape asked for. -/
inductive ShapeError
  | wrongKind (found : Found) (expected : String)
  | outOfRange (value : Int) (expected : String)
  | missingField (name : String)
  | duplicateField (name : String)
  | unknownField (name : String) (known : List String)
  | unknownVariant (name : String) (known : List String)
  | tooShort (length : Nat) (expected : String)
  | badNumber (cause : NumberTextError)
  | badColor (text : String)
  | noMatchingRow

/-- Lists the names that would have been accepted. -/
def acceptedNames : List String → String
  | [] => "there are no fields"
  | [a] => "expected " ++ marked a
  | [a, b] => "expected " ++ marked a ++ " or " ++ marked b
  | names => "expected one of " ++ ", ".intercalate (names.map marked)

/-- The message for a text that is no color. -/
def badColorMessage (text : String) : String :=
  "invalid color " ++ Text.quote text ++ ", expected #RRGGBB or #RRGGBBAA"

def ShapeError.message : ShapeError → String
  | .wrongKind found expected => "invalid type: " ++ found.describe ++ ", expected " ++ expected
  | .outOfRange value expected =>
      "invalid value: integer " ++ marked (toString value) ++ ", expected " ++ expected
  | .missingField name => "missing field " ++ marked name
  | .duplicateField name => "duplicate field " ++ marked name
  | .unknownField name known => "unknown field " ++ marked name ++ ", " ++ acceptedNames known
  | .unknownVariant name known => "unknown variant " ++ marked name ++ ", " ++ acceptedNames known
  | .tooShort length expected =>
      "invalid length " ++ toString length ++ ", expected " ++ expected
  | .badNumber cause => cause.message
  | .badColor text => badColorMessage text
  | .noMatchingRow => "data did not match any variant of untagged enum RawPoint"

/-- How the shape of a record is named in messages. -/
def recordName (name : String) : String := "struct " ++ name

/-- How a record that may be written as a plain list of its fields is named in
messages. -/
def recordOfSize (name : String) (size : Nat) : String :=
  recordName name ++ " with " ++ toString size ++ (if size = 1 then " element" else " elements")

end RankedBars
