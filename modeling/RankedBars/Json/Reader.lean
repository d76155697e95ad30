import RankedBars.Json.Token
import RankedBars.Json.Value
import RankedBars.Shape

/-!
# Reading values from JSON text

A reader takes tokens off the front and answers with a value and the tokens
left, or with the first fault it meets. Because the tokens come in the order of
the text and a reader asks for no more of them than it needs, the fault reported
is the first one in the text: a value of the wrong shape is refused where it
stands, whatever follows it, and text that is no JSON is refused where it stops
being JSON.

The case that carries weight is the record. It is written as an object, whose
fields come in any order and are collected in a draft, or as a list of its
fields in their order.
-/

namespace RankedBars

/-- Why a text holds no value of the kind asked for. -/
inductive ReadError
  | malformed
  | shape (cause : ShapeError)

abbrev Reader := StateT (List Json.Token) (Except ReadError)

namespace Reader

open Json (Token)

/-- The value that a whole text holds. -/
def readAll (r : Reader α) (text : String) : Except ReadError α :=
  match r (Json.scan text) with
  | .ok (a, []) => .ok a
  | .ok (_, _ :: _) => .error .malformed
  | .error e => .error e

/-- The answer to a token where another kind of value was expected. A value that
starts with the token is looked at first as far as it is one token. -/
def mismatch (expected : String) : Token → ReadError
  | .null => .shape (.wrongKind .null expected)
  | .bool value => .shape (.wrongKind (.bool value) expected)
  | .number literal =>
      match literal.value? with
      | some (.integer value) => .shape (.wrongKind (.integer value) expected)
      | some (.float value) => .shape (.wrongKind (.float value) expected)
      | none => .malformed
  | .text (some value) => .shape (.wrongKind (.text value) expected)
  | .openBracket => .shape (.wrongKind .sequence expected)
  | .openBrace => .shape (.wrongKind .map expected)
  | _ => .malformed

/-- Lifts a fault of shape found outside the text. -/
def ofShape : Except ShapeError α → Reader α
  | .ok a => pure a
  | .error cause => throw (.shape cause)

/-! ## Values of one token -/

def text : Reader String
  | .text (some value) :: rest => .ok (value, rest)
  | token :: _ => .error (mismatch "a string" token)
  | [] => .error .malformed

def bool : Reader Bool
  | .bool value :: rest => .ok (value, rest)
  | token :: _ => .error (mismatch "a boolean" token)
  | [] => .error .malformed

/-- A whole number from `low` up to `high`. -/
def integer (expected : String) (low high : Int) : Reader Int
  | .number literal :: rest =>
      match literal.value? with
      | some (.integer value) =>
          if low ≤ value ∧ value ≤ high then .ok (value, rest)
          else .error (.shape (.outOfRange value expected))
      | _ => .error (mismatch expected (.number literal))
  | token :: _ => .error (mismatch expected token)
  | [] => .error .malformed

def int64 : Reader Int := integer "i64" (-Nat.pow 2 63) (Nat.pow 2 63 - 1)

def uint32 : Reader UInt32 := (fun n => UInt32.ofNat n.toNat) <$> integer "u32" 0 (Nat.pow 2 32 - 1)

def float : Reader Binary64
  | .number literal :: rest =>
      match literal.value? with
      | some number => .ok (number.toBinary, rest)
      | none => .error .malformed
  | token :: _ => .error (mismatch "f64" token)
  | [] => .error .malformed

/-- A value, or null for none. -/
def optional (r : Reader α) : Reader (Option α)
  | .null :: rest => .ok (none, rest)
  | tokens => (some <$> r) tokens

/-! ## Lists and objects -/

/-- The items of a list up to its closing bracket, of which there are at most
`fuel`. -/
def items (r : Reader α) : (fuel : Nat) → Reader (List α)
  | 0, _ => .error .malformed
  | fuel + 1, tokens =>
      match r tokens with
      | .error e => .error e
      | .ok (a, .closeBracket :: rest) => .ok ([a], rest)
      | .ok (a, .comma :: rest) => ((a :: ·) <$> items r fuel) rest
      | .ok _ => .error .malformed

def list (r : Reader α) : Reader (List α)
  | .openBracket :: .closeBracket :: rest => .ok ([], rest)
  | .openBracket :: rest => items r rest.length rest
  | token :: _ => .error (mismatch "a sequence" token)
  | [] => .error .malformed

/-- The members of an object up to its closing brace, of which there are at most
`fuel`. The name of a member decides how its value is read, or refuses the
member before its value is looked at. -/
def members (field : String → σ → Except ShapeError (Reader σ)) : (fuel : Nat) → σ → Reader σ
  | 0, _, _ => .error .malformed
  | fuel + 1, draft, .text (some name) :: rest =>
      match field name draft with
      | .error cause => .error (.shape cause)
      | .ok r =>
          match rest with
          | .colon :: rest =>
              match r rest with
              | .error e => .error e
              | .ok (draft, .closeBrace :: rest) => .ok (draft, rest)
              | .ok (draft, .comma :: rest) => members field fuel draft rest
              | .ok _ => .error .malformed
          | _ => .error .malformed
  | _ + 1, _, _ => .error .malformed

/-- What is left of an object once its brace is open. -/
def object (field : String → σ → Except ShapeError (Reader σ)) (draft : σ) : Reader σ
  | .closeBrace :: rest => .ok (draft, rest)
  | rest => members field rest.length draft rest

/-! ## Values that are not asked for -/

/-- What encloses a value that is passed over. -/
inductive Enclosing
  | list
  | object

/-- What may come next while a value is passed over. -/
inductive Awaiting
  | value
  | valueOrEnd
  | next
  | name
  | nameOrEnd
  | colon

/-- How a token moves the reading of a value that is passed over, unless it may
not stand there. -/
def passToken : Awaiting → List Enclosing → Token → Option (Awaiting × List Enclosing)
  | .valueOrEnd, .list :: outer, .closeBracket => some (.next, outer)
  | .nameOrEnd, .object :: outer, .closeBrace => some (.next, outer)
  | .next, .list :: outer, .closeBracket => some (.next, outer)
  | .next, .object :: outer, .closeBrace => some (.next, outer)
  | .next, .list :: outer, .comma => some (.value, .list :: outer)
  | .next, .object :: outer, .comma => some (.name, .object :: outer)
  | .name, outer, .text _ => some (.colon, outer)
  | .nameOrEnd, outer, .text _ => some (.colon, outer)
  | .colon, outer, .colon => some (.value, outer)
  | .value, outer, token => startValue outer token
  | .valueOrEnd, outer, token => startValue outer token
  | _, _, _ => none
where
  /-- The token at the front of a value. -/
  startValue (outer : List Enclosing) : Token → Option (Awaiting × List Enclosing)
    | .null => some (.next, outer)
    | .bool _ => some (.next, outer)
    | .number _ => some (.next, outer)
    | .text _ => some (.next, outer)
    | .openBracket => some (.valueOrEnd, .list :: outer)
    | .openBrace => some (.nameOrEnd, .object :: outer)
    | _ => none

/-- Passes over the rest of a value inside its enclosing brackets, innermost
first. -/
def skipFrom : Awaiting → List Enclosing → Reader Unit
  | .next, [], tokens => .ok ((), tokens)
  | _, _, [] => .error .malformed
  | awaiting, outer, token :: rest =>
      match passToken awaiting outer token with
      | some (awaiting, outer) => skipFrom awaiting outer rest
      | none => .error .malformed

/-- Passes over one value of any kind and any depth. -/
def skip : Reader Unit := skipFrom .value []

/-- A value of any kind in which lists and objects are nested at most `depth`
deep. -/
def value : (depth : Nat) → Reader Json
  | _, .null :: rest => .ok (.null, rest)
  | _, .bool value :: rest => .ok (.bool value, rest)
  | _, .number literal :: rest =>
      match literal.value? with
      | some (.integer value) => .ok (.integer value, rest)
      | some (.float value) => .ok (.float value, rest)
      | none => .error .malformed
  | _, .text (some value) :: rest => .ok (.text value, rest)
  | depth + 1, .openBracket :: rest => (Json.list <$> list (value depth)) (.openBracket :: rest)
  | depth + 1, .openBrace :: rest =>
      let field name (fields : List (String × Json)) :
          Except ShapeError (Reader (List (String × Json))) :=
        .ok ((fun value => (name, value) :: fields) <$> value depth)
      ((fun fields => Json.object fields.reverse) <$> object field []) rest
  | _, _ => .error .malformed

/-! ## Records -/

/-- The reader of a field that may be given once, and that goes into the draft
by `put`. -/
def once (name : String) (current : Option α) (r : Reader α) (put : α → σ) :
    Except ShapeError (Reader σ) :=
  if current.isSome then .error (.duplicateField name) else .ok (put <$> r)

/-- The reader of a field that the record does not have and does not mind. -/
def passedOver (draft : σ) : Except ShapeError (Reader σ) := .ok ((fun _ => draft) <$> skip)

/-- The value of a field that has to be given. -/
def required (name : String) : Option α → Except ShapeError α
  | some a => .ok a
  | none => .error (.missingField name)

/-- The next field of a record that is written as a list, if the list goes on.
-/
def element? (first : Bool) (r : Reader α) : Reader (Option α)
  | .closeBracket :: rest => .ok (none, .closeBracket :: rest)
  | tokens =>
      if first then (some <$> r) tokens
      else
        match tokens with
        | .comma :: rest => (some <$> r) rest
        | _ => .error .malformed

/-- The field at an index of a record that is written as a list. -/
def element (expected : String) (index : Nat) (r : Reader α) : Reader α := do
  match ← element? (index == 0) r with
  | some a => pure a
  | none => throw (.shape (.tooShort index expected))

/-- The field at an index of a record that is written as a list, or its default
when the list is shorter. -/
def elementOr (index : Nat) (default : α) (r : Reader α) : Reader α :=
  (·.getD default) <$> element? (index == 0) r

/-- A record, written as an object or as a list. `byName` starts behind the
brace and reads up to the closing one; `byOrder` starts behind the bracket and
stops in front of the closing one. -/
def record (name : String) (byName byOrder : Reader α) : Reader α
  | .openBrace :: rest => byName rest
  | .openBracket :: rest =>
      match byOrder rest with
      | .error e => .error e
      | .ok (a, .closeBracket :: rest) => .ok (a, rest)
      | .ok _ => .error .malformed
  | token :: _ => .error (mismatch (recordName name) token)
  | [] => .error .malformed

end Reader

end RankedBars
