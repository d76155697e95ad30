/-!
# Records of comma-separated text

The bytes of a file are cut into records of fields. A field that starts with a
quote runs to the closing quote, line ends and commas included, and a quote
inside it is written twice; whatever follows the closing quote is appended as it
stands. In any other field a quote is an ordinary byte. Lines without anything
on them are no records.

The cutting is one pass over the bytes with five places to be in. At the end of
the file a record that has been started is a record, be its last field empty or
its quote still open.
-/

namespace RankedBars.Csv

abbrev Field := List UInt8
abbrev Record := List Field

/-- Where the pass stands. -/
inductive Place
  | recordStart
  | fieldStart
  | plain
  | quoted
  | quoteSeen
deriving DecidableEq

/-- What a byte does. -/
inductive Action
  | drop (next : Place)
  | keep (next : Place)
  | endField
  | endRecord

def comma : UInt8 := 0x2C
def quotationMark : UInt8 := 0x22
def isLineEnd (b : UInt8) : Bool := b = 0x0A || b = 0x0D

/-- What a byte does outside quotes. -/
def actPlain (b : UInt8) : Action :=
  if b = comma then .endField else if isLineEnd b then .endRecord else .keep .plain

def act : Place → UInt8 → Action
  | .recordStart, b =>
      if isLineEnd b then .drop .recordStart
      else if b = quotationMark then .drop .quoted
      else actPlain b
  | .fieldStart, b => if b = quotationMark then .drop .quoted else actPlain b
  | .plain, b => actPlain b
  | .quoted, b => if b = quotationMark then .drop .quoteSeen else .keep .quoted
  | .quoteSeen, b => if b = quotationMark then .keep .quoted else actPlain b

/-- The records in the bytes that follow, where `field` holds the bytes of the
field so far and `fields` the fields of the record so far, both last one first.
-/
def recordsFrom (place : Place) (field : Field) (fields : Record) : List UInt8 → List Record
  | [] =>
      if place = .recordStart then [] else [(field.reverse :: fields).reverse]
  | b :: rest =>
      match act place b with
      | .drop next => recordsFrom next field fields rest
      | .keep next => recordsFrom next (b :: field) fields rest
      | .endField => recordsFrom .fieldStart [] (field.reverse :: fields) rest
      | .endRecord => (field.reverse :: fields).reverse :: recordsFrom .recordStart [] [] rest

/-- The bytes without the mark that some programs put in front of text. -/
def dropByteOrderMark : List UInt8 → List UInt8
  | 0xEF :: 0xBB :: 0xBF :: rest => rest
  | bytes => bytes

/-- The records of a file. -/
def records (content : ByteArray) : List Record :=
  recordsFrom .recordStart [] [] (dropByteOrderMark content.data.toList)

/-- The text of a field, unless its bytes are not text. -/
def fieldText? (field : Field) : Option String := String.fromUTF8? field.toByteArray

/-- The texts of a record, unless some field is not text. -/
def recordText? (record : Record) : Option (List String) := record.mapM fieldText?

end RankedBars.Csv
