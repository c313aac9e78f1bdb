import TableDiff.Number.Digits

/-!
# Records

Splits bytes into records of fields. A field in quotes may hold delimiters, line ends, and quotes
that are written twice. A carriage return, a line feed or both end a record; empty lines are
passed, and so is a byte order mark at the start. The end of the bytes ends the last record.
-/

namespace TableDiff.Csv

def quoteMark : UInt8 := 34

def lineFeed : UInt8 := 10

def carriageReturn : UInt8 := 13

def isTerminator (b : UInt8) : Bool := b == carriageReturn || b == lineFeed

/-- The bytes that mark a text as UTF-8. -/
def byteOrderMark : List UInt8 := [0xEF, 0xBB, 0xBF]

/-- A place between two records: the number of records, lines and bytes before it. Lines count
from one. -/
structure Position where
  record : Nat
  line : Nat
  byte : Nat
deriving DecidableEq

namespace Position

def start : Position := ⟨0, 1, 0⟩

/-- The place behind a byte. -/
def pass (p : Position) (b : UInt8) : Position :=
  ⟨p.record, if b == lineFeed then p.line + 1 else p.line, p.byte + 1⟩

def text (p : Position) : String :=
  let number (n : Nat) : String := String.ofList (Number.digits n)
  "record " ++ number p.record ++ " (line: " ++ number p.line ++ ", byte: " ++ number p.byte ++ ")"

end Position

/-- A record, and the place where the record before it ended. -/
structure Record where
  position : Position
  fields : List (List UInt8)
deriving DecidableEq

/-! ## Reading -/

/-- Where a reader is within a record. -/
inductive Mode where
  | between
  | fieldStart
  | unquoted
  | quoted
  | quoteSeen
deriving DecidableEq

/-- What a reader has read of a record; the field and the list of fields are in reverse order. -/
structure Draft where
  start : Position
  fields : List (List UInt8)
  field : List UInt8
deriving DecidableEq

namespace Draft

def empty (start : Position) : Draft := ⟨start, [], []⟩

def addByte (d : Draft) (b : UInt8) : Draft := { d with field := b :: d.field }

def endField (d : Draft) : Draft := { d with fields := d.field.reverse :: d.fields, field := [] }

def finish (d : Draft) : Record := ⟨d.start, d.endField.fields.reverse⟩

end Draft

/-- What a byte does outside quotes. -/
inductive Effect where
  | goOn (mode : Mode) (d : Draft)
  | endRecord (d : Draft)

/-- What a byte does in a field without quotes, or behind the quotes of a field. -/
def unquotedEffect (delimiter b : UInt8) (d : Draft) : Effect :=
  if b == delimiter then .goOn .fieldStart d.endField
  else if isTerminator b then .endRecord d
  else .goOn .unquoted (d.addByte b)

def effect (delimiter b : UInt8) (d : Draft) : Mode → Effect
  | .between =>
    if isTerminator b then .goOn .between d
    else if b == quoteMark then .goOn .quoted d
    else unquotedEffect delimiter b d
  | .fieldStart => if b == quoteMark then .goOn .quoted d else unquotedEffect delimiter b d
  | .unquoted => unquotedEffect delimiter b d
  | .quoted => if b == quoteMark then .goOn .quoteSeen d else .goOn .quoted (d.addByte b)
  | .quoteSeen =>
    if b == quoteMark then .goOn .quoted (d.addByte b) else unquotedEffect delimiter b d

/-- Reads records from the place `p` on. -/
def readFrom (delimiter : UInt8) (mode : Mode) (d : Draft) (p : Position) : List UInt8 → List Record
  | [] => if mode = .between then [] else [d.finish]
  | b :: rest =>
    let p := p.pass b
    match effect delimiter b d mode with
    | .goOn mode d => readFrom delimiter mode d p rest
    | .endRecord d =>
      let next := { p with record := p.record + 1 }
      d.finish :: readFrom delimiter .between (.empty next) next rest

/-- The records of a text. -/
def records (delimiter : UInt8) (bytes : List UInt8) : List Record :=
  if byteOrderMark.isPrefixOf bytes then
    readFrom delimiter .between (.empty .start) { Position.start with byte := 3 } (bytes.drop 3)
  else readFrom delimiter .between (.empty .start) .start bytes

/-! ## Widths -/

/-- A record that is not as wide as the one before it. -/
structure WidthError where
  position : Position
  found : Nat
  wanted : Nat
deriving DecidableEq

def WidthError.message (e : WidthError) : String :=
  let number (n : Nat) : String := String.ofList (Number.digits n)
  "CSV error: " ++ e.position.text ++ ": found record with " ++ number e.found ++
    " fields, but the previous record has " ++ number e.wanted ++ " fields"

/-- The fields of a record, whose number must be `width`. -/
def Record.fieldsOfWidth (r : Record) (width : Nat) : Except WidthError (List (List UInt8)) :=
  if r.fields.length = width then .ok r.fields
  else .error ⟨r.position, r.fields.length, width⟩

/-- A table as it is written: the fields of its first record, and its other records. -/
structure Sheet where
  headers : List (List UInt8)
  rows : List Record

/-- The sheet of a text; a text without records has no headers. -/
def Sheet.read (delimiter : UInt8) (bytes : List UInt8) : Sheet :=
  match records delimiter bytes with
  | [] => ⟨[], []⟩
  | first :: rest => ⟨first.fields, rest⟩

end TableDiff.Csv
