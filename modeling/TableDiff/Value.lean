import TableDiff.Calendar.DateTime
import TableDiff.Datatype
import TableDiff.Guid
import TableDiff.Number.Binary64.Shortest
import TableDiff.Number.Decimal.Binary

/-!
# Values and cells

A value is the content of a cell that is not empty. Each value has a natural datatype and a text
by which it is shown and, in the end, compared with values of another kind.
-/

namespace TableDiff

/-- The content of a cell. -/
inductive Value where
  | text (s : String)
  | integer (i : Int64)
  | float (x : Binary64)
  | boolean (b : Bool)
  | date (d : Date)
  | dateTime (d : DateTime)
  | time (t : TimeOfDay)
  | guid (g : Guid)
  | decimal (d : Decimal)
deriving DecidableEq

/-- A cell of a table; `none` is the empty cell. -/
abbrev Cell := Option Value

namespace Value

/-- The datatype that a value carries by itself. -/
def datatype : Value → Datatype
  | .text _ => .string
  | .integer _ => .integer
  | .float _ => .float
  | .boolean _ => .boolean
  | .date _ => .date
  | .dateTime _ => .datetime
  | .time _ => .time
  | .guid _ => .guid
  | .decimal _ => .decimal

theorem datatype_ne_unknown (v : Value) : v.datatype ≠ .unknown := by
  cases v <;> simp [datatype]

/-- The decimal number that a number stands for. -/
def toDecimal? : Value → Option Decimal
  | .integer i => some (Decimal.ofInt64 i)
  | .float x => Decimal.ofBinary? x
  | .decimal d => some d
  | _ => none

/-- The text of a binary number: a whole one below 2 ^ 63 shows as an integer. -/
def floatText (x : Binary64) : List Char :=
  if x.isIntegral ∧ x.truncate.natAbs < Number.twoPow 63 then Number.intText x.truncate
  else x.positionalText

/-- The text by which a value is shown. -/
def display : Value → String
  | .text s => s
  | .integer i => String.ofList (Number.intText i.toInt)
  | .float x => String.ofList (floatText x)
  | .boolean b => if b then "true" else "false"
  | .date d => String.ofList d.text
  | .dateTime d => String.ofList d.text
  | .time t => String.ofList t.text
  | .guid g => String.ofList g.text
  | .decimal d => String.ofList d.text

/-- Sameness of values: that of their content, where numbers with places or with a fraction are
the same if they are equal as numbers. -/
def same : Value → Value → Bool
  | .float x, .float y => x.equals y
  | .decimal d, .decimal e => d.equals e
  | v, w => v == w

end Value

namespace Cell

/-- How the empty cell is shown. -/
def nullText : String := "null"

/-- The text by which a cell is shown. -/
def render : Cell → String
  | some v => v.display
  | none => nullText

def same : Cell → Cell → Bool
  | none, none => true
  | some v, some w => v.same w
  | _, _ => false

end Cell

end TableDiff
