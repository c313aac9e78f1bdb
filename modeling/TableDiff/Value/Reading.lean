import TableDiff.Calendar.Layout
import TableDiff.Number.Binary64.Reader
import TableDiff.Number.Decimal.Reader
import TableDiff.Value

/-!
# Values from text

The text of a cell is read under a datatype. The empty text is the empty cell; under `string` and
`unknown` the text itself is the value; otherwise blanks around the text do not count.
-/

namespace TableDiff

/-- Why a text has no value under a datatype. -/
inductive ReadError where
  | integer (given : String) (cause : Number.IntegerError)
  | float (given : String) (cause : Binary64.ReadError)
  | decimal (given : String) (cause : Decimal.ReadError)
  | guid (given : String) (cause : Guid.ReadError)
  | boolean (given : String)
  | date (given : String)
  | dateTime (given : String)
  | time (given : String)
deriving DecidableEq

namespace ReadError

/-- The sentence that a text is not of a kind. -/
def notRead (given kind : String) : String := "Failed to parse '" ++ given ++ "' as " ++ kind

/-- What could not be read. -/
def summary : ReadError → String
  | .integer given _ => notRead given "integer"
  | .float given _ => notRead given "float"
  | .decimal given _ => notRead given "decimal"
  | .guid given _ => notRead given "GUID"
  | .boolean given => notRead given "boolean"
  | .date given => notRead given "date"
  | .dateTime given => notRead given "datetime"
  | .time given => notRead given "time"

/-- Why it could not be read, where more is known. -/
def cause? : ReadError → Option String
  | .integer _ cause => some cause.message
  | .float _ cause => some cause.message
  | .decimal _ cause => some cause.message
  | .guid _ cause => some cause.message
  | _ => none

/-- What could not be read, and why. -/
def message (e : ReadError) : String :=
  match e.cause? with
  | some cause => e.summary ++ ": " ++ cause
  | none => e.summary

end ReadError

namespace Value

/-- The words for the truth values. -/
def truthWords : List (String × Bool) :=
  [("true", true), ("t", true), ("yes", true), ("y", true), ("1", true),
    ("false", false), ("f", false), ("no", false), ("n", false), ("0", false)]

/-- Reads a truth value without regard to the case of ASCII letters. -/
def readBoolean? (cs : List Char) : Option Bool :=
  truthWords.lookup (String.ofList (Text.lowerAscii cs))

/-- Reads a decimal number in positional or exponent notation. -/
def readDecimal (cs : List Char) : Except Decimal.ReadError Decimal :=
  match Decimal.read cs with
  | .ok d => .ok d
  | .error _ => Decimal.readScientific cs

/-- Reads an identifier; braces around it do not count. -/
def readGuid (cs : List Char) : Except Guid.ReadError Guid :=
  let isBrace (c : Char) : Bool := c == '\x7b' || c == '\x7d'
  Guid.read ((cs.dropWhile isBrace).reverse.dropWhile isBrace).reverse

/-- Reads a text that is not empty. -/
def read (given : String) (t : Datatype) : Except ReadError Value :=
  let cs := Text.trim given.toList
  match t with
  | .string | .unknown => .ok (.text given)
  | .integer => (Number.readInteger cs).map .integer |>.mapError (.integer given)
  | .float => (Binary64.read cs).map .float |>.mapError (.float given)
  | .decimal => (readDecimal cs).map .decimal |>.mapError (.decimal given)
  | .guid => (readGuid cs).map .guid |>.mapError (.guid given)
  | .boolean => ((readBoolean? cs).map Value.boolean).elim (.error (.boolean given)) .ok
  | .date => ((Date.read? cs).map Value.date).elim (.error (.date (String.ofList cs))) .ok
  | .datetime =>
    ((DateTime.read? cs).map Value.dateTime).elim (.error (.dateTime (String.ofList cs))) .ok
  | .time => ((TimeOfDay.read? cs).map Value.time).elim (.error (.time (String.ofList cs))) .ok

end Value

/-- Reads the text of a cell. -/
def Cell.read (given : String) (t : Datatype) : Except ReadError Cell :=
  if given = "" then .ok none else (Value.read given t).map some

end TableDiff
