import TableDiff.Text.Blank
import TableDiff.Text.Case

/-!
# Datatypes

The datatype under which the cells of a column are read and compared. A column whose datatype is
not declared has the datatype `unknown`; beside a declared one it takes that.
-/

namespace TableDiff

/-- How cells are interpreted. -/
inductive Datatype where
  | string
  | integer
  | float
  | boolean
  | date
  | datetime
  | time
  | guid
  | decimal
  | unknown
deriving DecidableEq

namespace Datatype

/-- The canonical name. -/
def name : Datatype → String
  | .string => "string"
  | .integer => "integer"
  | .float => "float"
  | .boolean => "boolean"
  | .date => "date"
  | .datetime => "datetime"
  | .time => "time"
  | .guid => "guid"
  | .decimal => "decimal"
  | .unknown => "unknown"

def all : List Datatype :=
  [.string, .integer, .float, .boolean, .date, .datetime, .time, .guid, .decimal, .unknown]

def isUnknown (t : Datatype) : Bool := t == .unknown

def isNumeric : Datatype → Bool
  | .integer | .float | .decimal => true
  | _ => false

def isTemporal : Datatype → Bool
  | .date | .datetime | .time => true
  | _ => false

/-- The names under which a datatype may be declared. -/
def aliases : List (String × Datatype) :=
  [("string", .string), ("text", .string), ("varchar", .string),
    ("integer", .integer), ("int", .integer), ("bigint", .integer),
    ("float", .float), ("double", .float), ("real", .float),
    ("boolean", .boolean), ("bool", .boolean),
    ("date", .date),
    ("datetime", .datetime), ("date-time", .datetime), ("timestamp", .datetime),
    ("time", .time),
    ("guid", .guid), ("uuid", .guid),
    ("decimal", .decimal), ("numeric", .decimal), ("currency", .decimal),
    ("unknown", .unknown), ("", .unknown)]

/-- A name that declares no datatype. -/
structure UnknownName where
  given : String
deriving DecidableEq

def UnknownName.message (e : UnknownName) : String :=
  "Unknown column type '" ++ e.given ++ "'. Supported types: " ++ ", ".intercalate (all.map name)

/-- Reads the name of a datatype, without regard to the case of ASCII letters and to blanks around
it. -/
def ofName (given : String) : Except UnknownName Datatype :=
  let wanted := String.ofList (Text.lowerAscii (Text.trim given.toList))
  match aliases.lookup wanted with
  | some t => .ok t
  | none => .error ⟨given⟩

/-- The datatype under which two columns are compared: a declared one prevails over `unknown`, and
two different declared ones have none. -/
def resolve (expected actual : Datatype) : Option Datatype :=
  if expected = .unknown then some actual
  else if actual = .unknown then some expected
  else if expected = actual then some expected
  else none

end Datatype

end TableDiff
