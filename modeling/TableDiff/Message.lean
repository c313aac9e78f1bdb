/-!
# Messages

The messages of the differences between tables. Other programs read them, so their shape is fixed.
-/

namespace TableDiff.Message

def tableCount : String := "table count"

def tables : String := "tables"

/-- The table is not mentioned if it has no name. -/
def rowCount (table : String) : String :=
  if table = "" then "row count" else "row count (table=" ++ table ++ ")"

def columnCount (table : String) (expected actual : Nat) : String :=
  "column count (table=" ++ table ++ ", expectedColCount=" ++ toString expected ++
    ", actualColCount=" ++ toString actual ++ ")"

def columnMismatch (table : String) : String := "column mismatch (table=" ++ table ++ ")"

def incompatibleTypes (table column : String) : String :=
  "Incompatible data types: (table=" ++ table ++ ", col=" ++ column ++ ")"

/-- A column whose cells are shown beside a difference in another one. -/
structure AdditionalColumn where
  column : String
  expected : String
  actual : String
deriving DecidableEq

/-- One column of the additional information. -/
def AdditionalColumn.text (a : AdditionalColumn) : String :=
  " ('" ++ a.column ++ "': expected=<" ++ a.expected ++ ">, actual=<" ++ a.actual ++ ">)"

/-- The additional information on a row, if any is asked for. -/
def additionalInfo (columns : List AdditionalColumn) : Option String :=
  if columns = [] then none
  else some ("Additional row info:" ++ String.join (columns.map (·.text)))

/-- The message of a difference between two cells. The detail is left out if it is empty. -/
def value (table : String) (row : Nat) (column : String) (additional detail : Option String) :
    String :=
  "value (table=" ++ table ++ ", row=" ++ toString row ++ ", col=" ++ column ++
    (match additional with
      | some info => ", " ++ info
      | none => "") ++
    ")" ++
    (match detail with
      | some d => if d = "" then "" else ": " ++ d
      | none => "")

end TableDiff.Message
