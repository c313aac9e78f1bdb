import TableDiff.Failure

/-!
# Errors of a check

What ends a check before it is complete: a failure that a reporter does not accept, or a table,
column or row that is not there.
-/

namespace TableDiff

/-- A fault in how tables, datasets or reporters are put together. -/
inductive ConfigProblem where
  | rowWidth (row : Nat) (table : String) (values columns : Nat)
  | duplicateTable (table : String)
  | other (message : String)
deriving DecidableEq

def ConfigProblem.message : ConfigProblem → String
  | .rowWidth row table values columns =>
    "Row " ++ toString row ++ " of table '" ++ table ++ "' has " ++ toString values ++
      " value(s) but the table defines " ++ toString columns ++ " column(s)"
  | .duplicateTable table => "Duplicate table '" ++ table ++ "' in dataset"
  | .other message => message

/-- Why a check ended. -/
inductive CheckError where
  | failure (f : Failure)
  | noSuchColumn (table column : String)
  | noSuchTable (table : String)
  | rowOutOfBounds (table : String) (row : Nat)
  | notComparable (table : String)
  | config (problem : ConfigProblem)
deriving DecidableEq

def CheckError.message : CheckError → String
  | .failure f => f.text
  | .noSuchColumn table column => "No such column '" ++ column ++ "' in table '" ++ table ++ "'"
  | .noSuchTable table => "No such table '" ++ table ++ "'"
  | .rowOutOfBounds table row =>
    "Row " ++ toString row ++ " is out of bounds for table '" ++ table ++ "'"
  | .notComparable table => "Row counts of table '" ++ table ++ "' cannot be compared"
  | .config problem => "Configuration error: " ++ problem.message

end TableDiff
