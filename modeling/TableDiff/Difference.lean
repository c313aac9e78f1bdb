import TableDiff.Column
import TableDiff.Comparator
import TableDiff.Failure
import TableDiff.Message

/-!
# Differences

What a comparison of tables or datasets can find, and the failure that reports it.
-/

namespace TableDiff

/-- What is known of the number of rows of a table. -/
inductive RowTotal where
  | exactly (n : Nat)
  | moreThan (n : Nat)
deriving DecidableEq

def RowTotal.text : RowTotal → String
  | .exactly n => toString n
  | .moreThan n => "more than " ++ toString n

/-- A difference between two tables or datasets. -/
inductive Difference where
  | tableCount (expected actual : Nat)
  | tables (expected actual : List String)
  | rowCount (table : String) (expected actual : RowTotal)
  | columnCount (table : String) (expected actual : List Column)
  | columns (table : String) (expected actual : List Column)
  | datatypes (table column : String) (expected actual : Datatype)
  | value (table : String) (row : Nat) (column : String)
      (additional : List Message.AdditionalColumn) (mismatch : Mismatch) (expected actual : Cell)
deriving DecidableEq

/-- The report of a difference. -/
def Difference.toFailure : Difference → Failure
  | .tableCount expected actual =>
    .ofValues Message.tableCount (toString expected) (toString actual)
  | .tables expected actual =>
    .ofValues Message.tables (namesText expected) (namesText actual)
  | .rowCount table expected actual =>
    .ofValues (Message.rowCount table) expected.text actual.text
  | .columnCount table expected actual =>
    .ofValues (Message.columnCount table expected.length actual.length)
      (Column.listText expected) (Column.listText actual)
  | .columns table expected actual =>
    .ofValues (Message.columnMismatch table) (Column.listText expected) (Column.listText actual)
  | .datatypes table column expected actual =>
    .ofValues (Message.incompatibleTypes table column) expected.name actual.name
  | .value table row column additional mismatch expected actual =>
    .ofValues
      (Message.value table row column (Message.additionalInfo additional) (some mismatch.message))
      expected.render actual.render

end TableDiff
