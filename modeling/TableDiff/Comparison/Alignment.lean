import TableDiff.Filter
import TableDiff.Reporting
import TableDiff.Table

/-!
# Alignment

The structure of two tables is compared before their cells: the numbers of rows, the columns by
key, and the datatypes of paired columns. If the structure agrees, the columns that the filter
keeps are paired for the comparison of the cells.
-/

namespace TableDiff

/-- What is done if a table cannot count its rows. -/
inductive RowCountPolicy where
  /-- The rows that can be read are compared. -/
  | lenient
  /-- The comparison is refused. -/
  | strict
deriving DecidableEq

/-- How many rows are compared. -/
inductive RowBound where
  | known (n : Nat)
  /-- Until the expected table has no more rows. -/
  | untilExhausted
deriving DecidableEq

/-- Two columns of one key, and the datatype under which their cells are compared. -/
structure AlignedColumn where
  expected : Column
  actual : Column
  datatype : Datatype
deriving DecidableEq

/-- The name of the pair is that of the expected column. -/
def AlignedColumn.name (c : AlignedColumn) : String := c.expected.name

/-- How two tables stand to each other. -/
inductive Alignment where
  /-- There is nothing to compare: one table, or two without rows. -/
  | identical
  /-- A difference in structure was met. -/
  | mismatched
  | aligned (rows : RowBound) (columns : List AlignedColumn)
deriving DecidableEq

namespace Alignment

variable {m : Type → Type} [Reporting m]

/-- Whether two lists of columns have the same keys. -/
def sameKeys (expected actual : List Column) : Bool :=
  expected.map (·.key) == actual.map (·.key)

/-- Pairs two columns. Two different declared datatypes are a difference, and the cells are then
compared as they are. -/
def pair (table : String) (expected actual : Column) : m AlignedColumn :=
  match Datatype.resolve expected.datatype actual.datatype with
  | some t => pure ⟨expected, actual, t⟩
  | none => do
    Reporting.report (.datatypes table expected.name expected.datatype actual.datatype)
    return ⟨expected, actual, .unknown⟩

/-- Pairs two lists of columns. -/
def pairAll (table : String) : List Column → List Column → m (List AlignedColumn)
  | e :: expected, a :: actual => do
    let c ← pair table e a
    let rest ← pairAll table expected actual
    return c :: rest
  | _, _ => pure []

/-- Compares the columns of two tables and pairs those that the filter keeps. -/
def alignColumns (expected actual : Table) (filter : ColumnFilter) (rows : RowBound) :
    m Alignment :=
  let table := expected.name
  let es := Column.sorted expected.columns
  let as := Column.sorted actual.columns
  if es.length ≠ as.length then do
    Reporting.report (.columnCount table es as)
    return .mismatched
  else if !sameKeys es as then do
    Reporting.report (.columns table es as)
    return .mismatched
  else
    -- The filter sees the names as they are written, so it may keep only one of a pair.
    let es := es.filter (filter table)
    let as := as.filter (filter table)
    if !sameKeys es as then do
      Reporting.report (.columns table es as)
      return .mismatched
    else do
      let columns ← pairAll table es as
      return .aligned rows columns

/-- Compares the structure of two tables. -/
def align (sides : Sides Table) (filter : ColumnFilter) (policy : RowCountPolicy) :
    m Alignment :=
  match sides with
  | .itself _ => pure .identical
  | .distinct expected actual =>
    match expected.rowCount, actual.rowCount with
    | some e, some a =>
      if e ≠ a then do
        Reporting.report (.rowCount expected.name (.exactly e) (.exactly a))
        return .mismatched
      else if e = 0 then pure .identical
      else alignColumns expected actual filter (.known e)
    -- The number of rows that one side announces is the bound for both.
    | e, a =>
      if policy = .strict then Reporting.fail (.notComparable expected.name)
      else alignColumns expected actual filter
        (match e.or a with
          | some n => .known n
          | none => .untilExhausted)

end Alignment

end TableDiff
