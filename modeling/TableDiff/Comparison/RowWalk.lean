import TableDiff.Comparison.Alignment
import TableDiff.Resolution

/-!
# The row walk

The cells of two aligned tables are compared row by row, in the order of the rows, and within a
row in the order of the columns. The walk ends with a difference in the number of rows if one
table has a row where the other has none, whatever the tables announce.
-/

namespace TableDiff

/-- What the walk needs besides the tables. -/
structure RowWalk where
  rows : RowBound
  columns : List AlignedColumn
  comparators : ColumnComparators
  additional : List String

namespace RowWalk

variable {m : Type → Type} [Reporting m]

/-- How a lookup is shown beside a difference: the cell, or why there is none. -/
def renderLookup : Except CheckError Cell → String
  | .ok cell => cell.render
  | .error e => e.message

/-- The additional cells of a row. -/
def additionalColumns (expected actual : Table) (row : Nat) (names : List String) :
    List Message.AdditionalColumn :=
  names.map fun name =>
    ⟨name, renderLookup (expected.value row name), renderLookup (actual.value row name)⟩

/-- Compares the cells of one row in a column, and counts the difference. -/
def compareCell (w : RowWalk) (expected actual : Table) (row : Nat) (column : AlignedColumn) :
    m Nat := do
  let e ← Reporting.ofExcept (expected.value row column.expected.name)
  let a ← Reporting.ofExcept (actual.value row column.actual.name)
  match (w.comparators.select column.name).check column.datatype e a with
  | none => return 0
  | some mismatch =>
    Reporting.report (.value expected.name row column.name
      (additionalColumns expected actual row w.additional) mismatch e a)
    return 1

/-- Compares the cells of one row in the given columns, and counts the differences. -/
def compareRow (w : RowWalk) (expected actual : Table) (row : Nat) :
    List AlignedColumn → m Nat
  | [] => pure 0
  | column :: rest => do
    let here ← compareCell w expected actual row column
    let more ← compareRow w expected actual row rest
    return here + more

/-- The end of a walk at a known bound: neither table may have a further row. -/
def endAtBound (expected actual : Table) (probe : String) (bound : Nat) : m Nat := do
  let expectedMore ← Reporting.ofExcept (expected.hasRow bound probe)
  if expectedMore then
    Reporting.report (.rowCount expected.name (.moreThan bound) (.exactly bound))
    return 0
  else
    let actualMore ← Reporting.ofExcept (actual.hasRow bound probe)
    if actualMore then
      Reporting.report (.rowCount expected.name (.exactly bound) (.moreThan bound))
    return 0

/-- The end of a walk where the expected table has no row. -/
def endOfExpected (w : RowWalk) (expected actual : Table) (probe : String) (row : Nat) :
    m Nat :=
  match w.rows with
  | .known bound => do
    Reporting.report (.rowCount expected.name (.exactly row) (.exactly bound))
    return 0
  | .untilExhausted => do
    let actualMore ← Reporting.ofExcept (actual.hasRow row probe)
    if actualMore then
      Reporting.report (.rowCount expected.name (.exactly row) (.moreThan row))
    return 0

/-- The end of a walk where only the actual table has no row. -/
def endOfActual (w : RowWalk) (expected : Table) (row : Nat) : m Nat := do
  let total : RowTotal := match w.rows with
    | .known bound => .exactly bound
    | .untilExhausted => .moreThan row
  Reporting.report (.rowCount expected.name total (.exactly row))
  return 0

/-- Whether the walk has reached its bound. -/
def atBound (w : RowWalk) (row : Nat) : Option Nat :=
  match w.rows with
  | .known bound => if bound ≤ row then some bound else none
  | .untilExhausted => none

/-- Walks on from a row and counts the differences between cells. Whether the tables have the row
is judged by the column `probe`. -/
def walkFrom (w : RowWalk) (expected actual : Table) (probe : String) (row : Nat) : m Nat :=
  match w.atBound row with
  | some bound => endAtBound expected actual probe bound
  | none =>
    match h : expected.hasRow row probe with
    | .error e => Reporting.fail e
    | .ok false => w.endOfExpected expected actual probe row
    | .ok true =>
      -- The row can be read, so it lies below the extent and the walk comes to an end.
      have _within := Table.lt_extent_of_hasRow h
      match actual.hasRow row probe with
      | .error e => Reporting.fail e
      | .ok false => w.endOfActual expected row
      | .ok true =>
        do
          let here ← compareRow w expected actual row w.columns
          let more ← walkFrom w expected actual probe (row + 1)
          return here + more
termination_by expected.extent - row
decreasing_by omega

/-- One step of the walk. -/
theorem walkFrom_eq (w : RowWalk) (expected actual : Table) (probe : String) (row : Nat) :
    (w.walkFrom expected actual probe row : m Nat) =
      match w.atBound row with
      | some bound => endAtBound expected actual probe bound
      | none =>
        match expected.hasRow row probe with
        | .error e => Reporting.fail e
        | .ok false => w.endOfExpected expected actual probe row
        | .ok true =>
          match actual.hasRow row probe with
          | .error e => Reporting.fail e
          | .ok false => w.endOfActual expected row
          | .ok true => do
            let here ← w.compareRow expected actual row w.columns
            let more ← w.walkFrom expected actual probe (row + 1)
            return here + more := by
  rw [walkFrom]
  split
  · rfl
  · split <;> rename_i h <;> simp only [h]

/-- Compares the cells of two tables and counts the differences. Without columns there is nothing
to compare, not even the number of rows. -/
def compareRows (w : RowWalk) (expected actual : Table) : m Nat :=
  match w.columns with
  | [] => pure 0
  | first :: _ => walkFrom w expected actual first.name 0

end RowWalk

end TableDiff
