import TableDiff.Table
import TableDiff.Traverse

/-!
# Tables in memory

A table that holds its rows. Every row has as many cells as the table has columns. A lookup by
name finds the first column of that name.
-/

namespace TableDiff

/-- A table whose rows are at hand. -/
structure MemoryTable where
  name : String
  columns : List Column
  rows : Array (List Cell)
  width : ∀ row ∈ rows, row.length = columns.length

namespace MemoryTable

/-- A table without rows. -/
def empty (name : String) (columns : List Column) : MemoryTable := ⟨name, columns, #[], by simp⟩

/-- The table with one more row, which must have a cell for every column. -/
def push (t : MemoryTable) (row : List Cell) : Except CheckError MemoryTable :=
  if h : row.length = t.columns.length then
    .ok { t with
      rows := t.rows.push row
      width := fun r hr => (Array.mem_push.mp hr).elim (t.width r) fun he => he ▸ h }
  else .error (.config (.rowWidth t.rows.size t.name row.length t.columns.length))

/-- The position of the first column with a name. -/
def columnIndex (t : MemoryTable) (name : String) : Except CheckError Nat :=
  match t.columns.findIdx? (·.isNamed name) with
  | some i => .ok i
  | none => .error (.noSuchColumn t.name name)

/-- The cell at a row and a column. -/
def value (t : MemoryTable) (row : Nat) (column : String) : Except CheckError Cell :=
  match t.columnIndex column with
  | .error e => .error e
  | .ok i =>
    match t.rows[row]? with
    | none => .error (.rowOutOfBounds t.name row)
    | some cells => .ok (cells[i]?.join)

theorem value_beyond (t : MemoryTable) {row : Nat} (h : t.rows.size ≤ row) (column : String)
    (cell : Cell) : t.value row column ≠ .ok cell := by
  unfold value
  cases t.columnIndex column <;> simp [Array.getElem?_eq_none h]

/-- The table as a comparison sees it. -/
def toTable (t : MemoryTable) : Table where
  name := t.name
  columns := t.columns
  rowCount := some t.rows.size
  value := t.value
  extent := t.rows.size
  unreadable_beyond := fun _ column h cell => t.value_beyond h column cell

/-- One row of a table, cell by cell in the order of its columns. -/
def readRow (t : Table) (row : Nat) : Except CheckError (List Cell) :=
  traverse (fun c => t.value row c.name) t.columns

/-- Reads `count` rows from `row` on and adds them to a table of the same columns. -/
def readRows (t : Table) (copy : MemoryTable) (row : Nat) : Nat → Except CheckError MemoryTable
  | 0 => .ok copy
  | count + 1 =>
    match readRow t row with
    | .error e => .error e
    | .ok cells =>
      match copy.push cells with
      | .error e => .error e
      | .ok copy => readRows t copy (row + 1) count

/-- A copy of a table that can count its rows, in its present order. -/
def materialize (t : Table) : Except CheckError MemoryTable :=
  match t.rowCount with
  | none => .error (.notComparable t.name)
  | some count => readRows t (empty t.name t.columns) 0 count

/-- Whether two tables have the same name, columns and cells. -/
def same (t u : MemoryTable) : Bool :=
  t.name == u.name && t.columns == u.columns && t.rows.size == u.rows.size &&
    (t.rows.toList.zip u.rows.toList).all fun (r, s) =>
      r.length == s.length && (r.zip s).all fun (c, d) => Cell.same c d

end MemoryTable

end TableDiff
