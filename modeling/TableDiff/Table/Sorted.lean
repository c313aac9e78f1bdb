import TableDiff.Table
import TableDiff.Traverse
import TableDiff.Value.Order

/-!
# Sorted tables

The rows of a table in the order of their cells in some key columns, so that tables can be
compared without regard to the order of their rows. Rows with equal key cells keep their order.
-/

namespace TableDiff

/-! ## Sorting -/

section Sorting

variable {α : Type}

/-- Inserts an element into a list that is sorted downward, before the first element that is not
greater. -/
def insertDescending (less : α → α → Bool) (x : α) : List α → List α
  | [] => [x]
  | y :: rest => if less x y then y :: insertDescending less x rest else x :: y :: rest

/-- Sorts a list by inserting its elements from first to last, each behind those that are not
greater than it. -/
def insertionSort (less : α → α → Bool) (xs : List α) : List α :=
  (xs.foldl (fun sorted x => insertDescending less x sorted) []).reverse

end Sorting

/-- Compares cells one by one; the first that differ decide. -/
def compareCells : List Cell → List Cell → Ordering
  | a :: as, b :: bs => (Cell.compare a b).then (compareCells as bs)
  | _, _ => .eq

/-! ## Tables -/

/-- A table together with an order of its rows. -/
structure SortedTable where
  inner : Table
  order : Array Nat

namespace SortedTable

/-- The name of the column that a sort key names. -/
def resolveKey (t : Table) (key : String) : Except CheckError String :=
  match t.column? key with
  | some c => .ok c.name
  | none => .error (.noSuchColumn t.name key)

/-- The key cells of a row, with the number of the row. -/
def keyedRow (t : Table) (keys : List String) (row : Nat) : Except CheckError (Nat × List Cell) :=
  (traverse (t.value row) keys).map (row, ·)

/-- Whether a row comes before another one. -/
def precedes (a b : Nat × List Cell) : Bool := compareCells a.2 b.2 == .lt

/-- The rows of a table that can count them, sorted by the columns that `keys` name. -/
def sort (t : Table) (keys : List String) : Except CheckError SortedTable := do
  let count ← match t.rowCount with
    | some n => .ok n
    | none => .error (.notComparable t.name)
  let names ← traverse (resolveKey t) keys
  let keyed ← traverse (keyedRow t names) (List.range count)
  return ⟨t, ((insertionSort precedes keyed).map (·.1)).toArray⟩

/-- The rows sorted by all columns, in the order of the table's columns. -/
def sortByAll (t : Table) : Except CheckError SortedTable := sort t (t.columns.map (·.name))

/-- The cell at a row of the sorted table. -/
def value (s : SortedTable) (row : Nat) (column : String) : Except CheckError Cell :=
  match s.order[row]? with
  | none => .error (.rowOutOfBounds s.inner.name row)
  | some source => s.inner.value source column

theorem value_beyond (s : SortedTable) {row : Nat} (h : s.order.size ≤ row) (column : String)
    (cell : Cell) : s.value row column ≠ .ok cell := by
  simp [value, Array.getElem?_eq_none h]

/-- The sorted table as a comparison sees it. -/
def toTable (s : SortedTable) : Table where
  name := s.inner.name
  columns := s.inner.columns
  rowCount := some s.order.size
  value := s.value
  extent := s.order.size
  unreadable_beyond := fun _ column h cell => s.value_beyond h column cell

end SortedTable

end TableDiff
