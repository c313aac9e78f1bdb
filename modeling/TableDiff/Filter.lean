import TableDiff.Column

/-!
# Column filters

A filter decides, from the name of a table and a column, whether the column takes part in a
comparison.
-/

namespace TableDiff

/-- Whether a column of the named table is compared. -/
abbrev ColumnFilter := String → Column → Bool

/-- The filter that keeps every column. -/
def ColumnFilter.acceptAll : ColumnFilter := fun _ _ => true

end TableDiff
