import TableDiff.Datatype
import TableDiff.Name

/-!
# Columns

A column has a name, a datatype and a note whether its cells may be empty. Columns are found and
sorted by the keys of their names.
-/

namespace TableDiff

/-- A column of a table. -/
structure Column where
  name : String
  datatype : Datatype
  nullable : Bool
deriving DecidableEq

namespace Column

/-- A column of which only the name is known. -/
def untyped (name : String) : Column := ⟨name, .unknown, true⟩

/-- The key of the column's name. -/
def key (c : Column) : String := nameKey c.name

/-- Whether a name is that of the column. -/
def isNamed (c : Column) (name : String) : Bool :=
  sameIgnoringAsciiCase c.name name || c.key == nameKey name

/-- The columns in the order of their keys; columns of one key keep their order. -/
def sorted (columns : List Column) : List Column :=
  columns.mergeSort fun a b => decide (a.key ≤ b.key)

/-- The names of columns in brackets. -/
def listText (columns : List Column) : String := namesText (columns.map (·.name))

end Column

end TableDiff
