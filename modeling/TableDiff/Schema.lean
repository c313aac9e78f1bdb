import TableDiff.Column

/-!
# Schemas

A schema declares the columns of a table whose source carries no datatypes.
-/

namespace TableDiff

/-- The declared columns of a table, and the name of the table where it is given. -/
structure Schema where
  table : Option String
  columns : List Column
deriving DecidableEq

namespace Schema

/-- The first declared column with a name. -/
def column? (s : Schema) (name : String) : Option Column := s.columns.find? (·.isNamed name)

/-- The column for a header: it keeps the header as its name, and is untyped if the schema does
not declare it. -/
def columnFor (s : Schema) (header : String) : Column :=
  match s.column? header with
  | some c => { c with name := header }
  | none => .untyped header

/-- The columns for the headers of a table. -/
def columnsFor (s : Schema) (headers : List String) : List Column := headers.map s.columnFor

end Schema

end TableDiff
