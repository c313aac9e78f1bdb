import TableDiff.Comparison
import TableDiff.Filter.Pattern

/-!
# Configurations

A configuration chooses the comparators of columns and tables, the columns that are left out, and
the options of a comparison. Sections and columns are kept in the order of their names.
-/

namespace TableDiff

/-- The entries of a map in the order of their names; the last of several entries of one name
stays. -/
def sortedEntries {α : Type} (entries : List (String × α)) : List (String × α) :=
  entries.foldl
    (fun sorted e =>
      sorted.takeWhile (fun d => decide (d.1 < e.1)) ++
        e :: (sorted.dropWhile fun d => decide (d.1 < e.1)).filter fun d => d.1 != e.1)
    []

/-- The section of a configuration for one table. -/
structure TableConfig where
  default? : Option Comparator
  columns : List (String × Comparator)
  exclude : List String

namespace TableConfig

def empty : TableConfig := ⟨none, [], []⟩

/-- The comparators of the section. If it names no columns, the columns of the global defaults
apply. -/
def comparators (t : TableConfig) : ColumnComparators :=
  .ofEntries (t.default?.map .rule)
    (if t.columns.isEmpty then none else some (t.columns.map fun (column, c) => (column, .rule c)))

end TableConfig

/-- What a configuration says. -/
structure CompareConfig where
  default? : Option Comparator
  caseSensitiveTables : Bool
  rowCount : RowCountPolicy
  exclude : List String
  additional : List String
  tables : List (String × TableConfig)

namespace CompareConfig

def empty : CompareConfig := ⟨none, false, .lenient, [], [], []⟩

/-- The global defaults: the default comparator, or equality. -/
def defaults (c : CompareConfig) : ComparatorDefaults :=
  .ofDefault (.rule (c.default?.getD .equality))

/-- The comparators of all sections over the global defaults. -/
def comparators (c : CompareConfig) : TableComparators :=
  c.tables.foldl (fun t (name, section_) => t.withTable name section_.comparators)
    (TableComparators.empty.withDefaults c.defaults)

/-- The global exclusions, and those of the sections, each behind the name of its table and a
dot. -/
def columnFilter (c : CompareConfig) : PatternFilter :=
  c.tables.foldl
    (fun f (name, section_) =>
      section_.exclude.foldl (fun f pattern => f.addExclude (name ++ "." ++ pattern)) f)
    (.excluding c.exclude)

def options (c : CompareConfig) : CompareOptions :=
  ⟨c.columnFilter.accepts, c.additional, c.rowCount, c.caseSensitiveTables⟩

def assertion (c : CompareConfig) : Assertion := ⟨c.comparators, c.options⟩

end CompareConfig

end TableDiff
