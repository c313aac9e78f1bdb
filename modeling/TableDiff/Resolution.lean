import TableDiff.Comparator
import TableDiff.Name

/-!
# Choice of comparators

Which comparator judges a column: the entry for the column prevails over the default of its
table, that over the fallback of all tables, that over the global default, and that over equality.
A level that says nothing is passed over as a whole; the column maps of two levels are never
merged.
-/

namespace TableDiff

/-- The comparators of one table. -/
structure ColumnComparators where
  default? : Option CellComparator
  columns? : Option (NameMap CellComparator)

/-- The comparators for tables that have none of their own. -/
structure ComparatorDefaults where
  default : CellComparator
  tables : NameMap (NameMap CellComparator)

namespace ComparatorDefaults

/-- A default for all tables, and no columns. -/
def ofDefault (c : CellComparator) : ComparatorDefaults := ⟨c, .empty⟩

/-- The defaults with a column map for a table. -/
def withTable (d : ComparatorDefaults) (table : String) (columns : List (String × CellComparator)) :
    ComparatorDefaults :=
  { d with tables := d.tables.insert table (.ofList columns) }

def columns? (d : ComparatorDefaults) (table : String) : Option (NameMap CellComparator) :=
  d.tables.find? table

end ComparatorDefaults

namespace ColumnComparators

/-- Comparators of which nothing is said. -/
def none : ColumnComparators := ⟨.none, .none⟩

/-- Comparators with a default and entries for columns, either of which may be missing. -/
def ofEntries (default? : Option CellComparator)
    (columns? : Option (List (String × CellComparator))) : ColumnComparators :=
  ⟨default?, columns?.map NameMap.ofList⟩

def withDefault (s : ColumnComparators) (c : CellComparator) : ColumnComparators :=
  { s with default? := some c }

def withColumn (s : ColumnComparators) (column : String) (c : CellComparator) : ColumnComparators :=
  { s with columns? := some ((s.columns?.getD .empty).insert column c) }

/-- The comparator for a column. -/
def select (s : ColumnComparators) (column : String) : CellComparator :=
  match s.columns?.bind (·.find? column) with
  | some c => c
  | .none => s.default?.getD .equality

/-- The comparators in which what is missing is taken from the defaults for a table. -/
def withDefaults (s : ColumnComparators) (table : String) (d : ComparatorDefaults) :
    ColumnComparators :=
  ⟨some (s.default?.getD d.default), s.columns?.or (d.columns? table)⟩

end ColumnComparators

/-- The comparators of the tables, by name. -/
abbrev ComparatorSource := String → ColumnComparators

/-- Defaults as the only source of comparators. -/
def ComparatorDefaults.source (d : ComparatorDefaults) : ComparatorSource := fun table =>
  ColumnComparators.none.withDefaults table d

/-- Comparators for tables, a fallback for tables without a default, and global defaults. -/
structure TableComparators where
  tables : NameMap ColumnComparators
  fallback? : Option CellComparator
  defaults? : Option ComparatorDefaults

namespace TableComparators

def empty : TableComparators := ⟨.empty, none, none⟩

def withTable (t : TableComparators) (table : String) (s : ColumnComparators) : TableComparators :=
  { t with tables := t.tables.insert table s }

def withFallback (t : TableComparators) (c : CellComparator) : TableComparators :=
  { t with fallback? := some c }

def withDefaults (t : TableComparators) (d : ComparatorDefaults) : TableComparators :=
  { t with defaults? := some d }

/-- The comparators in force for a table. -/
def source (t : TableComparators) : ComparatorSource := fun table =>
  let own := (t.tables.find? table).getD .none
  let own : ColumnComparators := { own with default? := own.default?.or t.fallback? }
  own.withDefaults table (t.defaults?.getD (.ofDefault .equality))

end TableComparators

end TableDiff
