import TableDiff.Comparison.RowWalk
import TableDiff.Dataset
import TableDiff.Reporter

/-!
# Comparison of tables and datasets

Two tables are compared by structure and then, if that agrees, cell by cell. Two datasets are
compared by the names of their tables, and then table by table in the order of the names.
-/

namespace TableDiff

variable {m : Type → Type} [Reporting m]

/-- What a comparison leaves to its caller. -/
structure CompareOptions where
  filter : ColumnFilter
  additional : List String
  rowCount : RowCountPolicy
  caseSensitiveTables : Bool

/-- The options where none are chosen. -/
def CompareOptions.default : CompareOptions := ⟨.acceptAll, [], .lenient, false⟩

/-- Compares two tables under the comparators for them. -/
def compareTable (sides : Sides Table) (comparators : ColumnComparators)
    (options : CompareOptions) : m Unit := do
  match ← Alignment.align sides options.filter options.rowCount with
  | .identical => return ()
  | .mismatched => return ()
  | .aligned rows columns =>
    let walk : RowWalk := ⟨rows, columns, comparators, options.additional⟩
    let _ ← walk.compareRows sides.expected sides.actual
    return ()

/-! ## Datasets -/

/-- A table name and the key by which it is compared. -/
structure TableName where
  key : String
  name : String
deriving DecidableEq

/-- The names of a dataset's tables in the order of their keys; names of one key keep their
order. -/
def sortedTableNames (d : Dataset) (caseSensitive : Bool) : List TableName :=
  (d.tableNames.map fun name => ⟨tableKey caseSensitive name, name⟩).mergeSort
    fun a b => decide (a.key ≤ b.key)

/-- Compares the numbers and the keys of the tables. -/
def compareTableNames (expected actual : List TableName) : m Unit := do
  if expected.length ≠ actual.length then
    Reporting.report (.tableCount expected.length actual.length)
  if expected.map (·.key) ≠ actual.map (·.key) then
    Reporting.report (.tables (expected.map (·.key)) (actual.map (·.key)))

/-- The table that the actual dataset has for an expected name. -/
def actualTable (actual : Dataset) (names : List TableName) (wanted : TableName) :
    Except CheckError Table :=
  match names.find? (·.key == wanted.key) with
  | some found => actual.table found.name
  | none => .error (.noSuchTable wanted.name)

/-- Compares the tables of the given names in turn. If the names of the datasets differ, a table
that the actual dataset does not have is passed over. -/
def compareTablesOf (expected actual : Dataset) (actualNames : List TableName) (namesDiffer : Bool)
    (source : ComparatorSource) (options : CompareOptions) : List TableName → m Unit
  | [] => pure ()
  | wanted :: rest =>
    let others := compareTablesOf expected actual actualNames namesDiffer source options rest
    match actualTable actual actualNames wanted with
    | .error e =>
      match e, namesDiffer with
      | .noSuchTable _, true => others
      | e, _ => Reporting.fail e
    | .ok a => do
      let e ← Reporting.ofExcept (expected.table wanted.name)
      compareTable (.ofTables e a) (source wanted.name) options
      others

/-- Compares two datasets. -/
def compareDatasets (sides : Sides Dataset) (source : ComparatorSource) (options : CompareOptions) :
    m Unit :=
  match sides with
  | .itself _ => pure ()
  | .distinct expected actual => do
    let es := sortedTableNames expected options.caseSensitiveTables
    let as := sortedTableNames actual options.caseSensitiveTables
    compareTableNames es as
    let namesDiffer := es.map (·.key) != as.map (·.key)
    compareTablesOf expected actual as namesDiffer source options es

/-! ## Assertions -/

/-- Comparators and options for a comparison. -/
structure Assertion where
  comparators : TableComparators
  options : CompareOptions

namespace Assertion

/-- Equality everywhere, and the default options. -/
def default : Assertion := ⟨.empty, .default⟩

def compareTables (a : Assertion) (sides : Sides Table) : m Unit :=
  compareTable sides (a.comparators.source sides.expected.name) a.options

def compareDatasets (a : Assertion) (sides : Sides Dataset) : m Unit :=
  TableDiff.compareDatasets sides a.comparators.source a.options

/-- Every failure of a comparison of tables. -/
def collectTables (a : Assertion) (sides : Sides Table) : Except CheckError (List Failure) :=
  Reporter.Run.collect (a.compareTables sides)

/-- Every failure of a comparison of datasets. -/
def collectDatasets (a : Assertion) (sides : Sides Dataset) : Except CheckError (List Failure) :=
  Reporter.Run.collect (a.compareDatasets sides)

/-- The first failure of a comparison of tables, as an error. -/
def assertTables (a : Assertion) (sides : Sides Table) : Except CheckError Unit :=
  Reporter.Run.assert (a.compareTables sides)

/-- The first failure of a comparison of datasets, as an error. -/
def assertDatasets (a : Assertion) (sides : Sides Dataset) : Except CheckError Unit :=
  Reporter.Run.assert (a.compareDatasets sides)

end Assertion

end TableDiff
