import TableDiff.Comparator.Spec
import TableDiff.Config
import TableDiff.Json.Record
import TableDiff.Schema

/-!
# Configurations, schemas and failures in JSON

How the records of this library are read from JSON. The comparators of a configuration are read
as they are in YAML.
-/

namespace TableDiff

mutual

/-- The YAML node with the same data. -/
def Yaml.Node.ofJson : Json → Yaml.Node
  | .null => .null
  | .boolean b => .boolean b
  | .integer i => .number (.integer i)
  | .float x => .number (.float x)
  | .text s => .text s
  | .list items => .list (Yaml.Node.ofJsonItems items)
  | .object members => .mapping (Yaml.Node.ofJsonMembers members)

def Yaml.Node.ofJsonItems : List Json → List Yaml.Node
  | [] => []
  | v :: rest => Yaml.Node.ofJson v :: Yaml.Node.ofJsonItems rest

def Yaml.Node.ofJsonMembers : List (String × Json) → List (Yaml.Node × Yaml.Node)
  | [] => []
  | (name, v) :: rest => (.text name, Yaml.Node.ofJson v) :: Yaml.Node.ofJsonMembers rest

end

namespace Json

/-! ## Comparators and datatypes -/

def asComparator (v : Json) : Except DecodeError Comparator :=
  (Comparator.ofNode (.ofJson v)).mapError fun e => .invalid e.message

def asDatatype (v : Json) : Except DecodeError Datatype := do
  let name ← asText v
  (Datatype.ofName name).mapError fun e => .invalid e.message

/-- One of the two policies, as a text or as an object with the policy as its only member. -/
def asRowCountPolicy (v : Json) : Except DecodeError RowCountPolicy :=
  let ofName (name : String) : Except DecodeError RowCountPolicy :=
    if name = "lenient" then .ok .lenient
    else if name = "strict" then .ok .strict
    else .error (.unknownVariant name ["lenient", "strict"])
  match v with
  | .text name => ofName name
  | .object [(name, body)] => do
    let policy ← ofName name
    match body with
    | .null => return policy
    | other => .error (.invalidType other "unit")
  | .object _ => .error .notSingleMember
  | other => .error (.invalidType other "string or map")

/-! ## Records -/

/-- A column under construction. -/
structure ColumnDraft where
  name? : Option String
  datatype : Datatype
  nullable : Bool

def columnRecord : Record ColumnDraft Column where
  name := "Column"
  fields := ["name", "datatype", "nullable"]
  strict := false
  initial := ⟨none, .unknown, true⟩
  read d field v :=
    if field = "name" then (asText v).map fun s => { d with name? := some s }
    else if field = "datatype" then (asDatatype v).map fun t => { d with datatype := t }
    else (asBoolean v).map fun b => { d with nullable := b }
  finish d :=
    match d.name? with
    | some name => .ok ⟨name, d.datatype, d.nullable⟩
    | none => .error "name"

/-- A schema under construction. -/
structure SchemaDraft where
  table : Option String
  columns? : Option (List Column)

def schemaRecord : Record SchemaDraft Schema where
  name := "TableSchema"
  fields := ["table", "columns"]
  strict := false
  initial := ⟨none, none⟩
  read d field v :=
    if field = "table" then (asOption asText v).map fun t => { d with table := t }
    else (asList columnRecord.decode v).map fun cs => { d with columns? := some cs }
  finish d :=
    match d.columns? with
    | some columns => .ok ⟨d.table, columns⟩
    | none => .error "columns"

def tableConfigRecord : Record TableConfig TableConfig where
  name := "TableConfig"
  fields := ["default", "columns", "exclude"]
  strict := true
  initial := .empty
  read d field v :=
    if field = "default" then (asOption asComparator v).map fun c => { d with default? := c }
    else if field = "columns" then
      (asMap asComparator v).map fun cs => { d with columns := sortedEntries cs }
    else (asList asText v).map fun ps => { d with exclude := ps }
  finish d := .ok d

def compareConfigRecord : Record CompareConfig CompareConfig where
  name := "CompareConfig"
  fields := ["default", "case_sensitive_table_names", "row_count", "exclude",
    "additional_columns", "tables"]
  strict := true
  initial := .empty
  read d field v :=
    if field = "default" then (asOption asComparator v).map fun c => { d with default? := c }
    else if field = "case_sensitive_table_names" then
      (asBoolean v).map fun b => { d with caseSensitiveTables := b }
    else if field = "row_count" then (asRowCountPolicy v).map fun p => { d with rowCount := p }
    else if field = "exclude" then (asList asText v).map fun ps => { d with exclude := ps }
    else if field = "additional_columns" then
      (asList asText v).map fun cs => { d with additional := cs }
    else
      (asMap tableConfigRecord.decode v).map fun ts => { d with tables := sortedEntries ts }
  finish d := .ok d

/-- A failure under construction. -/
structure FailureDraft where
  message? : Option String
  expected : Option String
  actual : Option String

def failureRecord : Record FailureDraft Failure where
  name := "Failure"
  fields := ["message", "expected", "actual"]
  strict := false
  initial := ⟨none, none, none⟩
  read d field v :=
    if field = "message" then (asText v).map fun s => { d with message? := some s }
    else if field = "expected" then (asOption asText v).map fun s => { d with expected := s }
    else (asOption asText v).map fun s => { d with actual := s }
  finish d :=
    match d.message? with
    | some message => .ok ⟨message, d.expected, d.actual⟩
    | none => .error "message"

/-! ## Writing -/

/-- A failure; what it does not tell is left out. -/
def ofFailure (f : Failure) : Json :=
  let member (name : String) (s : Option String) : List (String × Json) :=
    match s with
    | some s => [(name, .text s)]
    | none => []
  .object (("message", .text f.message) :: member "expected" f.expected ++ member "actual" f.actual)

end Json

/-- A listing of failures in JSON. -/
def Failure.listingJson (failures : List Failure) : Json := .list (failures.map Json.ofFailure)

end TableDiff
