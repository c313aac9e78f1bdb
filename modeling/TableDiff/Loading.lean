import TableDiff.Csv.Delimiter
import TableDiff.Csv.Record
import TableDiff.Dataset
import TableDiff.Encoding
import TableDiff.Files
import TableDiff.Path
import TableDiff.Text.Quoted
import TableDiff.Value.Reading
import TableDiff.Yaml.Decoding

/-!
# Tables from files

A file of records becomes a table: the first record names the columns, and a schema beside the file
gives them datatypes. A directory becomes a dataset of the tables in it. Configurations and schemas
are files of their own.
-/

namespace TableDiff

/-- What a file is read for. -/
inductive FileUse where
  | input
  | config
  | schema
deriving DecidableEq

def FileUse.name : FileUse → String
  | .input => "input"
  | .config => "config"
  | .schema => "schema"

/-- Why something cannot be loaded. Lines are numbers of records, of which the headers are the
first. -/
inductive LoadError where
  | opening (use : FileUse) (path : String) (cause : FileError)
  | readingHeaders (path : String) (cause : FileError)
  | readingRow (line : Nat) (path : String) (cause : Csv.WidthError)
  | decoding (e : Encoding)
  | readingCell (line : Nat) (column path : String) (cause : ReadError)
  | parsing (use : FileUse) (path : String)
  | namelessTable (path : String)
  | listing (path : String) (cause : FileError)
  | check (cause : CheckError)

namespace LoadError

/-- What failed, without the reason. -/
def context : LoadError → String
  | .opening use path _ => "Opening " ++ use.name ++ " file " ++ Text.quotePath path
  | .readingHeaders path _ => "Reading headers of " ++ Text.quotePath path
  | .readingRow line path _ =>
    "Reading row " ++ String.ofList (Number.digits line) ++ " in " ++ Text.quotePath path
  | .decoding e => "Failed to decode text with encoding " ++ e.name
  | .readingCell line column path _ =>
    "Row " ++ String.ofList (Number.digits line) ++ " column '" ++ column ++ "' in " ++
      Text.quotePath path
  | .parsing use path => "Parsing " ++ use.name ++ " YAML " ++ Text.quotePath path
  | .namelessTable path => "Cannot derive a table name from " ++ Text.quotePath path
  | .listing path _ => "Listing dataset directory " ++ Text.quotePath path
  | .check cause => cause.message

/-- The reason, where it is another error. -/
def cause? : LoadError → Option String
  | .opening _ _ cause => some cause.message
  | .readingHeaders _ cause => some cause.message
  | .readingRow _ _ cause => some cause.message
  | .readingCell _ _ _ cause => some cause.message
  | .listing _ cause => some cause.message
  | _ => none

def message (e : LoadError) : String :=
  match e.cause? with
  | some cause => e.context ++ ": " ++ cause
  | none => e.context

end LoadError

/-- How files of records are read. -/
structure ReadOptions where
  delimiter : Option UInt8
  encoding : Encoding
  caseSensitiveTables : Bool

/-- The text of a file in UTF-8. -/
def Entry.text? : Entry → Option String
  | .file bytes => Encoding.decodeUtf8? bytes
  | .directory _ => none

namespace Files

/-! ## Configurations and schemas -/

/-- Reads a file of YAML. -/
def loadYaml {α : Type} (files : Files) (use : FileUse) (read : String → Option α)
    (path : String) : Except LoadError α :=
  match files path with
  | .error e => .error (.opening use path e)
  | .ok entry =>
    match entry.text?.bind read with
    | some a => .ok a
    | none => .error (.parsing use path)

def loadConfig (files : Files) (path : String) : Except LoadError CompareConfig :=
  files.loadYaml .config CompareConfig.ofYaml? path

def loadSchema (files : Files) (path : String) : Except LoadError Schema :=
  files.loadYaml .schema Schema.ofYaml? path

/-! ## Tables -/

/-- The texts of fields. -/
def decodeFields (e : Encoding) (fields : List (List UInt8)) : Except LoadError (List String) :=
  traverse
    (fun bytes =>
      match e.decode? bytes with
      | some text => .ok text
      | none => .error (.decoding e))
    fields

/-- The columns of a table, typed by the schema beside its file if there is one. -/
def loadColumns (files : Files) (path : String) (headers : List String) :
    Except LoadError (List Column) :=
  match (Path.schemaPath? path).filter files.isFile with
  | none => .ok (headers.map .untyped)
  | some schemaPath =>
    match files.loadSchema schemaPath with
    | .error e => .error e
    | .ok schema => .ok (schema.columnsFor headers)

/-- The cells of a row; the field of each column is read under its datatype. -/
def readCells (path : String) (line : Nat) (columns : List Column) (fields : List String) :
    Except LoadError (List Cell) :=
  traverse
    (fun (column, field) =>
      match Cell.read field column.datatype with
      | .ok cell => .ok cell
      | .error e => .error (.readingCell line column.name path e))
    (columns.zip fields)

/-- The cells of a record, which must be as wide as the headers. -/
def readRecord (path : String) (e : Encoding) (columns : List Column) (line : Nat)
    (record : Csv.Record) : Except LoadError (List Cell) :=
  match record.fieldsOfWidth columns.length with
  | .error e => .error (.readingRow line path e)
  | .ok fields =>
    match decodeFields e fields with
    | .error e => .error e
    | .ok texts => readCells path line columns texts

/-- Adds a row for each record to a table; `line` is that of the first one. -/
def addRecords (path : String) (e : Encoding) (t : MemoryTable) (line : Nat) :
    List Csv.Record → Except LoadError MemoryTable
  | [] => .ok t
  | record :: rest =>
    match readRecord path e t.columns line record with
    | .error e => .error e
    | .ok row =>
      match t.push row with
      | .error e => .error (.check e)
      | .ok t => addRecords path e t (line + 1) rest

/-- Reads a file of records. The table is named after the stem of the file. -/
def loadTable (files : Files) (options : ReadOptions) (path : String) :
    Except LoadError MemoryTable := do
  let entry ← (files path).mapError (.opening .input path)
  let bytes ← entry.bytes.mapError (.readingHeaders path)
  let sheet := Csv.Sheet.read (Csv.delimiterFor path options.delimiter) bytes
  let headers ← decodeFields options.encoding sheet.headers
  let columns ← files.loadColumns path headers
  match Path.stem? path with
  | none => .error (.namelessTable path)
  | some name => addRecords path options.encoding (.empty name columns) 2 sheet.rows

/-! ## Datasets -/

/-- The files of records in a directory, in the order of their names. -/
def dataFiles (files : Files) (directory : String) (names : List String) : List String :=
  let paths := (names.mergeSort fun a b => decide (a ≤ b)).map (Path.join directory.toList)
  paths.filter fun path =>
    files.isFile path && (Path.hasExtension path "csv" || Path.hasExtension path "tsv")

/-- Adds the table of each file to a dataset. -/
def addTables (files : Files) (options : ReadOptions) (d : MemoryDataset) :
    List String → Except LoadError MemoryDataset
  | [] => .ok d
  | path :: rest =>
    match files.loadTable options path with
    | .error e => .error e
    | .ok t =>
      match d.add t with
      | .error e => .error (.check e)
      | .ok d => addTables files options d rest

/-- Reads the files of records in a directory. -/
def loadDataset (files : Files) (options : ReadOptions) (directory : String) :
    Except LoadError MemoryDataset := do
  let entry ← (files directory).mapError (.listing directory)
  let names ← entry.names.mapError (.listing directory)
  files.addTables options (.empty options.caseSensitiveTables)
    (files.dataFiles directory names)

end Files

end TableDiff
