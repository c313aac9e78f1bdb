import TableDiff.Command.Arguments
import TableDiff.Dataset.Sorted
import TableDiff.Encoding.Label
import TableDiff.Failure.Listing
import TableDiff.Json.Decoding
import TableDiff.Json.Printer
import TableDiff.Loading

/-!
# The comparison command

Compares two files of records, or two directories of them, and says how they differ. What it reads
is given as a value, and so is what it answers: a text to print, and an error if there is one.
-/

namespace TableDiff.Command

/-- Why a comparison does not end well. That there are differences is such a reason. -/
inductive Trouble where
  | config (path : String) (cause : LoadError)
  | encoding (cause : Encoding.LabelError)
  | table (path : String) (cause : LoadError)
  | dataset (cause : LoadError)
  | check (cause : CheckError)
  | unlikePaths (expected actual : String)
  | differences (count : Nat)

def Trouble.message : Trouble → String
  | .config path cause => "Loading config from " ++ Text.quotePath path ++ ": " ++ cause.message
  | .encoding cause => cause.message
  | .table path cause => "Loading table from " ++ Text.quotePath path ++ ": " ++ cause.message
  | .dataset cause => cause.message
  | .check cause => cause.message
  | .unlikePaths expected actual =>
    "Expected " ++ Text.quotePath expected ++ " and actual " ++ Text.quotePath actual ++
      " must both be files or both be directories"
  | .differences count => String.ofList (Number.digits count) ++ " difference(s) found"

/-- What a command answers. -/
structure Outcome where
  output : String
  trouble : Option Trouble

/-- The exit code of a command line that is not understood. -/
def usageCode : UInt32 := 2

/-- The exit code of a command. -/
def Outcome.code (o : Outcome) : UInt32 := if o.trouble.isSome then 1 else 0

/-! ## Comparing -/

/-- The configuration of a comparison: the one in the file, with the arguments added to it. -/
def configuration (files : Files) (args : Arguments) : Except Trouble CompareConfig := do
  let config ← match args.config with
    | some path => (files.loadConfig path).mapError (.config path)
    | none => .ok .empty
  return { config with
    exclude := config.exclude ++ args.exclude
    additional := config.additional ++ args.additional
    rowCount := if args.strictRowCount then .strict else config.rowCount
    caseSensitiveTables := args.caseSensitiveTables || config.caseSensitiveTables }

/-- The failure at which a comparison ended, if it ended at one. -/
def firstFailure : Except CheckError Unit → Except Trouble (List Failure)
  | .ok () => .ok []
  | .error (.failure f) => .ok [f]
  | .error e => .error (.check e)

/-- A table from a file, with its rows in order. -/
def sortedTable (files : Files) (options : ReadOptions) (keys : List String) (path : String) :
    Except Trouble MemoryTable := do
  let t ← (files.loadTable options path).mapError (.table path)
  (t.sortBy keys).mapError .check

/-- A dataset from a directory, with the rows of its tables in order. -/
def sortedDataset (files : Files) (options : ReadOptions) (keys : List String) (path : String) :
    Except Trouble MemoryDataset := do
  let d ← (files.loadDataset options path).mapError .dataset
  (d.sortBy keys).mapError .check

/-- The failures of a comparison. -/
def failures (files : Files) (args : Arguments) : Except Trouble (List Failure) := do
  let config ← configuration files args
  let encoding ← (Encoding.ofLabel args.inputEncoding).mapError .encoding
  let options : ReadOptions := ⟨args.delimiter, encoding, config.caseSensitiveTables⟩
  match files.isDirectory args.expected, files.isDirectory args.actual with
  | false, false =>
    let expected ← sortedTable files options args.sortBy args.expected
    let actual ← sortedTable files options args.sortBy args.actual
    let sides : Sides Table := .distinct expected.toTable actual.toTable
    if args.failFast then firstFailure (config.assertion.assertTables sides)
    else (config.assertion.collectTables sides).mapError .check
  | true, true =>
    let expected ← sortedDataset files options args.sortBy args.expected
    let actual ← sortedDataset files options args.sortBy args.actual
    let sides : Sides Dataset := .distinct expected.toDataset actual.toDataset
    if args.failFast then firstFailure (config.assertion.assertDatasets sides)
    else (config.assertion.collectDatasets sides).mapError .check
  | _, _ => .error (.unlikePaths args.expected args.actual)

/-- The text that shows failures; as a listing, no failures are no text. -/
def render (format : OutputFormat) (failures : List Failure) : String :=
  match format with
  | .text => if failures = [] then "" else Listing.render failures
  | .json => (Failure.listingJson failures).pretty ++ "\n"

/-- Runs a comparison. -/
def compare (files : Files) (args : Arguments) : Outcome :=
  match failures files args with
  | .error e => ⟨"", some e⟩
  | .ok fs => ⟨render args.format fs, if fs = [] then none else some (.differences fs.length)⟩

/-! ## Help -/

def versionText : String := "csv-assert 0.3.0\n"

def helpText : String :=
  "Assert that tabular data matches an expected snapshot\n\n" ++
  "Usage: csv-assert <COMMAND>\n\n" ++
  "Commands:\n" ++
  "  compare  Compare an expected CSV file (or directory of CSV files) with an actual one\n" ++
  "  help     Print this message or the help of the given subcommand(s)\n\n" ++
  "Options:\n" ++
  "  -h, --help     Print help\n" ++
  "  -V, --version  Print version\n"

/-- The options of a comparison as its help shows them. -/
def optionHelp : List (String × String) :=
  [("  -e, --expected <EXPECTED>",
      "Expected CSV/TSV file, or a directory of them for a dataset comparison"),
    ("  -a, --actual <ACTUAL>",
      "Actual CSV/TSV file, or a directory of them for a dataset comparison"),
    ("  -c, --config <CONFIG>", "YAML file with comparator, exclusion and row-count settings"),
    ("      --exclude <EXCLUDE>",
      "Column patterns to leave out of the comparison " ++
        "(`*`/`?` globs, optionally `TABLE.COLUMN`)"),
    ("      --additional <ADDITIONAL>",
      "Columns whose values are echoed in every value failure"),
    ("      --sort-by <SORT_BY>", "Sort both sides by these columns before comparing rows"),
    ("      --fail-fast", "Stop at the first difference instead of collecting all of them"),
    ("      --strict-row-count",
      "Treat differing row counts as a hard error instead of a reported failure"),
    ("      --case-sensitive-tables", "Match table names exactly instead of ignoring case"),
    ("      --format <FORMAT>",
      "How failures are printed [default: text] [possible values: text, json]"),
    ("      --delimiter <DELIMITER>",
      "CSV delimiter character (supports ',', 'tab', ';', '|')"),
    ("      --input-encoding <INPUT_ENCODING>",
      "Character encoding of the input files (defaults to utf-8)"),
    ("  -h, --help", "Print help")]

def compareHelpText : String :=
  "Compare an expected CSV file (or directory of CSV files) with an actual one\n\n" ++
  "Usage: csv-assert compare [OPTIONS] --expected <EXPECTED> --actual <ACTUAL>\n\n" ++
  "Options:\n" ++
  String.join (optionHelp.map fun (option, help) => option ++ "\n          " ++ help ++ "\n")

/-- Answers a request. -/
def run (files : Files) : Request → Outcome
  | .compare args => compare files args
  | .help => ⟨helpText, none⟩
  | .compareHelp => ⟨compareHelpText, none⟩
  | .version => ⟨versionText, none⟩

end TableDiff.Command
