import TableDiff.Csv.Delimiter

/-!
# Arguments of the command line

What the words behind the name of the program ask for. A word that starts with a hyphen is an
option, unless it is a hyphen alone. The value of an option is the next word, or stands in the same
word, behind an equals sign. Options with one value, and switches, may come only once.
-/

namespace TableDiff.Command

/-- How failures are written. -/
inductive OutputFormat where
  | text
  | json
deriving DecidableEq

/-- What a comparison is asked for. -/
structure Arguments where
  expected : String
  actual : String
  config : Option String
  exclude : List String
  additional : List String
  sortBy : List String
  failFast : Bool
  strictRowCount : Bool
  caseSensitiveTables : Bool
  format : OutputFormat
  delimiter : Option UInt8
  inputEncoding : Option String
deriving DecidableEq

/-- What the command line asks for. -/
inductive Request where
  | compare (args : Arguments)
  | help
  | compareHelp
  | version
deriving DecidableEq

/-- Why the words of a command line are not understood. -/
inductive UsageError where
  | noCommand
  | unexpected (word : String)
  | missingValue (option : String)
  | repeatedOption (option : String)
  | badValue (option value : String)
  | missingOption (option : String)
deriving DecidableEq

def UsageError.message : UsageError → String
  | .noCommand => "a command is required"
  | .unexpected word => "unexpected argument '" ++ word ++ "' found"
  | .missingValue option => "a value is required for '--" ++ option ++ "' but none was supplied"
  | .repeatedOption option =>
    "the argument '--" ++ option ++ "' cannot be used multiple times"
  | .badValue option value => "invalid value '" ++ value ++ "' for '--" ++ option ++ "'"
  | .missingOption option => "the required argument '--" ++ option ++ "' was not provided"

/-! ## Options -/

/-- The options of a comparison. -/
inductive Flag where
  | expected
  | actual
  | config
  | exclude
  | additional
  | sortBy
  | failFast
  | strictRowCount
  | caseSensitiveTables
  | format
  | delimiter
  | inputEncoding
  | help
deriving DecidableEq

namespace Flag

def longNames : List (String × Flag) :=
  [("expected", .expected), ("actual", .actual), ("config", .config), ("exclude", .exclude),
    ("additional", .additional), ("sort-by", .sortBy), ("fail-fast", .failFast),
    ("strict-row-count", .strictRowCount), ("case-sensitive-tables", .caseSensitiveTables),
    ("format", .format), ("delimiter", .delimiter), ("input-encoding", .inputEncoding),
    ("help", .help)]

def shortNames : List (Char × Flag) :=
  [('e', .expected), ('a', .actual), ('c', .config), ('h', .help)]

/-- The long name of an option. -/
def name (f : Flag) : String := ((longNames.find? fun e => e.2 == f).map (·.1)).getD ""

/-- Whether an option is a switch, which takes no value. -/
def isSwitch : Flag → Bool
  | .failFast | .strictRowCount | .caseSensitiveTables | .help => true
  | _ => false

end Flag

/-! ## Reading -/

/-- The arguments of a comparison while they are read. -/
structure Draft where
  expected : Option String
  actual : Option String
  config : Option String
  exclude : List String
  additional : List String
  sortBy : List String
  failFast : Bool
  strictRowCount : Bool
  caseSensitiveTables : Bool
  format : Option OutputFormat
  delimiter : Option UInt8
  inputEncoding : Option String

namespace Draft

def empty : Draft := ⟨none, none, none, [], [], [], false, false, false, none, none, none⟩

/-- A value that is new. -/
def once {α : Type} (f : Flag) (old : Option α) (new : α) : Except UsageError (Option α) :=
  match old with
  | none => .ok (some new)
  | some _ => .error (.repeatedOption f.name)

/-- A path that is new and not empty. -/
def oncePath (f : Flag) (old : Option String) (new : String) : Except UsageError (Option String) :=
  if new = "" then .error (.missingValue f.name) else once f old new

/-- Turns on a switch that is off. -/
def switchOn (f : Flag) (old : Bool) : Except UsageError Bool :=
  if old then .error (.repeatedOption f.name) else .ok true

def readFormat (value : String) : Except UsageError OutputFormat :=
  if value = "text" then .ok .text
  else if value = "json" then .ok .json
  else .error (.badValue Flag.format.name value)

def readDelimiter (value : String) : Except UsageError UInt8 :=
  (Csv.readDelimiter value).mapError fun _ => .badValue Flag.delimiter.name value

/-- Takes in a switch. -/
def setSwitch (d : Draft) (f : Flag) : Except UsageError Draft :=
  match f with
  | .failFast => (switchOn f d.failFast).map fun b => { d with failFast := b }
  | .strictRowCount => (switchOn f d.strictRowCount).map fun b => { d with strictRowCount := b }
  | .caseSensitiveTables =>
    (switchOn f d.caseSensitiveTables).map fun b => { d with caseSensitiveTables := b }
  | _ => .ok d

/-- Takes in an option with its value. -/
def setValue (d : Draft) (f : Flag) (value : String) : Except UsageError Draft :=
  match f with
  | .expected => (oncePath f d.expected value).map fun v => { d with expected := v }
  | .actual => (oncePath f d.actual value).map fun v => { d with actual := v }
  | .config => (oncePath f d.config value).map fun v => { d with config := v }
  | .exclude => .ok { d with exclude := d.exclude ++ [value] }
  | .additional => .ok { d with additional := d.additional ++ [value] }
  | .sortBy => .ok { d with sortBy := d.sortBy ++ value.splitOn "," }
  | .format => do
    let v ← once f d.format (← readFormat value)
    return { d with format := v }
  | .delimiter => do
    let v ← once f d.delimiter (← readDelimiter value)
    return { d with delimiter := v }
  | .inputEncoding => (once f d.inputEncoding value).map fun v => { d with inputEncoding := v }
  | _ => .ok d

/-- The arguments, of which the two paths must be there. -/
def finish (d : Draft) : Except UsageError Arguments :=
  match d.expected, d.actual with
  | none, _ => .error (.missingOption Flag.expected.name)
  | _, none => .error (.missingOption Flag.actual.name)
  | some expected, some actual =>
    .ok ⟨expected, actual, d.config, d.exclude, d.additional, d.sortBy, d.failFast,
      d.strictRowCount, d.caseSensitiveTables, d.format.getD .text, d.delimiter,
      d.inputEncoding⟩

end Draft

/-- An option as a word writes it, perhaps with its value. -/
structure Word where
  flag : Flag
  value : Option String

/-- The option that a word starts with, if it is one. -/
def Word.ofText? (text : String) : Option Word :=
  match text.toList with
  | '-' :: '-' :: rest =>
    let name := rest.takeWhile (· != '=')
    let value := match rest.dropWhile (· != '=') with
      | '=' :: v => some (String.ofList v)
      | _ => none
    (Flag.longNames.lookup (String.ofList name)).map fun f => ⟨f, value⟩
  | '-' :: c :: rest =>
    let value := match rest with
      | [] => none
      | '=' :: v => some (String.ofList v)
      | v => some (String.ofList v)
    (Flag.shortNames.lookup c).map fun f => ⟨f, if f.isSwitch then none else value⟩
  | _ => none

/-- Whether a word can be the value of the option before it. -/
def isValue (text : String) : Bool :=
  match text.toList with
  | '-' :: _ :: _ => false
  | _ => true

/-- Reads the options of a comparison, one after another. -/
def readOptions (d : Draft) : List String → Except UsageError Request
  | [] => d.finish.map .compare
  | word :: rest =>
    if word = "--" then
      match rest with
      | [] => d.finish.map .compare
      | next :: _ => .error (.unexpected next)
    else
      match Word.ofText? word with
      | none => .error (.unexpected word)
      | some ⟨f, value⟩ =>
        if f.isSwitch then
          if value.isSome then .error (.unexpected word)
          else if f = .help then .ok .compareHelp
          else
            match d.setSwitch f with
            | .error e => .error e
            | .ok d => readOptions d rest
        else
          match value, rest with
          | some value, rest =>
            match d.setValue f value with
            | .error e => .error e
            | .ok d => readOptions d rest
          | none, [] => .error (.missingValue f.name)
          | none, next :: rest =>
            if isValue next then
              match d.setValue f next with
              | .error e => .error e
              | .ok d => readOptions d rest
            else .error (.missingValue f.name)

/-- Reads a command line. -/
def Request.ofWords : List String → Except UsageError Request
  | [] => .error .noCommand
  | word :: rest =>
    if word = "compare" then readOptions .empty rest
    else if word = "help" then
      match rest with
      | [] => .ok .help
      | ["compare"] => .ok .compareHelp
      | topic :: _ => .error (.unexpected topic)
    else if word = "--help" then .ok .help
    else if word = "--version" then .ok .version
    else
      match word.toList with
      | '-' :: 'h' :: _ => .ok .help
      | '-' :: 'V' :: _ => .ok .version
      | _ => .error (.unexpected word)

end TableDiff.Command
