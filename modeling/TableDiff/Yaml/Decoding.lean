import TableDiff.Comparator.Spec
import TableDiff.Config
import TableDiff.Schema
import TableDiff.Yaml.Node.Reader

/-!
# Configurations and schemas in YAML

How the records of this library are read from documents. A record is a mapping from the names of
its fields, none of which comes twice.
-/

namespace TableDiff

namespace Yaml.Document

/-! ## Fields -/

/-- Whether no field of a record comes twice. -/
def distinctFields (known : List String) (fields : List (String × Tree)) : Bool :=
  known.all fun name => (fields.countP fun f => f.1 == name) ≤ 1

/-- The fields of a record, and the depth that is left for them. A strict record has no fields
besides the known ones. -/
def fields (d : Document) (known : List String) (strict : Bool) (depth : Nat) (t : Tree) :
    Reading (List (String × Tree) × Nat) := do
  let (fields, depth) ← d.entries depth t
  if distinctFields known fields && (!strict || fields.all fun f => known.contains f.1) then
    return (fields, depth)
  else failure

/-- A field that may be left out. -/
def fieldOr {α : Type} (fields : List (String × Tree)) (name : String) (default : α)
    (read : Tree → Reading α) : Reading α :=
  match fields.lookup name with
  | some t => read t
  | none => return default

/-- A field that has to be there. -/
def field {α : Type} (fields : List (String × Tree)) (name : String) (read : Tree → Reading α) :
    Reading α :=
  match fields.lookup name with
  | some t => read t
  | none => failure

def listOf {α : Type} (d : Document) (read : Nat → Tree → Reading α) (depth : Nat) (t : Tree) :
    Reading (List α) := do
  let (items, depth) ← d.items depth t
  items.mapM (read depth)

/-- A mapping whose entries are all of one kind, in the order of their names. -/
def mapOf {α : Type} (d : Document) (read : Nat → Tree → Reading α) (depth : Nat) (t : Tree) :
    Reading (List (String × α)) := do
  let (entries, depth) ← d.entries depth t
  let values ← entries.mapM fun (name, t) => return (name, ← read depth t)
  return sortedEntries values

def texts (d : Document) (depth : Nat) (t : Tree) : Reading (List String) :=
  d.listOf (fun _ => d.text) depth t

/-! ## Parts of configurations -/

def comparator (d : Document) (depth : Nat) (t : Tree) : Reading Comparator := do
  let n ← d.node depth t
  match Comparator.ofNode n with
  | .ok c => return c
  | .error _ => failure

def datatype (d : Document) (t : Tree) : Reading Datatype := do
  match Datatype.ofName (← d.text t) with
  | .ok t => return t
  | .error _ => failure

/-- One of the two policies, as a text, or as a tag at a node that is null. -/
def rowCountPolicy (d : Document) (t : Tree) : Reading RowCountPolicy := do
  let ofName (name : String) : Reading RowCountPolicy :=
    if name = "lenient" then return .lenient
    else if name = "strict" then return .strict
    else failure
  match ← d.follow t with
  | .scalar p style cs =>
    match p.tag.bind Node.ownTag? with
    | some name =>
      if style = .plain ∧ (cs = [] ∨ Node.isNull cs) then ofName (String.ofList name) else failure
    | none => ofName (String.ofList cs)
  | _ => failure

/-! ## Records -/

def column (d : Document) (depth : Nat) (t : Tree) : Reading Column := do
  let (fs, _) ← d.fields ["name", "datatype", "nullable"] false depth t
  return ⟨← field fs "name" d.text, ← fieldOr fs "datatype" .unknown d.datatype,
    ← fieldOr fs "nullable" true d.boolean⟩

def schema (d : Document) (depth : Nat) (t : Tree) : Reading Schema := do
  let (fs, depth) ← d.fields ["table", "columns"] false depth t
  return ⟨← fieldOr fs "table" none (d.optional d.text),
    ← field fs "columns" (d.listOf d.column depth)⟩

def tableConfig (d : Document) (depth : Nat) (t : Tree) : Reading TableConfig := do
  let (fs, depth) ← d.fields ["default", "columns", "exclude"] true depth t
  return ⟨← fieldOr fs "default" none (d.optional (d.comparator depth)),
    ← fieldOr fs "columns" [] (d.mapOf d.comparator depth),
    ← fieldOr fs "exclude" [] (d.texts depth)⟩

def compareConfig (d : Document) (depth : Nat) (t : Tree) : Reading CompareConfig := do
  let known := ["default", "case_sensitive_table_names", "row_count", "exclude",
    "additional_columns", "tables"]
  let (fs, depth) ← d.fields known true depth t
  return ⟨← fieldOr fs "default" none (d.optional (d.comparator depth)),
    ← fieldOr fs "case_sensitive_table_names" false d.boolean,
    ← fieldOr fs "row_count" .lenient d.rowCountPolicy,
    ← fieldOr fs "exclude" [] (d.texts depth),
    ← fieldOr fs "additional_columns" [] (d.texts depth),
    ← fieldOr fs "tables" [] (d.mapOf d.tableConfig depth)⟩

end Yaml.Document

/-! ## Texts -/

/-- Reads a configuration. -/
def CompareConfig.ofYaml? (text : String) : Option CompareConfig :=
  (Yaml.Document.ofText? text).bind fun d => d.run? d.compareConfig

/-- Reads a schema. -/
def Schema.ofYaml? (text : String) : Option Schema :=
  (Yaml.Document.ofText? text).bind fun d => d.run? d.schema

end TableDiff
