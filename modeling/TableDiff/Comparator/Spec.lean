import TableDiff.Comparator
import TableDiff.Number.Decimal.Reader
import TableDiff.Yaml.Node

/-!
# Comparators in configurations

A configuration names a comparator, or gives a mapping with a single entry if the comparator has
parameters.
-/

namespace TableDiff

/-- Why a node denotes no comparator. -/
inductive SpecError where
  | unknownComparator (name : String)
  | notASpec (node : Yaml.Node)
  | keyNotText
  | toleranceNotNumber (node : Yaml.Node)
  | invalidTolerance (given : String) (cause : Decimal.ReadError)
  | negativeTolerance (d : Decimal)
  | notMillis (field : String)
  | notAList (node : Yaml.Node)
  | unsupportedItem (node : Yaml.Node)

def SpecError.message : SpecError → String
  | .unknownComparator name => "Unknown comparator '" ++ name ++ "'"
  | .notASpec node => "Comparator must be a name or a single-key map: " ++ node.description
  | .keyNotText => "Comparator keys must be strings"
  | .toleranceNotNumber node => "Tolerance must be a number, found " ++ node.description
  | .invalidTolerance given cause =>
    "Invalid tolerance '" ++ given ++ "': " ++ cause.message
  | .negativeTolerance d => "Tolerance must not be negative: " ++ String.ofList d.text
  | .notMillis field => "'" ++ field ++ "' must be a non-negative integer"
  | .notAList node => "Expected a list of values, found " ++ node.description
  | .unsupportedItem node => "Unsupported list value " ++ node.description

namespace Comparator

/-! ## Names -/

/-- The canonical names of the comparators without parameters. -/
def names : List (String × Comparator) :=
  [("equal", .relation .equal), ("not_equal", .relation .notEqual),
    ("greater_than", .relation .greaterThan), ("greater_or_equal", .relation .greaterOrEqual),
    ("less_than", .relation .lessThan), ("less_or_equal", .relation .lessOrEqual),
    ("ignore", .ignore), ("case_insensitive", .caseInsensitive), ("trimmed", .trimmed)]

/-- The short names of the relations. -/
def shortNames : List (String × Comparator) :=
  [("eq", .relation .equal), ("ne", .relation .notEqual), ("gt", .relation .greaterThan),
    ("ge", .relation .greaterOrEqual), ("lt", .relation .lessThan), ("le", .relation .lessOrEqual)]

/-- The comparator of a name, in which case does not count and a hyphen is an underscore. -/
def ofName (given : String) : Except SpecError Comparator :=
  let cs := (Text.lowerAscii (Text.trim given.toList)).map fun c => if c = '-' then '_' else c
  match (names ++ shortNames).lookup (String.ofList cs) with
  | some c => .ok c
  | none => .error (.unknownComparator (String.ofList cs))

/-! ## Parameters -/

/-- A tolerance: a decimal number, written as a number or as a text, that is not negative. -/
def readTolerance (node : Yaml.Node) : Except SpecError Decimal := do
  let given ← match node with
    | .number n => .ok n.text
    | .text s => .ok s
    | other => .error (.toleranceNotNumber other)
  match Decimal.read (Text.trim given.toList) with
  | .error e => .error (.invalidTolerance given e)
  | .ok d => if d.negative then .error (.negativeTolerance d) else .ok d

/-- A number of milliseconds. -/
def readMillis (node : Yaml.Node) (field : String) : Except SpecError Int64 :=
  match node.int64? with
  | some i => if 0 ≤ i.toInt then .ok i else .error (.notMillis field)
  | none => .error (.notMillis field)

/-- The text of a list item, as a cell with that value shows it. -/
def readListItem : Yaml.Node → Except SpecError String
  | .text s => .ok s
  | .number n => .ok n.text
  | .boolean b => .ok (if b then "true" else "false")
  | .null => .ok Cell.nullText
  | other => .error (.unsupportedItem other)

/-- A list of texts. -/
def readTexts (node : Yaml.Node) : Except SpecError (List String) :=
  match node.list? with
  | some items => items.mapM readListItem
  | none => .error (.notAList node)

/-! ## Comparators -/

/-- The entry of a mapping that has just one. -/
def singleEntry? (node : Yaml.Node) : Option (Yaml.Node × Yaml.Node) :=
  match node.mapping? with
  | some [entry] => some entry
  | _ => none

theorem sizeOf_singleEntry? {node key body : Yaml.Node} (h : singleEntry? node = some (key, body)) :
    sizeOf body < sizeOf node := by
  unfold singleEntry? at h
  cases hm : node.mapping? with
  | none => simp [hm] at h
  | some entries =>
    have hlt := Yaml.Node.sizeOf_mapping? hm
    match entries, hm, hlt, h with
    | [(k, b)], hm, hlt, h =>
      simp only [hm, Option.some.injEq, Prod.mk.injEq] at h
      obtain ⟨rfl, rfl⟩ := h
      simp only [List.cons.sizeOf_spec, Prod.mk.sizeOf_spec, List.nil.sizeOf_spec] at hlt
      omega
    | [], hm, _, h => simp [hm] at h
    | _ :: _ :: _, hm, _, h => simp [hm] at h

/-- Reads a comparator. -/
def ofNode (node : Yaml.Node) : Except SpecError Comparator :=
  match node.text? with
  | some name => ofName name
  | none =>
    match h : singleEntry? node with
    | none => .error (.notASpec node)
    | some (key, body) =>
      have _smaller := sizeOf_singleEntry? h
      match key.text? with
      | none => .error .keyNotText
      | some name =>
        let name := String.ofList (Text.lowerAscii (Text.trim name.toList))
        if name = "tolerance" then do
          let bound ← readTolerance body
          return .tolerance bound
        else if name = "timestamp_tolerance_ms" then do
          let ms ← readMillis body "timestamp_tolerance_ms"
          return .window ms ms
        else if name = "timestamp_tolerance" then do
          let low ← readMillis (body.field "low_ms") "low_ms"
          let high ← readMillis (body.field "high_ms") "high_ms"
          return .window low high
        else if name = "one_of" then do
          let values ← readTexts body
          return .oneOf values
        else if name = "conditional" then do
          let when ← readTexts (body.field "when")
          have _then := body.sizeOf_field_le "then"
          have _otherwise := body.sizeOf_field_le "otherwise"
          let thenBy ← ofNode (body.field "then")
          let otherwiseBy ← ofNode (body.field "otherwise")
          return .conditional when thenBy otherwiseBy
        else .error (.unknownComparator name)
termination_by sizeOf node
decreasing_by all_goals omega

end Comparator

end TableDiff
