import TableDiff.Json
import TableDiff.Traverse

/-!
# Records in JSON

A record is an object with a member for each field, or a list of the fields in their order. This
module reads such values, field by field, and says what is wrong with others.
-/

namespace TableDiff.Json

/-- Why a value is not what is wanted. -/
inductive DecodeError where
  | invalidType (found : Json) (wanted : String)
  | missingField (name : String)
  | unknownField (name : String) (known : List String)
  | unknownVariant (name : String) (known : List String)
  | tooShort (length : Nat) (wanted : String)
  | tooLong (length : Nat)
  | notSingleMember
  | invalid (message : String)

/-- Names in backquotes, as errors list the alternatives. -/
def alternatives (names : List String) : String :=
  let quoted := names.map fun n => "`" ++ n ++ "`"
  match quoted with
  | [] => "there are no fields"
  | [a] => a
  | [a, b] => a ++ " or " ++ b
  | more => "one of " ++ ", ".intercalate more

def DecodeError.message : DecodeError → String
  | .invalidType found wanted => "invalid type: " ++ found.kind ++ ", expected " ++ wanted
  | .missingField name => "missing field `" ++ name ++ "`"
  | .unknownField name known => "unknown field `" ++ name ++ "`, expected " ++ alternatives known
  | .unknownVariant name known =>
    "unknown variant `" ++ name ++ "`, expected " ++ alternatives known
  | .tooShort length wanted => "invalid length " ++ toString length ++ ", expected " ++ wanted
  | .tooLong length =>
    "invalid length " ++ toString length ++ ", expected fewer elements in array"
  | .notSingleMember => "invalid value: map, expected map with a single key"
  | .invalid message => message

/-! ## Plain values -/

def asText : Json → Except DecodeError String
  | .text s => .ok s
  | v => .error (.invalidType v "a string")

def asBoolean : Json → Except DecodeError Bool
  | .boolean b => .ok b
  | v => .error (.invalidType v "a boolean")

/-- Null, or a value. -/
def asOption {α : Type} (read : Json → Except DecodeError α) : Json → Except DecodeError (Option α)
  | .null => .ok none
  | v => (read v).map some

def asList {α : Type} (read : Json → Except DecodeError α) : Json → Except DecodeError (List α)
  | .list items => traverse read items
  | v => .error (.invalidType v "a sequence")

/-- An object whose members are all of one kind. -/
def asMap {α : Type} (read : Json → Except DecodeError α) :
    Json → Except DecodeError (List (String × α))
  | .object members => traverse (fun (name, v) => (read v).map (name, ·)) members
  | v => .error (.invalidType v "a map")

/-! ## Records -/

/-- How a record of type `α` is read: `δ` is what is known of it while its fields are read, and
`finish` names the first field that is missing. -/
structure Record (δ α : Type) where
  name : String
  fields : List String
  strict : Bool
  initial : δ
  read : δ → String → Json → Except DecodeError δ
  finish : δ → Except String α

namespace Record

variable {δ α : Type}

/-- Reads the members of an object in turn. A strict record has no members besides its fields. -/
def readMembers (r : Record δ α) (draft : δ) : List (String × Json) → Except DecodeError δ
  | [] => .ok draft
  | (name, v) :: rest =>
    if r.fields.contains name then
      match r.read draft name v with
      | .ok draft => readMembers r draft rest
      | .error e => .error e
    else if r.strict then .error (.unknownField name r.fields)
    else readMembers r draft rest

/-- Reads a record. -/
def decode (r : Record δ α) : Json → Except DecodeError α
  | .object members =>
    match r.readMembers r.initial members with
    | .error e => .error e
    | .ok draft => (r.finish draft).mapError .missingField
  | .list items =>
    match r.readMembers r.initial (r.fields.zip items) with
    | .error e => .error e
    | .ok draft =>
      match r.finish draft with
      | .error field =>
        .error (.tooShort (r.fields.idxOf field)
          ("struct " ++ r.name ++ " with " ++ toString r.fields.length ++ " elements"))
      | .ok a =>
        if r.fields.length < items.length then .error (.tooLong items.length) else .ok a
  | v => .error (.invalidType v ("struct " ++ r.name))

end Record

end TableDiff.Json
