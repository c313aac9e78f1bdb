import TableDiff.Value.Reading

/-!
# Casts

A cast turns a value into one of another datatype that means the same. Texts are read, everything
can become a text, and numbers, truth values and instants have the casts that keep their meaning.
-/

namespace TableDiff

/-- Why a value has no counterpart of a datatype. -/
inductive CastError where
  | unreadable (cause : ReadError)
  | notInterpretable (value : Value) (target : Datatype)
deriving DecidableEq

namespace CastError

/-- The sentence that a value cannot be taken as a datatype. -/
def summary : CastError → String
  | .unreadable cause => cause.summary
  | .notInterpretable value target =>
    "Cannot interpret '" ++ value.display ++ "' as " ++ target.name

/-- The same with the cause, where it is known. -/
def message : CastError → String
  | .unreadable cause => cause.message
  | e => e.summary

end CastError

namespace Value

/-- The cast of a value that is no text to another known datatype than `string`. -/
def convert? : Value → Datatype → Option Value
  | .float x, .integer =>
    if x.isIntegral then (Number.int64? x.truncate).map .integer else none
  | .decimal d, .integer =>
    if d.isIntegral then (Number.int64? d.truncate).map .integer else none
  | .boolean b, .integer => some (.integer (if b then 1 else 0))
  | v, .float => v.toDecimal?.map fun d => .float d.toBinary
  | v, .decimal => v.toDecimal?.map .decimal
  | .integer i, .boolean =>
    if i = 0 then some (.boolean false) else if i = 1 then some (.boolean true) else none
  | .dateTime d, .date => some (.date d.date)
  | .date d, .datetime => some (.dateTime ⟨d, .midnight⟩)
  | .dateTime d, .time => some (.time d.time)
  | _, _ => none

/-- The value of datatype `t` that means the same as `v`. -/
def cast (v : Value) (t : Datatype) : Except CastError Value :=
  if t = .unknown ∨ v.datatype = t then .ok v
  else if t = .string then .ok (.text v.display)
  else match v with
    | .text s =>
      match Cell.read s t with
      | .ok (some w) => .ok w
      | .ok none => .error (.notInterpretable v t)
      | .error e => .error (.unreadable e)
    | v =>
      match v.convert? t with
      | some w => .ok w
      | none => .error (.notInterpretable v t)

end Value

end TableDiff
