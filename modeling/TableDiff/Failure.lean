/-!
# Failures

A failure is a difference as it is reported: a message and, mostly, the expected and the actual
state as texts.
-/

namespace TableDiff

/-- A reported difference. -/
structure Failure where
  message : String
  expected : Option String
  actual : Option String
deriving DecidableEq

namespace Failure

/-- A failure of which there is only a message. -/
def ofMessage (message : String) : Failure := ⟨message, none, none⟩

/-- A failure with both states. -/
def ofValues (message expected actual : String) : Failure := ⟨message, some expected, some actual⟩

/-- A failure on one line; both states are shown or none. -/
def text (f : Failure) : String :=
  match f.expected, f.actual with
  | some expected, some actual =>
    f.message ++ " expected:<" ++ expected ++ "> but was:<" ++ actual ++ ">"
  | _, _ => f.message

end Failure

end TableDiff
