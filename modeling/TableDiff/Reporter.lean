import TableDiff.Reporting

/-!
# Reporters

A reporter is told every failure of a comparison in turn. It keeps a state, and it may refuse a
failure with an error, at which the comparison ends.
-/

namespace TableDiff

/-- What is done with a failure. -/
abbrev Reporter (σ : Type) := σ → Failure → σ × Except CheckError Unit

namespace Reporter

/-- Keeps every failure and refuses none. -/
def collectAll : Reporter (Array Failure) := fun kept f => (kept.push f, .ok ())

/-- Refuses every failure, so that the first one is the error at which the comparison ends. -/
def failFast : Reporter Unit := fun _ f => ((), .error (.failure f))

/-! ## Runs -/

/-- A comparison under a reporter in some state: a difference goes to the reporter where it is
met, and a refusal ends the comparison there. -/
def Run (σ α : Type) : Type := Reporter σ → σ → σ × Except CheckError α

variable {σ : Type}

instance : Reporting (Run σ) where
  pure a := fun _ s => (s, .ok a)
  bind m f := fun r s =>
    match m r s with
    | (s, .ok a) => f a r s
    | (s, .error e) => (s, .error e)
  report d := fun r s => r s d.toFailure
  fail e := fun _ s => (s, .error e)

namespace Run

/-- All failures, unless the comparison ends in an error. -/
def collect (m : Run (Array Failure) Unit) : Except CheckError (List Failure) :=
  match m collectAll #[] with
  | (kept, .ok ()) => .ok kept.toList
  | (_, .error e) => .error e

/-- The first failure as an error, if there is one, otherwise the outcome. -/
def assert (m : Run Unit Unit) : Except CheckError Unit := (m failFast ()).2

end Run

end Reporter

end TableDiff
