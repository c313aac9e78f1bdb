import TableDiff.CheckError
import TableDiff.Difference

/-!
# Reporting

A comparison reports the differences that it meets, one after the other, and an error ends it. It
is written once, for every way in which reports may be taken.
-/

namespace TableDiff

/-- A way of taking the reports of a comparison. -/
class Reporting (m : Type → Type) extends Monad m where
  /-- One difference is met. -/
  report : Difference → m Unit
  /-- The comparison ends. -/
  fail : {α : Type} → CheckError → m α

namespace Reporting

variable {m : Type → Type} [Reporting m] {α : Type}

/-- A lookup, which reports nothing. -/
def ofExcept : Except CheckError α → m α
  | .ok a => pure a
  | .error e => fail e

end Reporting

end TableDiff
