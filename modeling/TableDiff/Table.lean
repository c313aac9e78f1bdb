import TableDiff.CheckError
import TableDiff.Column
import TableDiff.Value

/-!
# Tables

A table as a comparison sees it: a name, columns in an order of its own, perhaps a number of rows,
and a lookup of cells by row and column name. A table that cannot count its rows can still be read
row by row, and has only finitely many: `extent` bounds the rows that can be read.
-/

namespace TableDiff

/-- A source of rows. -/
structure Table where
  name : String
  columns : List Column
  rowCount : Option Nat
  value : Nat → String → Except CheckError Cell
  extent : Nat
  unreadable_beyond : ∀ row column, extent ≤ row → ∀ cell, value row column ≠ .ok cell
  /-- An address by which the table is known again where two datasets hand it out. A table that one
  dataset has for itself needs none. -/
  identity : Option Nat := none

namespace Table

/-- The first column with a name. -/
def column? (t : Table) (name : String) : Option Column := t.columns.find? (·.isNamed name)

/-- Whether the table has a row, judged by one of its columns. -/
def hasRow (t : Table) (row : Nat) (column : String) : Except CheckError Bool :=
  match t.value row column with
  | .ok _ => .ok true
  | .error (.rowOutOfBounds _ _) => .ok false
  | .error e => .error e

theorem lt_extent_of_hasRow {t : Table} {row : Nat} {column : String}
    (h : t.hasRow row column = .ok true) : row < t.extent := by
  unfold hasRow at h
  cases hv : t.value row column with
  | ok cell => exact Nat.lt_of_not_le fun hle => t.unreadable_beyond row column hle cell hv
  | error e => cases e <;> simp [hv] at h

/-- Whether two tables that were handed out are one. -/
def isSame (t u : Table) : Bool := t.identity.isSome && t.identity == u.identity

/-- The same rows under another announced number of rows. -/
def withRowCount (t : Table) (count : Option Nat) : Table := { t with rowCount := count }

end Table

/-- Two things to compare: one thing with itself, or two different ones. -/
inductive Sides (α : Type) where
  | itself (x : α)
  | distinct (expected actual : α)

namespace Sides

variable {α : Type}

def expected : Sides α → α
  | itself x => x
  | distinct e _ => e

def actual : Sides α → α
  | itself x => x
  | distinct _ a => a

/-- Two tables of two datasets, which may share one. -/
def ofTables (expected actual : Table) : Sides Table :=
  if expected.isSame actual then .itself expected else .distinct expected actual

end Sides

end TableDiff
