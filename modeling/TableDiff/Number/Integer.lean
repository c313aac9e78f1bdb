import TableDiff.Number.Digits
import TableDiff.Number.Power

/-!
# 64-bit integers as text

An integer is written as an optional sign and decimal digits. Reading stops at the first
character that spoils the number, and the error says how.
-/

namespace TableDiff.Number

/-- Why a text is no 64-bit integer. -/
inductive IntegerError where
  | empty
  | invalidDigit
  | tooLarge
  | tooSmall
deriving DecidableEq

def IntegerError.message : IntegerError → String
  | .empty => "cannot parse integer from empty string"
  | .invalidDigit => "invalid digit found in string"
  | .tooLarge => "number too large to fit in target type"
  | .tooSmall => "number too small to fit in target type"

/-- Reads digits onto `acc`, which stays at most `limit`. -/
def readMagnitude (limit : Nat) (overflow : IntegerError) (acc : Nat) :
    List Char → Except IntegerError Nat
  | [] => .ok acc
  | c :: rest =>
    if c.isDigit then
      let next := acc * 10 + digitValue c
      if next ≤ limit then readMagnitude limit overflow next rest else .error overflow
    else .error .invalidDigit

/-- Reads digits of which there is at least one. -/
def readUnsigned (limit : Nat) (overflow : IntegerError) (cs : List Char) :
    Except IntegerError Nat :=
  if cs = [] then .error .invalidDigit else readMagnitude limit overflow 0 cs

/-- The least and the greatest 64-bit integer, as magnitudes. -/
def int64Floor : Nat := twoPow 63

def int64Ceiling : Nat := twoPow 63 - 1

/-- Reads a 64-bit integer with an optional sign. -/
def readInteger (cs : List Char) : Except IntegerError Int64 :=
  match cs with
  | [] => .error .empty
  | '-' :: rest => do
    let n ← readUnsigned int64Floor .tooSmall rest
    return Int64.ofInt (-n)
  | '+' :: rest => do
    let n ← readUnsigned int64Ceiling .tooLarge rest
    return Int64.ofInt n
  | cs => do
    let n ← readUnsigned int64Ceiling .tooLarge cs
    return Int64.ofInt n

/-- The 64-bit integer `i`, if it is one. -/
def int64? (i : Int) : Option Int64 :=
  if -twoPow 63 ≤ i ∧ i < twoPow 63 then some (Int64.ofInt i) else none

/-- An integer as text: its digits after a minus sign if it is negative. -/
def intText (i : Int) : List Char :=
  if i < 0 then '-' :: digits i.natAbs else digits i.natAbs

end TableDiff.Number
