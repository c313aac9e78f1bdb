import TableDiff.Number.Binary64
import TableDiff.Number.Digits

/-!
# Binary numbers from text

A number is written in decimal digits with an optional fraction and exponent, or by one of the
names `inf`, `infinity` and `nan` in any case, each with an optional sign. The value is the number
nearest to the exact decimal value.
-/

namespace TableDiff.Binary64

/-- Why a text is no number. -/
inductive ReadError where
  | empty
  | invalid
deriving DecidableEq

def ReadError.message : ReadError → String
  | .empty => "cannot parse float from empty string"
  | .invalid => "invalid float literal"

/-- The number nearest to `digits * 10 ^ exponent`. Beyond 10 ^ 310 it is infinite and below
10 ^ -330 it is zero, so no greater power of ten is ever formed. -/
def ofDecimal (negative : Bool) (digits : Nat) (exponent : Int) : Binary64 :=
  let top : Int := (Number.digits digits).length + exponent
  if digits = 0 ∨ top < -330 then zero negative
  else if 310 < top then infinity negative
  else ofRatio negative (digits * Number.tenPow exponent.toNat) (Number.tenPow (-exponent).toNat)

/-- The exponent part at the end of a number: nothing, or `e` with an optional sign and digits. -/
def readExponent? : List Char → Option Int
  | [] => some 0
  | c :: rest =>
    if c = 'e' ∨ c = 'E' then
      let (negative, ds) : Bool × List Char := match rest with
        | '-' :: ds => (true, ds)
        | '+' :: ds => (false, ds)
        | ds => (false, ds)
      if ds ≠ [] ∧ ds.all Char.isDigit then
        let n : Int := Number.ofDigits ds
        some (if negative then -n else n)
      else none
    else none

/-- A number without its sign. -/
def readUnsigned? (negative : Bool) (cs : List Char) : Option Binary64 :=
  let whole := cs.takeWhile Char.isDigit
  let (fraction, rest) := match cs.dropWhile Char.isDigit with
    | '.' :: more => (more.takeWhile Char.isDigit, more.dropWhile Char.isDigit)
    | rest => ([], rest)
  if whole ++ fraction = [] then
    let name := cs.map Char.toLower
    if name = "inf".toList ∨ name = "infinity".toList then some (infinity negative)
    else if name = "nan".toList then some (nan negative)
    else none
  else do
    let exponent ← readExponent? rest
    return ofDecimal negative (Number.ofDigits (whole ++ fraction)) (exponent - fraction.length)

/-- Reads a number. -/
def read (cs : List Char) : Except ReadError Binary64 :=
  let number := match cs with
    | '-' :: rest => readUnsigned? true rest
    | '+' :: rest => readUnsigned? false rest
    | cs => readUnsigned? false cs
  match cs, number with
  | [], _ => .error .empty
  | _, some x => .ok x
  | _, none => .error .invalid

end TableDiff.Binary64
