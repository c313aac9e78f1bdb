import TableDiff.Number.Binary64
import TableDiff.Number.Integer

/-!
# Decimal numbers

Signed decimal numbers with a mantissa of 96 bits and up to 28 places after the point. The scale
is part of a number, so `1.5` and `1.50` are two numbers with one value: the order and numeric
equality compare values, the text shows the scale.
-/

namespace TableDiff

/-- The number `mantissa / 10 ^ scale` with a sign. -/
structure Decimal where
  negative : Bool
  mantissa : Nat
  scale : Nat
  mantissa_lt : mantissa < Number.twoPow 96
  scale_le : scale ≤ 28
deriving DecidableEq

namespace Decimal

/-- The bound of mantissas. -/
def mantissaBound : Nat := Number.twoPow 96

/-- The greatest scale. -/
def maxScale : Nat := 28

/-- The number of these parts, if they are in range. -/
def ofParts? (negative : Bool) (mantissa scale : Nat) : Option Decimal :=
  if h : mantissa < Number.twoPow 96 ∧ scale ≤ 28 then some ⟨negative, mantissa, scale, h.1, h.2⟩
  else none

theorem natAbs_toInt_lt (i : Int64) : i.toInt.natAbs < Number.twoPow 96 := by
  have low := i.le_toInt
  have high := i.toInt_lt
  have hbound : Number.twoPow 96 = 79228162514264337593543950336 := by decide
  omega

/-- An integer as a decimal number without places after the point. -/
def ofInt64 (i : Int64) : Decimal :=
  ⟨i.toInt < 0, i.toInt.natAbs, 0, natAbs_toInt_lt i, by decide⟩

/-- The mantissa with the sign. -/
def numerator (d : Decimal) : Int := if d.negative then -(d.mantissa : Int) else d.mantissa

/-! ## Order -/

/-- Compares values; the scales do not matter. -/
def compare (d e : Decimal) : Ordering :=
  Ord.compare (d.numerator * Number.tenPow e.scale) (e.numerator * Number.tenPow d.scale)

/-- Equality of values. -/
def equals (d e : Decimal) : Bool := d.compare e == .eq

def abs (d : Decimal) : Decimal := { d with negative := false }

/-! ## Parts -/

/-- Whether there is nothing but zeros after the point. -/
def isIntegral (d : Decimal) : Bool := d.mantissa % Number.tenPow d.scale == 0

/-- The part before the point. -/
def truncate (d : Decimal) : Int :=
  let whole : Int := (d.mantissa / Number.tenPow d.scale : Nat)
  if d.negative then -whole else whole

/-! ## Difference -/

/-- The magnitude `n / 10 ^ scale` with as many places as leave a mantissa of 96 bits; the places
given up are rounded half to even, which may cost one place more. -/
def fit? (negative : Bool) (n : Nat) : Nat → Option Decimal
  | 0 => ofParts? negative n 0
  | scale + 1 =>
    if n < mantissaBound then ofParts? negative n (scale + 1)
    else
      -- At least one place is given up; `drop` counts those beyond it.
      let enough (k : Nat) : Bool := n / Number.tenPow (k + 1) < mantissaBound
      let drop := ((List.range (scale + 1)).find? enough).getD scale
      let places := scale - drop
      let rounded := Binary64.divHalfEven n (Number.tenPow (drop + 1))
      if rounded < mantissaBound then ofParts? negative rounded places
      else if places = 0 then none
      else ofParts? negative (Binary64.divHalfEven rounded 10) (places - 1)

/-- The difference of two numbers, exact where it has a mantissa of 96 bits at the finer of their
scales; there is none if even its integer part needs more. -/
def sub? (d e : Decimal) : Option Decimal :=
  let scale := max d.scale e.scale
  let n := d.numerator * Number.tenPow (scale - d.scale) -
    e.numerator * Number.tenPow (scale - e.scale)
  fit? (n < 0) n.natAbs scale

/-! ## Text -/

/-- All places are written, also zeros at the end. -/
def text (d : Decimal) : List Char :=
  let ds := Number.paddedDigits (d.scale + 1) d.mantissa
  let unsigned :=
    if d.scale = 0 then ds
    else ds.take (ds.length - d.scale) ++ '.' :: ds.drop (ds.length - d.scale)
  if d.negative then '-' :: unsigned else unsigned

end Decimal

end TableDiff
