import TableDiff.Number.Power

/-!
# Binary floating point

The 64-bit binary floating-point numbers, with arithmetic defined by exact rational results that
are rounded once: to the nearest number, and to the even one of two equally near. Every finite
magnitude is a whole number of units of 2 ^ -1074, so the exact value of a number is a natural
number of units and all arithmetic here is on natural numbers.
-/

namespace TableDiff

/-- A 64-bit binary floating-point number: its sign and the 63 bits below it, the exponent field
above the 52 bits of the fraction. The magnitudes are ordered as the numbers are. -/
structure Binary64 where
  negative : Bool
  magnitude : Nat
  magnitude_lt : magnitude < Number.twoPow 63
deriving DecidableEq

namespace Binary64

/-- The magnitude field of infinity; everything above it is not a number. -/
def infinityField : Nat := 2047 * Number.twoPow 52

def zero (negative : Bool) : Binary64 := ⟨negative, 0, by decide⟩

def infinity (negative : Bool) : Binary64 := ⟨negative, infinityField, by decide⟩

/-- The quiet number that is not a number. -/
def nan (negative : Bool) : Binary64 := ⟨negative, infinityField + Number.twoPow 51, by decide⟩

def isNaN (x : Binary64) : Bool := infinityField < x.magnitude

def isFinite (x : Binary64) : Bool := x.magnitude < infinityField

def isZero (x : Binary64) : Bool := x.magnitude == 0

def neg (x : Binary64) : Binary64 := ⟨!x.negative, x.magnitude, x.magnitude_lt⟩

/-- The 64 bits of a number, as a natural number. -/
def bits (x : Binary64) : Nat := if x.negative then Number.twoPow 63 + x.magnitude else x.magnitude

/-! ## Exact values -/

/-- The power of two, above the least, by which the significand is scaled. -/
def shift (x : Binary64) : Nat := x.magnitude / Number.twoPow 52 - 1

/-- The significand; it is below 2 ^ 53. -/
def significand (x : Binary64) : Nat :=
  if x.magnitude < Number.twoPow 52 then x.magnitude
  else x.magnitude % Number.twoPow 52 + Number.twoPow 52

/-- The magnitude of a finite number in units of 2 ^ -1074. -/
def units (x : Binary64) : Nat := x.significand * Number.twoPow x.shift

/-- How many units make up one. -/
def unitsPerOne : Nat := Number.twoPow 1074

/-- Whether a number is finite and has no fractional part. -/
def isIntegral (x : Binary64) : Bool := x.isFinite && x.units % unitsPerOne == 0

/-- The integer part of a finite number, toward zero. -/
def truncate (x : Binary64) : Int :=
  let whole : Int := (x.units / unitsPerOne : Nat)
  if x.negative then -whole else whole

/-! ## Rounding -/

/-- The quotient `num / den` rounded to the nearest natural number, half to even. -/
def divHalfEven (num den : Nat) : Nat :=
  let q := num / den
  let twice := 2 * (num % den)
  if twice < den then q
  else if twice = den then q + q % 2
  else q + 1

/-- The magnitude field of the number nearest to `num / den`: a quotient of at least 2 ^ 53 units
is rounded at a coarser unit, and a magnitude that is too large becomes infinity. The field of a
significand `m` under the shift `s` is `s * 2 ^ 52 + m`, also where rounding carries `m` into the
next power of two. -/
def roundedField (num den : Nat) : Nat :=
  let s := Nat.log2 (num * unitsPerOne / den) - 52
  min (s * Number.twoPow 52 + divHalfEven (num * unitsPerOne) (den * Number.twoPow s)) infinityField

/-- The number nearest to `num / den`. -/
def ofRatio (negative : Bool) (num den : Nat) : Binary64 :=
  ⟨negative, roundedField num den,
    Nat.lt_of_le_of_lt (Nat.min_le_right _ _) (by decide)⟩

/-- The number nearest to an integer. -/
def ofInt (i : Int) : Binary64 := ofRatio (i < 0) i.natAbs 1

/-! ## Arithmetic on magnitudes

Each operation takes finite numbers without regard to their signs, and rounds the exact result. -/

def addMagnitudes (x y : Binary64) : Binary64 := ofRatio false (x.units + y.units) unitsPerOne

def mulMagnitudes (x y : Binary64) : Binary64 :=
  ofRatio false (x.units * y.units) (unitsPerOne * unitsPerOne)

def divMagnitudes (x y : Binary64) : Binary64 := ofRatio false x.units y.units

/-- The magnitude rounded to an integer, half upward. -/
def roundMagnitude (x : Binary64) : Binary64 :=
  ofRatio false ((2 * x.units + unitsPerOne) / (2 * unitsPerOne)) 1

/-! ## Comparison -/

/-- The place of a number in the order of all numbers: negative ones first, the zero with a minus
sign just before the one without, and what is not a number beyond the infinity of its sign. -/
def orderKey (x : Binary64) : Int :=
  if x.negative then -(x.magnitude : Int) - 1 else x.magnitude

def compareTotal (x y : Binary64) : Ordering := compare x.orderKey y.orderKey

/-- Equality of numbers: the zeros are equal, and what is not a number equals nothing. -/
def equals (x y : Binary64) : Bool :=
  !x.isNaN && !y.isNaN && (x == y || x.isZero && y.isZero)

end Binary64

end TableDiff
