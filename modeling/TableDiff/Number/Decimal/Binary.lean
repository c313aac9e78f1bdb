import TableDiff.Number.Decimal

/-!
# Decimal and binary numbers

The decimal number for a binary one keeps the 15 or 16 digits that the binary number guarantees;
the binary number for a decimal one is computed from the parts before and after the point and
then rounded at the decimal's last place. Neither is the nearest number in every case.
-/

namespace TableDiff.Decimal

/-! ## From binary -/

/-- A number `mantissa * 10 ^ exponent` on its way to a decimal. -/
structure Scaled where
  mantissa : Nat
  exponent : Int

/-- Divides by two as often as told. An odd mantissa is multiplied by five instead, with a lower
exponent, while it has room; otherwise its last bit is lost. -/
def Scaled.halve : Nat → Scaled → Scaled
  | 0, s => s
  | n + 1, s =>
    if s.mantissa % 2 = 0 then halve n ⟨s.mantissa / 2, s.exponent + 1⟩
    else if s.mantissa * 5 < mantissaBound then halve n ⟨s.mantissa * 5, s.exponent⟩
    else halve n ⟨s.mantissa / 2, s.exponent + 1⟩

/-- The mantissa divided by ten, half upward. -/
def Scaled.dropDigit (s : Scaled) : Scaled :=
  ⟨s.mantissa / 10 + (if 5 ≤ s.mantissa % 10 then 1 else 0), s.exponent + 1⟩

/-- Drops digits until the exponent is that of the greatest scale. A mantissa that vanishes on the
way is zero without places. -/
def Scaled.dropExcessPlaces : Nat → Scaled → Scaled
  | 0, s => s
  | n + 1, s =>
    if s.mantissa / 10 = 0 then ⟨0, 0⟩ else dropExcessPlaces n s.dropDigit

/-- Drops places until the mantissa has no more bits than the fraction of a binary number. -/
def Scaled.dropExcessBits : Nat → Scaled → Scaled
  | 0, s => s
  | n + 1, s => if Number.twoPow 52 ≤ s.mantissa then dropExcessBits n s.dropDigit else s

/-- Drops places that hold zeros. -/
def Scaled.dropZeros : Nat → Scaled → Scaled
  | 0, s => s
  | n + 1, s =>
    if s.mantissa % 10 = 0 then dropZeros n ⟨s.mantissa / 10, s.exponent + 1⟩ else s

/-- How many places a number has after the point. -/
def Scaled.places (s : Scaled) : Nat := (-s.exponent).toNat

/-- The decimal number for a number below one unit of the last bit of a significand: `power` is
how often the significand is halved. -/
def ofFraction? (negative : Bool) (significand power : Nat) : Option Decimal :=
  let s := Scaled.halve power ⟨significand, -power⟩
  let s := Scaled.dropExcessPlaces (s.places - maxScale) s
  let s := Scaled.dropExcessBits s.places s
  let s := Scaled.dropZeros s.places s
  ofParts? negative s.mantissa s.places

/-- The decimal number for a binary one, if it is finite and not too large: from `2 ^ 96` on there
is none. A number whose last bit counts ones or more is taken exactly. -/
def ofBinary? (x : Binary64) : Option Decimal :=
  if !x.isFinite then none
  else if x.isZero then ofParts? x.negative 0 0
  else if 1074 ≤ x.shift then ofParts? x.negative (x.significand * Number.twoPow (x.shift - 1074)) 0
  else ofFraction? x.negative x.significand (1074 - x.shift)

/-! ## To binary -/

/-- The binary number for a magnitude: whole part plus fraction, rounded again at the last place
of the decimal. -/
def magnitudeToBinary (mantissa scale : Nat) : Binary64 :=
  let one := Number.tenPow scale
  let whole := Binary64.ofRatio false (mantissa / one) 1
  if mantissa % one = 0 then whole
  else
    let unit := Binary64.ofRatio false one 1
    let fraction := (Binary64.ofRatio false (mantissa % one) 1).divMagnitudes unit
    (((whole.addMagnitudes fraction).mulMagnitudes unit).roundMagnitude).divMagnitudes unit

/-- The binary number for a decimal one. A zero without places has no sign. -/
def toBinary (d : Decimal) : Binary64 :=
  let x := magnitudeToBinary d.mantissa d.scale
  if d.negative ∧ ¬(d.mantissa = 0 ∧ d.scale = 0) then x.neg else x

end TableDiff.Decimal
