import TableDiff.Number.Binary64
import TableDiff.Number.Integer

/-!
# Shortest decimal text of a binary number

A finite number is written with the fewest decimal digits that read back as the same number, and
of those texts the nearest. The numbers that round to a given one form an interval, which holds
its ends if the significand is even; the digits are found on the grids of 1, 2, … 17 significant
digits, where the two neighbours of the number are the only candidates. All comparisons are of
natural numbers, in quarters of a unit.
-/

namespace TableDiff.Binary64

/-- The interval of values that round to a positive number, and the value, in quarter units. -/
structure RoundingInterval where
  low : Nat
  value : Nat
  high : Nat
  closed : Bool

/-- Below a power of two the neighbour is only half as far as above it. -/
def roundingInterval (x : Binary64) : RoundingInterval :=
  let step := Number.twoPow x.shift
  let value := 4 * x.units
  -- Numbers of the lowest power of two keep their spacing below it.
  let below := if x.significand = Number.twoPow 52 ∧ x.shift > 0 then step else 2 * step
  ⟨value - below, value, value + 2 * step, x.significand % 2 == 0⟩

/-- A decimal numeral `digits * 10 ^ exponent`. -/
structure Numeral where
  digits : Nat
  exponent : Int

/-- How many quarter units make up one. -/
def quartersPerOne : Nat := 4 * unitsPerOne

/-- The factors `p` and `q` with `10 ^ e = p / q`. -/
def powerOfTen (e : Int) : Nat × Nat :=
  (Number.tenPow e.toNat, Number.tenPow (-e).toNat)

/-- Whether the numeral lies in the interval. -/
def RoundingInterval.holds (r : RoundingInterval) (n : Numeral) : Bool :=
  let (p, q) := powerOfTen n.exponent
  let place := n.digits * p * quartersPerOne
  if r.closed then r.low * q ≤ place && place ≤ r.high * q
  else r.low * q < place && place < r.high * q

/-- The greatest `k` with `10 ^ k ≤ value`, counted in quarter units: the logarithm to base two
gives it up to one, and the comparison decides. -/
def leadingExponent (value : Nat) : Int :=
  let estimate := Int.fdiv (((Nat.log2 value : Int) - 1076) * 30103) 100000
  let reaches (k : Int) : Bool :=
    let (p, q) := powerOfTen k
    p * quartersPerOne ≤ value * q
  if reaches (estimate + 1) then estimate + 1
  else if reaches estimate then estimate
  else estimate - 1

/-- Which of two equally near numerals is taken. -/
inductive Tie where
  | upward
  | toEven
deriving DecidableEq

/-- The nearer to the value of the neighbours on the grid of numerals with this exponent, if one
of them lies in the interval. -/
def RoundingInterval.onGrid? (r : RoundingInterval) (tie : Tie) (exponent : Int) :
    Option Numeral :=
  let (p, q) := powerOfTen exponent
  let unit := p * quartersPerOne
  let lower : Numeral := ⟨r.value * q / unit, exponent⟩
  let upper : Numeral := ⟨lower.digits + 1, exponent⟩
  let twice := 2 * (r.value * q % unit)
  let takesLower := twice < unit ∨ twice = unit ∧ tie = .toEven ∧ lower.digits % 2 = 0
  match r.holds lower, r.holds upper with
  | true, true => some (if takesLower then lower else upper)
  | true, false => some lower
  | false, true => some upper
  | false, false => none

/-- The numeral without trailing zeros; `fuel` bounds their number. -/
def Numeral.stripZeros : Nat → Numeral → Numeral
  | 0, n => n
  | fuel + 1, n =>
    if n.digits ≠ 0 ∧ n.digits % 10 = 0 then stripZeros fuel ⟨n.digits / 10, n.exponent + 1⟩ else n

/-- The shortest numeral of a positive finite number. -/
def shortest (tie : Tie) (x : Binary64) : Numeral :=
  let r := x.roundingInterval
  let k := leadingExponent r.value
  let found := (List.range 17).findSome? fun (n : Nat) => r.onGrid? tie (k - n)
  (found.getD ⟨0, 0⟩).stripZeros 17

/-! ## Layouts -/

/-- The digits of a numeral in positional notation, without a fraction if it is whole. -/
def Numeral.positional (n : Numeral) : List Char :=
  let ds := Number.digits n.digits
  if 0 ≤ n.exponent then ds ++ List.replicate n.exponent.toNat '0'
  else
    let places := (-n.exponent).toNat
    if places < ds.length then
      ds.take (ds.length - places) ++ '.' :: ds.drop (ds.length - places)
    else '0' :: '.' :: List.replicate (places - ds.length) '0' ++ ds

/-- The digits of a numeral with a fraction or an exponent: positional from 0.00001 to below
10 ^ 16, otherwise one digit before the point and an exponent after `e`. -/
def Numeral.scientific (n : Numeral) : List Char :=
  let ds := Number.digits n.digits
  let point : Int := ds.length + n.exponent
  if 0 ≤ n.exponent ∧ point ≤ 16 then n.positional ++ ['.', '0']
  else if -5 < point ∧ point ≤ 16 then n.positional
  else
    let exponent := Number.intText (point - 1)
    match ds with
    | [d] => d :: 'e' :: exponent
    | d :: rest => d :: '.' :: rest ++ 'e' :: exponent
    | [] => []

/-- A number in positional notation; a whole one has no fraction. -/
def positionalText (x : Binary64) : List Char :=
  if x.isNaN then "NaN".toList
  else
    let unsigned :=
      if !x.isFinite then "inf".toList
      else if x.isZero then ['0']
      else (x.shortest .upward).positional
    if x.negative then '-' :: unsigned else unsigned

/-- A finite number as a configuration file writes it: it always shows a fraction or an
exponent, so that it reads back as no integer. -/
def scientificText (x : Binary64) : List Char :=
  let unsigned := if x.isZero then ['0', '.', '0'] else (x.shortest .toEven).scientific
  if x.negative then '-' :: unsigned else unsigned

end TableDiff.Binary64
