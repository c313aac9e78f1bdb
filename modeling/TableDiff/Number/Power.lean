/-!
# Powers

The powers that bound the formats of numbers and move the point of decimal numerals.
-/

namespace TableDiff.Number

/-- A power of two. -/
def twoPow (n : Nat) : Nat := Nat.pow 2 n

/-- A power of ten. -/
def tenPow (n : Nat) : Nat := Nat.pow 10 n

end TableDiff.Number
