/-!
# Tables of characters

The characters that an encoding writes with several bytes, in rows of a fixed width. A replacement
character stands at a place without a character, and a row may end before its last place.
-/

namespace TableDiff.Encoding

structure Table where
  width : Nat
  rows : List String

namespace Table

/-- The character at a place of a row. -/
def char? (t : Table) (row column : Nat) : Option Char :=
  match (t.rows[row]?).bind fun r => r.toList[column]? with
  | some c => if c = '\ufffd' then none else some c
  | none => none

/-- The character of a number; the places are numbered row by row. -/
def charOfNumber? (t : Table) (n : Nat) : Option Char := t.char? (n / t.width) (n % t.width)

end Table

end TableDiff.Encoding
