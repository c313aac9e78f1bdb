import TableDiff.Value

/-!
# The order of values and cells

Values of one kind have their own order, and numbers of different kinds are compared as numbers;
other values have no order between them. Cells are always ordered: the empty cell comes first, and
values without an order between them are ordered by their texts.
-/

namespace TableDiff

/-- Orders two values of one kind, or two numbers. Beside a binary number another number is taken
as a binary one. -/
def Value.compare? : Value → Value → Option Ordering
  | .text a, .text b => some (compare a b)
  | .integer a, .integer b => some (compare a.toInt b.toInt)
  | .float a, .float b => some (a.compareTotal b)
  | .boolean a, .boolean b => some (compare a.toNat b.toNat)
  | .date a, .date b => some (a.compare b)
  | .dateTime a, .dateTime b => some (a.compare b)
  | .time a, .time b => some (a.compare b)
  | .guid a, .guid b => some (compare a.value b.value)
  | .decimal a, .decimal b => some (a.compare b)
  | .float a, other => other.toDecimal?.map fun d => a.compareTotal d.toBinary
  | other, .float b => other.toDecimal?.map fun d => d.toBinary.compareTotal b
  | v, w => do
    let a ← v.toDecimal?
    let b ← w.toDecimal?
    return a.compare b

/-- Orders two cells. -/
def Cell.compare : Cell → Cell → Ordering
  | none, none => .eq
  | none, some _ => .lt
  | some _, none => .gt
  | some v, some w => (v.compare? w).getD (Ord.compare v.display w.display)

end TableDiff
