import TableDiff.Value.Cast
import TableDiff.Value.Order

/-!
# Comparators

A comparator decides whether an expected and an actual cell agree. The relations cast both cells
to the datatype of their columns first, so a text agrees with the value that it denotes; the other
comparators have readings of their own. A cell pair that does not agree has a mismatch, which says
in what respect.
-/

namespace TableDiff

/-! ## Relations -/

/-- The relation in which the actual value has to stand to the expected one. -/
inductive Relation where
  | equal
  | notEqual
  | greaterThan
  | greaterOrEqual
  | lessThan
  | lessOrEqual
deriving DecidableEq

namespace Relation

/-- Whether the relation holds for values of this order; values may be unordered. -/
def holds : Relation → Option Ordering → Bool
  | .equal, o => o == some .eq
  | .notEqual, o => o != some .eq
  | .greaterThan, o => o == some .gt
  | .greaterOrEqual, o => o == some .gt || o == some .eq
  | .lessThan, o => o == some .lt
  | .lessOrEqual, o => o == some .lt || o == some .eq

/-- What is said where the relation fails. -/
def failurePhrase : Relation → String
  | .equal => "is not equal to"
  | .notEqual => "is equal to"
  | .greaterThan => "is not greater than"
  | .greaterOrEqual => "is not greater than or equal to"
  | .lessThan => "is not less than"
  | .lessOrEqual => "is not less than or equal to"

end Relation

/-! ## Comparators -/

/-- A rule for comparing two cells. -/
inductive Comparator where
  | relation (r : Relation)
  | ignore
  | caseInsensitive
  | trimmed
  | tolerance (bound : Decimal)
  | window (lowMs highMs : Int64)
  | oneOf (values : List String)
  | conditional (when : List String) (thenBy otherwiseBy : Comparator)
deriving DecidableEq

/-- The comparator where none is chosen. -/
def Comparator.equality : Comparator := .relation .equal

/-- The sides of a comparison. -/
inductive Side where
  | expected
  | actual
deriving DecidableEq

def Side.label : Side → String
  | .expected => "Expected"
  | .actual => "Actual"

/-! ## Mismatches -/

/-- In what respect two cells do not agree. -/
inductive Mismatch where
  | invalid (side : Side) (value : Value) (cause : CastError)
  | relation (r : Relation) (actual expected : Cell)
  | ignoringCase (actual expected : Cell)
  | ignoringBlanks (actual expected : Cell)
  | onlyOne (actual expected : Cell)
  | notNumeric (actual expected : Value)
  | beyondTolerance (bound : Decimal) (actual expected : Value)
  | notTimestamps (actual expected : Value)
  | outsideWindow (lowMs highMs : Int64) (actual expected : Value)
  | notListed (actual : Cell) (values : List String)
  /-- What a comparator of the caller's own says. -/
  | described (text : String)
deriving DecidableEq

namespace Mismatch

/-- The sentence that the actual cell fails a relation to the expected one. -/
def describe (actual : Cell) (phrase : String) (expected : Cell) : String :=
  "Actual value='" ++ actual.render ++ "' " ++ phrase ++ " expected value='" ++
    expected.render ++ "'"

def message : Mismatch → String
  | .invalid side value cause =>
    side.label ++ " value='" ++ value.display ++ "' is invalid: " ++ cause.summary
  | .relation r a e => describe a r.failurePhrase e
  | .ignoringCase a e => describe a "is not equal (ignoring case) to" e
  | .ignoringBlanks a e => describe a "is not equal (ignoring whitespace) to" e
  | .onlyOne a e => describe a "is not equal to" e
  | .notNumeric a e => describe (some a) "is not numerically comparable to" (some e)
  | .beyondTolerance bound a e =>
    describe (some a) ("is not within tolerance " ++ String.ofList bound.text ++ " of") (some e)
  | .notTimestamps a e => describe (some a) "is not a timestamp comparable to" (some e)
  | .outsideWindow lowMs highMs a e =>
    describe (some a) ("is not within tolerance range -" ++ toString lowMs.toInt ++ " - " ++
      toString highMs.toInt ++ " ms of") (some e)
  | .notListed a values =>
    "Actual value='" ++ a.render ++ "' is not one of [" ++ ", ".intercalate values ++ "]"
  | .described text => text

end Mismatch

/-! ## Comparing cells -/

/-- The cast of a cell; the empty cell is a cell of every datatype. -/
def Cell.cast (t : Datatype) (side : Side) : Cell → Except Mismatch Cell
  | none => .ok none
  | some v =>
    match v.cast t with
    | .ok w => .ok (some w)
    | .error e => .error (.invalid side v e)

/-- The order of the actual cell to the expected one. Values without an order between them are
equal if their texts are; the empty cell is equal to itself alone. -/
def Cell.order? : (expected actual : Cell) → Option Ordering
  | none, none => some .eq
  | some e, some a =>
    match a.compare? e with
    | some o => some o
    | none => if a.display = e.display then some .eq else none
  | _, _ => none

/-- Compares two cells by a relation, after casting both. -/
def Relation.check (r : Relation) (t : Datatype) (expected actual : Cell) : Option Mismatch :=
  match expected.cast t .expected with
  | .error m => some m
  | .ok e =>
    match actual.cast t .actual with
    | .error m => some m
    | .ok a => if r.holds (Cell.order? e a) then none else some (.relation r a e)

/-- Compares the texts of two cells after a change to both. -/
def Cell.sameText (change : List Char → List Char) : (expected actual : Cell) → Bool
  | none, none => true
  | some e, some a => change e.display.toList == change a.display.toList
  | _, _ => false

/-- The decimal number that a value can be cast to. -/
def Value.castDecimal? (v : Value) : Option Decimal :=
  match v.cast .decimal with
  | .ok (.decimal d) => some d
  | _ => none

/-- Whether two numbers differ by at most `bound`. -/
def Decimal.within (bound expected actual : Decimal) : Bool :=
  match actual.sub? expected with
  | some difference => (difference.abs.compare bound).isLE
  | none => false

/-- The instant of a value that is cast to a temporal datatype; a column of another datatype holds
instants. A date stands for its first instant, a time of day for that of the first day of 1970. -/
def Value.instant? (t : Datatype) (v : Value) : Option DateTime :=
  match v.cast (if t.isTemporal then t else .datetime) with
  | .ok (.dateTime d) => some d
  | .ok (.date d) => some ⟨d, .midnight⟩
  | .ok (.time u) => some ⟨.epoch, u⟩
  | _ => none

/-- Whether the actual instant lies in the window around the expected one. -/
def DateTime.withinWindow (lowMs highMs : Int64) (expected actual : DateTime) : Bool :=
  let delta := actual.millisSince expected
  decide (-lowMs.toInt ≤ delta ∧ delta ≤ highMs.toInt)

/-- Compares two cells. -/
def Comparator.check (c : Comparator) (t : Datatype) (expected actual : Cell) : Option Mismatch :=
  match c with
  | .relation r => r.check t expected actual
  | .ignore => none
  | .caseInsensitive =>
    if Cell.sameText Text.lower expected actual then none else some (.ignoringCase actual expected)
  | .trimmed =>
    if Cell.sameText Text.trim expected actual then none else some (.ignoringBlanks actual expected)
  | .tolerance bound =>
    match expected, actual with
    | none, none => none
    | some e, some a =>
      match e.castDecimal?, a.castDecimal? with
      | some x, some y => if bound.within x y then none else some (.beyondTolerance bound a e)
      | _, _ => some (.notNumeric a e)
    | e, a => some (.onlyOne a e)
  | .window lowMs highMs =>
    match expected, actual with
    | none, none => none
    | some e, some a =>
      match e.instant? t, a.instant? t with
      | some x, some y =>
        if DateTime.withinWindow lowMs highMs x y then none
        else some (.outsideWindow lowMs highMs a e)
      | _, _ => some (.notTimestamps a e)
    | e, a => some (.onlyOne a e)
  | .oneOf values =>
    if values.contains actual.render then none else some (.notListed actual values)
  | .conditional when thenBy otherwiseBy =>
    if when.contains expected.render then thenBy.check t expected actual
    else otherwiseBy.check t expected actual

/-- Whether two cells agree. -/
def Comparator.accepts (c : Comparator) (t : Datatype) (expected actual : Cell) : Bool :=
  (c.check t expected actual).isNone

/-! ## Comparators of columns -/

/-- What a column may be compared by: one of the rules, or a comparator of the caller's own, which
describes the pairs of cells that it does not accept. -/
inductive CellComparator where
  | rule (c : Comparator)
  | custom (describe? : Datatype → Cell → Cell → Option String)

namespace CellComparator

/-- The comparator where none is chosen. -/
def equality : CellComparator := .rule .equality

/-- Compares two cells. -/
def check (c : CellComparator) (t : Datatype) (expected actual : Cell) : Option Mismatch :=
  match c with
  | .rule c => c.check t expected actual
  | .custom describe? => (describe? t expected actual).map .described

end CellComparator

end TableDiff
