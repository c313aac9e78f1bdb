/-!
# Runs of code points

Character data comes as sorted lists: a `Range` says that its code points have a property, a
`Run` says where its code points are mapped. Both lookups stop at the first entry that lies
beyond the code point.
-/

namespace TableDiff.Text

/-- The code points from `first` to `last`. -/
structure Range where
  first : Nat
  last : Nat

/-- Every `step`-th code point from `first` to `last`; each is mapped to itself plus `shift`. -/
structure Run where
  first : Nat
  last : Nat
  step : Nat
  shift : Int

/-- Whether one of the sorted `ranges` holds the code point. -/
def inRanges (code : Nat) : List Range → Bool
  | [] => false
  | r :: rest =>
    if code < r.first then false
    else if code ≤ r.last then true
    else inRanges code rest

/-- The code point that the sorted `runs` give; a code point of no run is mapped to itself. -/
def mapByRuns (code : Nat) : List Run → Nat
  | [] => code
  | r :: rest =>
    if code < r.first then code
    else if code ≤ r.last ∧ (code - r.first) % r.step = 0 then (code + r.shift).toNat
    else mapByRuns code rest

end TableDiff.Text
