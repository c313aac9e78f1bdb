import TableDiff.Proofs.Value.Rank

/-!
# Relations between cells

A relation accepts two cells if both can be cast to the datatype and the relation holds for the
order of the casts. To exchange two cells is to reverse their order, so equality does not tell the
expected cell from the actual one.
-/

namespace TableDiff

/-! ## Exchanged values -/

theorem Binary64.compareTotal_swap (x y : Binary64) :
    (x.compareTotal y).swap = y.compareTotal x :=
  Std.OrientedOrd.eq_swap.symm

theorem Decimal.compare_swap (d e : Decimal) : (d.compare e).swap = e.compare d :=
  Std.OrientedOrd.eq_swap.symm

/-- Exchanging two values reverses their order. -/
theorem Value.compare?_swap (v w : Value) : (v.compare? w).map Ordering.swap = w.compare? v := by
  by_cases hkind : v.datatype = w.datatype
  · obtain ⟨o, ho, hcompares⟩ := compares_rank hkind
    obtain ⟨p, hp, hreversed⟩ := compares_rank hkind.symm
    have hswap : o.swap = p := (Ordering.compares_swap.mpr hcompares).inj hreversed
    rw [ho, hp, Option.map_some, hswap]
  · -- Values of two kinds are compared as numbers, if they are numbers, and a float decides how.
    cases v <;> cases w <;> simp only [datatype, not_true_eq_false] at hkind <;>
      simp [compare?, toDecimal?, Binary64.compareTotal_swap, Decimal.compare_swap]

/-! ## Relations -/

namespace Cell

variable {t : Datatype} {c d : Cell}

theorem order?_swap (c d : Cell) : (Cell.order? c d).map Ordering.swap = Cell.order? d c := by
  cases c with
  | none => cases d <;> rfl
  | some v =>
    cases d with
    | none => rfl
    | some w =>
      simp only [order?]
      rw [← Value.compare?_swap w v]
      cases w.compare? v with
      | some o => rfl
      | none =>
        -- Only the texts are left to compare.
        by_cases htext : w.display = v.display
        · simp [htext]
        · simp [htext, Ne.symm htext]

/-- The side is only told by the error of a cast. -/
theorem cast_eq_ok_iff (side other : Side) : c.cast t side = .ok d ↔ c.cast t other = .ok d := by
  cases c with
  | none => exact Iff.rfl
  | some v => rw [cast_some_eq_ok_iff, cast_some_eq_ok_iff]

end Cell

/-- A relation accepts two cells if it holds for the order of their casts. -/
theorem relation_accepts_iff (r : Relation) (t : Datatype) (c d : Cell) :
    (Comparator.relation r).accepts t c d = true ↔
      ∃ x y, c.cast t .expected = .ok x ∧ d.cast t .actual = .ok y ∧
        r.holds (Cell.order? x y) = true := by
  unfold Comparator.accepts Comparator.check Relation.check
  cases c.cast t .expected with
  | error m => simp
  | ok x =>
    cases d.cast t .actual with
    | error m => simp
    | ok y => by_cases h : r.holds (Cell.order? x y) = true <;> simp [h]

/-! ## Exchanged cells -/

namespace Relation

/-- The relation in which two values stand the other way round. -/
def swap : Relation → Relation
  | .greaterThan => .lessThan
  | .greaterOrEqual => .lessOrEqual
  | .lessThan => .greaterThan
  | .lessOrEqual => .greaterOrEqual
  | r => r

theorem holds_swap (r : Relation) (o : Option Ordering) :
    r.swap.holds (o.map Ordering.swap) = r.holds o := by
  cases o with
  | none => cases r <;> rfl
  | some o => cases o <;> cases r <;> rfl

end Relation

/-- To exchange two cells is to turn the relation round. -/
theorem relation_accepts_swap (r : Relation) (t : Datatype) (c d : Cell) :
    (Comparator.relation r.swap).accepts t d c = (Comparator.relation r).accepts t c d := by
  rw [Bool.eq_iff_iff, relation_accepts_iff, relation_accepts_iff]
  constructor
  · rintro ⟨y, x, hy, hx, h⟩
    refine ⟨x, y, (Cell.cast_eq_ok_iff ..).mp hx, (Cell.cast_eq_ok_iff ..).mp hy, ?_⟩
    rwa [← Relation.holds_swap, Cell.order?_swap]
  · rintro ⟨x, y, hx, hy, h⟩
    refine ⟨y, x, (Cell.cast_eq_ok_iff ..).mp hy, (Cell.cast_eq_ok_iff ..).mp hx, ?_⟩
    rwa [← Cell.order?_swap, Relation.holds_swap]

/-- Equality does not tell the expected cell from the actual one. -/
theorem equality_accepts_comm (t : Datatype) (c d : Cell) :
    Comparator.equality.accepts t c d = Comparator.equality.accepts t d c :=
  relation_accepts_swap .equal t d c

end TableDiff
