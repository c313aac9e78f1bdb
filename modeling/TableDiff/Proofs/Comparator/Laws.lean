import TableDiff.Proofs.Comparator.Relation
import TableDiff.Proofs.Value.Casting

/-!
# The laws of the relations

All relations of two cells are read off one order, that of their casts. Under a known datatype the
casts have ranks, so equality is the sameness of ranks on the cells that have a cast, and of two
values exactly one is less, equal or greater.
-/

namespace TableDiff

/-! ## Cells with a cast -/

/-- A cell is empty or its value has a cast. -/
def Cell.CastableTo (t : Datatype) (c : Cell) : Prop := ∀ v ∈ c, ∃ w, v.cast t = .ok w

namespace Cell

variable {t : Datatype} {c d x y : Cell}

theorem castableTo_iff (side : Side) : c.CastableTo t ↔ ∃ d, c.cast t side = .ok d := by
  cases c with
  | none =>
    refine iff_of_true ?_ ⟨none, rfl⟩
    rintro v ⟨⟩
  | some v =>
    simp only [CastableTo, Option.mem_some_iff, forall_eq', cast_some_eq_ok_iff]
    constructor
    · rintro ⟨w, hw⟩
      exact ⟨some w, w, hw, rfl⟩
    · rintro ⟨d, w, hw, -⟩
      exact ⟨w, hw⟩

theorem castableTo_unknown (c : Cell) : c.CastableTo .unknown := fun v _ => ⟨v, if_pos (.inl rfl)⟩

/-- A cast leaves no value away and makes none. -/
theorem cast_eq_ok_none_iff (side : Side) : c.cast t side = .ok none ↔ c = none := by
  cases c with
  | none => exact iff_of_true rfl rfl
  | some v => simp [cast_some_eq_ok_iff]

theorem isOf_of_cast (hknown : t ≠ .unknown) {side : Side} (h : c.cast t side = .ok d) :
    IsOf t d := by
  cases c with
  | none =>
    cases h
    exact isOf_none t
  | some v =>
    obtain ⟨w, hw, rfl⟩ := cast_some_eq_ok_iff.mp h
    exact isOf_some.mpr (Value.datatype_of_cast hknown hw)

theorem order?_self (c : Cell) : order? c c = some .eq := by
  cases c with
  | none => rfl
  | some v => exact (order?_eq_eq_iff (isOf_some.mpr rfl) (isOf_some.mpr rfl)).mpr rfl

end Cell

/-! ## Equality -/

section Equality

variable {t : Datatype} {c d e x y : Cell}

/-- Under a known datatype equality accepts two cells if they have casts of the same rank. -/
theorem equality_accepts_iff_casts (hknown : t ≠ .unknown) :
    Comparator.equality.accepts t c d = true ↔
      ∃ x y, c.cast t .expected = .ok x ∧ d.cast t .actual = .ok y ∧ x.rank = y.rank := by
  unfold Comparator.equality
  rw [relation_accepts_iff]
  refine exists_congr fun x => exists_congr fun y => and_congr_right fun hx =>
    and_congr_right fun hy => ?_
  rw [← Cell.order?_eq_eq_iff (Cell.isOf_of_cast hknown hx) (Cell.isOf_of_cast hknown hy)]
  exact beq_iff_eq

theorem equality_accepts_trans (hknown : t ≠ .unknown)
    (hcd : Comparator.equality.accepts t c d = true)
    (hde : Comparator.equality.accepts t d e = true) :
    Comparator.equality.accepts t c e = true := by
  rw [equality_accepts_iff_casts hknown] at hcd hde ⊢
  obtain ⟨x, y, hx, hy, hxy⟩ := hcd
  obtain ⟨y', z, hy', hz, hyz⟩ := hde
  -- The cell in the middle has one cast, on whichever side it stands.
  obtain rfl : y = y' := Except.ok.inj (((Cell.cast_eq_ok_iff ..).mp hy).symm.trans hy')
  exact ⟨x, z, hx, hz, hxy.trans hyz⟩

theorem equality_accepts_self_iff : Comparator.equality.accepts t c c = true ↔ c.CastableTo t := by
  unfold Comparator.equality
  rw [relation_accepts_iff, Cell.castableTo_iff .expected]
  constructor
  · rintro ⟨x, -, hx, -⟩
    exact ⟨x, hx⟩
  · rintro ⟨x, hx⟩
    exact ⟨x, x, hx, (Cell.cast_eq_ok_iff ..).mp hx, beq_iff_eq.mpr (Cell.order?_self x)⟩

/-- The empty cell agrees with itself alone. -/
theorem equality_accepts_none_iff : Comparator.equality.accepts t none c = true ↔ c = none := by
  unfold Comparator.equality
  rw [relation_accepts_iff]
  constructor
  · rintro ⟨x, y, hx, hy, hholds⟩
    cases hx
    have hnone : y = none := by
      cases y with
      | none => rfl
      | some w => cases hholds
    exact (Cell.cast_eq_ok_none_iff .actual).mp (hnone ▸ hy)
  · rintro rfl
    exact ⟨none, none, rfl, rfl, rfl⟩

end Equality

/-- Equality is symmetric, it accepts a cell beside itself exactly if the cell has a cast, and the
empty cell beside itself alone. Under a known datatype it is transitive, and under none in
particular every cell has a cast. -/
theorem equality_equivalence (t : Datatype) :
    (∀ c d, Comparator.equality.accepts t c d = true → Comparator.equality.accepts t d c = true) ∧
    (t ≠ .unknown → ∀ c d e, Comparator.equality.accepts t c d = true →
      Comparator.equality.accepts t d e = true → Comparator.equality.accepts t c e = true) ∧
    (∀ c, Comparator.equality.accepts t c c = true ↔ c.CastableTo t) ∧
    (∀ c, Comparator.equality.accepts t none c = true ↔ c = none) ∧
    (∀ c, Comparator.equality.accepts t c none = true ↔ c = none) ∧
    (∀ c, Comparator.equality.accepts .unknown c c = true) := by
  refine ⟨fun c d h => ?_, fun hknown c d e => equality_accepts_trans hknown,
    fun c => equality_accepts_self_iff, fun c => equality_accepts_none_iff, fun c => ?_,
    fun c => ?_⟩
  · rwa [equality_accepts_comm]
  · rw [equality_accepts_comm]
    exact equality_accepts_none_iff
  · exact equality_accepts_self_iff.mpr c.castableTo_unknown

/-- A text, an integer and a decimal number that denote one number agree with one another. -/
theorem equality_equivalence_one :
    Comparator.equality.accepts .decimal (some (.text "1.0")) (some (.integer 1)) = true ∧
    Comparator.equality.accepts .decimal (some (.integer 1)) (some (.text "1.00")) = true ∧
    Comparator.equality.accepts .decimal (some (.text "1.0")) (some (.text "1.00")) = true := by
  have hleft : Comparator.equality.accepts .decimal (some (.text "1.0")) (some (.integer 1)) =
      true := by decide +kernel
  have hright : Comparator.equality.accepts .decimal (some (.integer 1)) (some (.text "1.00")) =
      true := by decide +kernel
  obtain ⟨-, htrans, -⟩ := equality_equivalence .decimal
  exact ⟨hleft, hright, htrans (by decide) _ _ _ hleft hright⟩

-- Under no datatype in particular equality is not transitive: beside a binary number the last bit
-- of an integer is lost.
example : Comparator.equality.accepts .unknown (some (.integer 9007199254740993))
    (some (.float (.ofInt 9007199254740992))) = true ∧
    Comparator.equality.accepts .unknown (some (.float (.ofInt 9007199254740992)))
      (some (.integer 9007199254740992)) = true ∧
    Comparator.equality.accepts .unknown (some (.integer 9007199254740993))
      (some (.integer 9007199254740992)) = false := by decide +kernel

/-! ## Six relations -/

namespace Relation

/-- The relations of which no two hold at once. -/
def strict : List Relation := [.lessThan, .equal, .greaterThan]

theorem eq_of_holds {r s : Relation} (hr : r ∈ strict) (hs : s ∈ strict) {o : Option Ordering}
    (hro : r.holds o = true) (hso : s.holds o = true) : r = s := by
  simp only [strict, List.mem_cons, List.not_mem_nil, or_false] at hr hs
  rcases hr with rfl | rfl | rfl <;> rcases hs with rfl | rfl | rfl <;> simp_all [holds]

theorem exists_strict_holds (o : Ordering) : ∃ r ∈ strict, r.holds (some o) = true := by
  cases o with
  | lt => exact ⟨.lessThan, by decide, rfl⟩
  | eq => exact ⟨.equal, by decide, rfl⟩
  | gt => exact ⟨.greaterThan, by decide, rfl⟩

end Relation

section Relations

variable {t : Datatype} {e a x y : Cell}

theorem relation_accepts_eq (r : Relation) (hx : e.cast t .expected = .ok x)
    (hy : a.cast t .actual = .ok y) :
    (Comparator.relation r).accepts t e a = r.holds (Cell.order? x y) := by
  rw [Bool.eq_iff_iff, relation_accepts_iff]
  constructor
  · rintro ⟨x', y', hx', hy', h⟩
    obtain rfl : x = x' := Except.ok.inj (hx.symm.trans hx')
    obtain rfl : y = y' := Except.ok.inj (hy.symm.trans hy')
    exact h
  · intro h
    exact ⟨x, y, hx, hy, h⟩

/-- No relation holds of a cell without a cast. -/
theorem relation_accepts_eq_false (r : Relation) (h : ¬(e.CastableTo t ∧ a.CastableTo t)) :
    (Comparator.relation r).accepts t e a = false := by
  rw [Bool.eq_false_iff]
  intro haccepts
  obtain ⟨x, y, hx, hy, -⟩ := (relation_accepts_iff r t e a).mp haccepts
  exact h ⟨(Cell.castableTo_iff .expected).mpr ⟨x, hx⟩, (Cell.castableTo_iff .actual).mpr ⟨y, hy⟩⟩

/-- Under a known datatype the casts of two values are ordered. -/
theorem exists_order?_of_casts (hknown : t ≠ .unknown) (he : e ≠ none) (ha : a ≠ none)
    (hx : e.cast t .expected = .ok x) (hy : a.cast t .actual = .ok y) :
    ∃ o, Cell.order? x y = some o := by
  cases x with
  | none => exact absurd ((Cell.cast_eq_ok_none_iff .expected).mp hx) he
  | some v =>
    cases y with
    | none => exact absurd ((Cell.cast_eq_ok_none_iff .actual).mp hy) ha
    | some w =>
      have hv : v.datatype = t := Cell.isOf_some.mp (Cell.isOf_of_cast hknown hx)
      have hw : w.datatype = t := Cell.isOf_some.mp (Cell.isOf_of_cast hknown hy)
      obtain ⟨o, ho, -⟩ := Value.compares_rank (hw.trans hv.symm)
      exact ⟨o, Cell.order?_of_compare? ho⟩

end Relations

/-- No relation holds of a cell without a cast. Of two cells with casts, being equal and not equal
exclude each other, the relations that include equality are what their names say, and no two of
being less, equal and greater hold at once; under a known datatype one of them holds of any two
values. To exchange two cells turns `greaterThan` into `lessThan`. -/
theorem relations_coherent (t : Datatype) (e a : Cell) :
    (¬(e.CastableTo t ∧ a.CastableTo t) →
      ∀ r, (Comparator.relation r).accepts t e a = false) ∧
    (e.CastableTo t ∧ a.CastableTo t →
      (Comparator.relation .notEqual).accepts t e a =
        !(Comparator.relation .equal).accepts t e a ∧
      (Comparator.relation .greaterOrEqual).accepts t e a =
        ((Comparator.relation .greaterThan).accepts t e a ||
          (Comparator.relation .equal).accepts t e a) ∧
      (Comparator.relation .lessOrEqual).accepts t e a =
        ((Comparator.relation .lessThan).accepts t e a ||
          (Comparator.relation .equal).accepts t e a) ∧
      (∀ r ∈ Relation.strict, ∀ s ∈ Relation.strict, (Comparator.relation r).accepts t e a = true →
        (Comparator.relation s).accepts t e a = true → r = s) ∧
      (Comparator.relation .greaterThan).accepts t e a =
        (Comparator.relation .lessThan).accepts t a e ∧
      (e ≠ none → a ≠ none → t ≠ .unknown →
        ∃ r ∈ Relation.strict, (Comparator.relation r).accepts t e a = true)) := by
  refine ⟨fun h r => relation_accepts_eq_false r h, ?_⟩
  rintro ⟨he, ha⟩
  obtain ⟨x, hx⟩ := (Cell.castableTo_iff .expected).mp he
  obtain ⟨y, hy⟩ := (Cell.castableTo_iff .actual).mp ha
  have hholds (r : Relation) : (Comparator.relation r).accepts t e a = r.holds (Cell.order? x y) :=
    relation_accepts_eq r hx hy
  -- All six are read off the one order of the casts, and so are their laws.
  refine ⟨?_, ?_, ?_, ?_, (relation_accepts_swap .greaterThan t e a).symm, ?_⟩
  · rw [hholds, hholds]
    rfl
  · rw [hholds, hholds, hholds]
    rfl
  · rw [hholds, hholds, hholds]
    rfl
  · intro r hr s hs hacceptsR hacceptsS
    rw [hholds] at hacceptsR hacceptsS
    exact Relation.eq_of_holds hr hs hacceptsR hacceptsS
  · intro hne hna hknown
    obtain ⟨o, ho⟩ := exists_order?_of_casts hknown hne hna hx hy
    obtain ⟨r, hr, hstrict⟩ := Relation.exists_strict_holds o
    rw [← ho, ← hholds] at hstrict
    exact ⟨r, hr, hstrict⟩

/-- The text of a date is less than a date, and stands in no relation to a number. -/
theorem relations_coherent_dates :
    (Comparator.relation .lessThan).accepts .date (some (.date .epoch))
        (some (.text "1969-12-31")) =
      true ∧
    (Comparator.relation .greaterThan).accepts .date (some (.date .epoch))
      (some (.text "1969-12-31")) = false ∧
    (Comparator.relation .greaterThan).accepts .date (some (.text "1969-12-31"))
      (some (.date .epoch)) = true ∧
    ∀ r,
      (Comparator.relation r).accepts .date (some (.integer 1)) (some (.date .epoch)) = false := by
  have hless : (Comparator.relation .lessThan).accepts .date (some (.date .epoch))
      (some (.text "1969-12-31")) = true := by decide +kernel
  have hdate : Cell.CastableTo .date (some (.date .epoch)) := by
    rintro v ⟨⟩
    exact ⟨_, rfl⟩
  have htext : Cell.CastableTo .date (some (.text "1969-12-31")) := by
    rintro v ⟨⟩
    exact ⟨.date ⟨1969, 12, 31, by decide⟩, by decide +kernel⟩
  have hnumber : ¬Cell.CastableTo .date (some (.integer 1)) := by
    intro h
    obtain ⟨w, hw⟩ := h _ rfl
    cases hw
  obtain ⟨-, hcoherent⟩ :=
    relations_coherent .date (some (.date .epoch)) (some (.text "1969-12-31"))
  obtain ⟨-, -, -, hone, -, -⟩ := hcoherent ⟨hdate, htext⟩
  obtain ⟨-, hexchanged⟩ :=
    relations_coherent .date (some (.text "1969-12-31")) (some (.date .epoch))
  obtain ⟨-, -, -, -, hswap, -⟩ := hexchanged ⟨htext, hdate⟩
  refine ⟨hless, ?_, hswap.trans hless, (relations_coherent .date _ _).1 fun h => hnumber h.1⟩
  rw [Bool.eq_false_iff]
  intro hgreater
  exact absurd (hone _ (by decide) _ (by decide) hless hgreater) (by decide)

end TableDiff
