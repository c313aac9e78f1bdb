import TableDiff.Proofs.Number.Difference

/-!
# Tolerances

A tolerance bounds the distance of two numbers. Whether it is kept depends on the distance alone, so
the two cells may be exchanged, and a wider tolerance accepts all that a narrower one does. It is
exact for all numbers whose distance needs no rounding; a distance that is rounded down to the
tolerance is accepted, too.
-/

namespace TableDiff

namespace Decimal

variable {bound wider x y : Decimal}

theorem within_comm (bound x y : Decimal) : bound.within x y = bound.within y x := by
  rw [Bool.eq_iff_iff, within_iff, within_iff, distance_comm, justBeyond_comm]

theorem within_mono (h : bound.toRat ≤ wider.toRat) (hwithin : bound.within x y = true) :
    wider.within x y = true := by
  unfold within at hwithin ⊢
  cases hsub : y.sub? x with
  | none =>
    rw [hsub] at hwithin
    exact hwithin
  | some r =>
    rw [hsub] at hwithin
    dsimp only at hwithin ⊢
    rw [Ordering.isLE_iff_ne_gt, (r.abs.compares_toRat _).eq_gt, not_lt] at hwithin ⊢
    exact hwithin.trans h

end Decimal

namespace Comparator

variable {bound x y : Decimal} {t : Datatype} {e a : Value}

theorem accepts_tolerance_eq (he : e.castDecimal? = some x) (ha : a.castDecimal? = some y) :
    (tolerance bound).accepts t (some e) (some a) = bound.within x y := by
  simp only [accepts, check, he, ha]
  cases bound.within x y <;> rfl

/-- A tolerance is exact but for the numbers that are just beyond it; these it accepts. It treats
the two cells alike, and accepts no less when it is widened. -/
theorem accepts_tolerance_iff_distance_le (he : e.castDecimal? = some x)
    (ha : a.castDecimal? = some y) :
    (((tolerance bound).accepts t (some e) (some a) = true ↔ |y.toRat - x.toRat| ≤ bound.toRat) ↔
        ¬ Decimal.JustBeyond bound x y) ∧
      (tolerance bound).accepts t (some a) (some e) =
        (tolerance bound).accepts t (some e) (some a) ∧
      ∀ wider : Decimal, bound.toRat ≤ wider.toRat →
        (tolerance bound).accepts t (some e) (some a) = true →
          (tolerance wider).accepts t (some e) (some a) = true := by
  rw [accepts_tolerance_eq he ha, accepts_tolerance_eq ha he]
  refine ⟨?_, Decimal.within_comm bound y x, fun wider hwider hwithin => ?_⟩
  · rw [Decimal.within_iff]
    constructor
    · intro hexact hbeyond
      exact not_le.mpr hbeyond.lt_distance (hexact.mp (.inr hbeyond))
    · intro hnot
      exact or_iff_left hnot
  · rw [accepts_tolerance_eq he ha]
    exact Decimal.within_mono hwider hwithin

/-- The distance 9 of -1 and 8 is kept exactly: it is more than 8.5 and not more than 9.0. -/
theorem accepts_tolerance_iff_distance_le_whole :
    (tolerance ⟨false, 90, 1, by decide, by decide⟩).accepts .decimal
        (some (.text "-1.00")) (some (.integer 8)) = true ∧
      (tolerance ⟨false, 85, 1, by decide, by decide⟩).accepts .decimal
        (some (.text "-1.00")) (some (.integer 8)) = false := by
  let minusOne : Decimal := ⟨true, 100, 2, by decide, by decide⟩
  let eight : Decimal := ⟨false, 8, 0, by decide, by decide⟩
  have he : (Value.text "-1.00").castDecimal? = some minusOne := by decide
  have ha : (Value.integer 8).castDecimal? = some eight := by decide
  have hdistance : |eight.toRat - minusOne.toRat| = 9 := by
    norm_num [Decimal.toRat, Decimal.numerator, Number.cast_tenPow, eight, minusOne]
  -- A distance of whole units of its last place is rounded to itself.
  have hexact : ∀ bound : Decimal, ¬ Decimal.JustBeyond bound minusOne eight := by
    rintro bound ⟨m, -, hlt, hround⟩
    have hunits : Decimal.distance minusOne eight *
        10 ^ Decimal.distancePlaces minusOne eight =
          ((9 * 10 ^ Decimal.distancePlaces minusOne eight : ℕ) : ℚ) := by
      unfold Decimal.distance
      rw [hdistance]
      push_cast
      rfl
    rw [hunits] at hlt hround
    have hsucc := Nat.succ_le_of_lt (Nat.cast_lt.mp hlt)
    have hcast : ((m + 1 : ℕ) : ℚ) ≤ (9 * 10 ^ Decimal.distancePlaces minusOne eight : ℕ) :=
      Nat.cast_le.mpr hsucc
    push_cast at hcast hround
    rcases hround with hlt' | ⟨heq, -⟩ <;> linarith
  constructor
  · refine ((accepts_tolerance_iff_distance_le he ha).1.mpr (hexact _)).mpr ?_
    rw [hdistance]
    norm_num [Decimal.toRat, Decimal.numerator, Number.cast_tenPow]
  · rw [Bool.eq_false_iff]
    refine mt ((accepts_tolerance_iff_distance_le he ha).1.mpr (hexact _)).mp ?_
    rw [hdistance]
    norm_num [Decimal.toRat, Decimal.numerator, Number.cast_tenPow]

/-- The distance of -0.0000000000000000000000000001 and 8 is more than 8, but it has room for 27
places only, and is accepted. -/
theorem accepts_tolerance_not_distance_le :
    let least : Decimal := ⟨true, 1, 28, by decide, by decide⟩
    let eight : Decimal := ⟨false, 8, 0, by decide, by decide⟩
    (Value.decimal least).castDecimal? = some least ∧
      (Value.integer 8).castDecimal? = some eight ∧
      (tolerance eight).accepts .decimal (some (.decimal least)) (some (.integer 8)) = true ∧
      ¬ |eight.toRat - least.toRat| ≤ eight.toRat := by
  refine ⟨by decide, by decide, by decide, ?_⟩
  norm_num [Decimal.toRat, Decimal.numerator, Number.cast_tenPow]

end Comparator

end TableDiff
