import TableDiff.Proofs.Number.Fitting

/-!
# Differences of decimal numbers

The distance of two decimal numbers is given with as many places as a mantissa of 96 bits has room
for, up to the finer of their scales, and is rounded half to even at the last of them; without room
even for its whole part it is not given at all. So a bound on the distance is kept exactly, but for
one case: the bound counts whole units of that last place, and the distance lies above the bound but
is rounded to it (`Decimal.JustBeyond`).
-/

namespace TableDiff

namespace Decimal

/-! ## Fitted numbers as rational numbers -/

theorem cast_mantissaBound : (mantissaBound : ℚ) = 2 ^ 96 := by
  rw [mantissaBound_eq]
  norm_num

theorem toRat_mul_pow_scale (d : Decimal) : d.toRat * 10 ^ d.scale = d.numerator := by
  unfold toRat
  rw [Number.cast_tenPow]
  exact div_mul_cancel₀ _ (by positivity)

theorem numerator_lt (d : Decimal) : d.numerator < mantissaBound := by
  have hlt : d.mantissa < mantissaBound := d.mantissa_lt
  unfold numerator
  split <;> omega

/-- A bound counts whole units of each place from its own last one on. -/
theorem toRat_mul_pow (d : Decimal) {p : Nat} (hp : d.scale ≤ p) :
    d.toRat * 10 ^ p = (d.numerator * 10 ^ (p - d.scale) : ℤ) := by
  have hpow : (10 : ℚ) ^ p = 10 ^ d.scale * 10 ^ (p - d.scale) := by
    rw [← pow_add, Nat.add_sub_cancel' hp]
  rw [hpow, ← mul_assoc, toRat_mul_pow_scale]
  push_cast
  rfl

/-- Before its last place a number is less than the bound of mantissas. -/
theorem toRat_mul_pow_succ_le (d : Decimal) {p : Nat} (hp : p < d.scale) :
    d.toRat * 10 ^ p * 10 ≤ 2 ^ 96 - 1 := by
  have hnum : (d.numerator : ℚ) ≤ 2 ^ 96 - 1 := by
    have hle : d.numerator ≤ (mantissaBound : ℤ) - 1 := Int.le_sub_one_of_lt d.numerator_lt
    rw [← cast_mantissaBound]
    exact_mod_cast hle
  have hpow : (10 : ℚ) ^ d.scale = 10 ^ p * 10 * 10 ^ (d.scale - (p + 1)) := by
    rw [← pow_succ, ← pow_add, Nat.add_sub_cancel' hp]
  have hscale := d.toRat_mul_pow_scale
  rw [hpow] at hscale
  have hone : (1 : ℚ) ≤ 10 ^ (d.scale - (p + 1)) := one_le_pow₀ (by norm_num)
  rcases le_or_gt (d.toRat * 10 ^ p * 10) 0 with hneg | hpos
  · exact hneg.trans (by norm_num)
  · calc d.toRat * 10 ^ p * 10 ≤ d.toRat * 10 ^ p * 10 * 10 ^ (d.scale - (p + 1)) :=
          le_mul_of_one_le_right hpos.le hone
      _ = d.numerator := by rw [← hscale]; ring
      _ ≤ 2 ^ 96 - 1 := hnum

/-- Whether a number `u` of units is rounded to `m`, or to less. -/
def RoundsTo (u : ℚ) (m : ℕ) : Prop := u < m + 1 / 2 ∨ u = m + 1 / 2 ∧ Even m

/-- A number `u` of units is at most `b`, or `b` is a whole number below it to which it is
rounded. -/
def RoundsWithin (u b : ℚ) : Prop := u ≤ b ∨ ∃ m : ℕ, b = m ∧ m < u ∧ RoundsTo u m

namespace FitOf

variable {n scale : Nat} {r bound : Decimal} {δ : ℚ}

theorem mantissa_le_iff (h : FitOf n scale r) (hδ : δ * 10 ^ scale = n) (m : ℕ) :
    r.mantissa ≤ m ↔ RoundsTo (δ * 10 ^ r.scale) m := by
  have hpow : (10 : ℚ) ^ scale = 10 ^ r.scale * 10 ^ (scale - r.scale) := by
    rw [← pow_add, Nat.add_sub_cancel' h.scale_le]
  have hpos : (0 : ℚ) < 10 ^ (scale - r.scale) := by positivity
  rw [hpow, ← mul_assoc] at hδ
  rw [h.mantissa_eq, Binary64.divHalfEven_le_iff (Number.tenPow_pos _), ← Nat.even_iff]
  have hlt : 2 * n < (2 * m + 1) * Number.tenPow (scale - r.scale) ↔
      δ * 10 ^ r.scale < m + 1 / 2 := by
    rw [← mul_lt_mul_iff_of_pos_right hpos, hδ, ← Nat.cast_lt (α := ℚ)]
    push_cast
    rw [Number.cast_tenPow]
    constructor <;> intro h <;> linarith
  have heq : 2 * n = (2 * m + 1) * Number.tenPow (scale - r.scale) ↔
      δ * 10 ^ r.scale = m + 1 / 2 := by
    rw [← mul_left_inj' hpos.ne', hδ, ← Nat.cast_inj (R := ℚ)]
    push_cast
    rw [Number.cast_tenPow]
    constructor <;> intro h <;> linarith
  rw [hlt, heq]
  rfl

theorem le_mul_pow (h : FitOf n scale r) (hδ : δ * 10 ^ scale = n) (hlt : r.scale < scale) :
    2 ^ 96 - 1 / 2 ≤ δ * 10 ^ r.scale * 10 := by
  have hpow : (10 : ℚ) ^ scale = 10 ^ r.scale * 10 * 10 ^ (scale - r.scale - 1) := by
    rw [← pow_succ, ← pow_add]
    congr 1
    omega
  have hpos : (0 : ℚ) < 10 ^ (scale - r.scale - 1) := by positivity
  have hfull : ((2 * mantissaBound - 1 : ℕ) : ℚ) * Number.tenPow (scale - r.scale - 1) ≤ 2 * n := by
    exact_mod_cast h.full hlt
  have hbound : ((2 * mantissaBound - 1 : ℕ) : ℚ) = 2 * (2 ^ 96 - 1 / 2) := by
    rw [mantissaBound_eq]
    norm_num
  rw [Number.cast_tenPow, hbound] at hfull
  rw [hpow] at hδ
  rw [← mul_le_mul_iff_of_pos_right hpos]
  linarith

/-- A bound with places that the fitted number had to give up is below all numbers that are rounded
for want of room. -/
theorem not_roundsTo_of_lost (h : FitOf n scale r) (hδ : δ * 10 ^ scale = n)
    (hfiner : r.scale < bound.scale) (hlost : r.scale < scale) {m : ℕ}
    (hm : (m : ℚ) ≤ bound.toRat * 10 ^ r.scale) : ¬ RoundsTo (δ * 10 ^ r.scale) m := by
  have hbound := bound.toRat_mul_pow_succ_le hfiner
  have hlarge := h.le_mul_pow hδ hlost
  -- The bound has one digit less than the mantissa, which has as many as there is room for.
  have hten : ((m * 10 : ℕ) : ℚ) ≤ (79228162514264337593543950335 : ℕ) := by
    push_cast
    linarith
  have hsmall : m ≤ 7922816251426433759354395033 := by
    have hle := Nat.cast_le.mp hten
    omega
  have hcast : (m : ℚ) ≤ 7922816251426433759354395033 := by exact_mod_cast hsmall
  rintro (hlt | ⟨heq, -⟩) <;> linarith

theorem mantissa_le_iff_of_lost (h : FitOf n scale r) (hδ : δ * 10 ^ scale = n)
    (hfiner : r.scale < bound.scale) (hlost : r.scale < scale) :
    (r.mantissa : ℚ) ≤ bound.toRat * 10 ^ r.scale ↔
      RoundsWithin (δ * 10 ^ r.scale) (bound.toRat * 10 ^ r.scale) := by
  have hnot : ∀ m : ℕ, (m : ℚ) ≤ bound.toRat * 10 ^ r.scale → ¬ RoundsTo (δ * 10 ^ r.scale) m :=
    fun _ hm => h.not_roundsTo_of_lost hδ hfiner hlost hm
  refine iff_of_false (fun hle => ?_) ?_
  · exact hnot r.mantissa hle ((h.mantissa_le_iff hδ _).mp (Nat.le_refl _))
  · rintro (hle | ⟨m, hm, -, hround⟩)
    · have hbound := bound.toRat_mul_pow_succ_le hfiner
      have hlarge := h.le_mul_pow hδ hlost
      linarith
    · exact hnot m hm.ge hround

/-- Where no place is given up nothing is rounded. -/
theorem mantissa_le_iff_of_kept (h : FitOf n scale r) (hδ : δ * 10 ^ scale = n)
    (hkept : r.scale = scale) (b : ℚ) :
    (r.mantissa : ℚ) ≤ b ↔ RoundsWithin (δ * 10 ^ r.scale) b := by
  have hexact : r.mantissa = n := by
    rw [h.mantissa_eq, hkept, Nat.sub_self]
    exact Binary64.divHalfEven_one n
  rw [hkept, hδ, hexact]
  refine (or_iff_left ?_).symm
  rintro ⟨m, -, hlt, hround⟩
  have hsucc : ((m + 1 : ℕ) : ℚ) ≤ n := Nat.cast_le.mpr (Nat.cast_lt.mp hlt)
  push_cast at hsucc
  rcases hround with hless | ⟨heq, -⟩ <;> linarith

/-- A bound of whole units is kept by rounding. -/
theorem mantissa_le_iff_of_whole (h : FitOf n scale r) (hδ : δ * 10 ^ scale = n) (k : ℤ) :
    (r.mantissa : ℚ) ≤ k ↔ RoundsWithin (δ * 10 ^ r.scale) k := by
  have hnonneg : 0 ≤ δ * 10 ^ r.scale := by
    have hn : (0 : ℚ) ≤ n := Nat.cast_nonneg n
    rw [← hδ] at hn
    have hδ0 : 0 ≤ δ := nonneg_of_mul_nonneg_left hn (by positivity)
    positivity
  cases k with
  | negSucc k =>
    have hneg : ((Int.negSucc k : ℤ) : ℚ) < 0 := by exact_mod_cast Int.negSucc_lt_zero k
    refine iff_of_false (fun hle => ?_) ?_
    · exact absurd (Nat.cast_nonneg (α := ℚ) r.mantissa) (by linarith)
    · rintro (hle | ⟨m, hm, -, -⟩)
      · linarith
      · exact absurd (Nat.cast_nonneg (α := ℚ) m) (by linarith)
  | ofNat k =>
    rw [Int.ofNat_eq_natCast, Int.cast_natCast, Nat.cast_le, h.mantissa_le_iff hδ]
    constructor
    · intro hround
      by_cases hle : δ * 10 ^ r.scale ≤ k
      · exact .inl hle
      · exact .inr ⟨k, rfl, not_le.mp hle, hround⟩
    · rintro (hle | ⟨m, hm, -, hround⟩)
      · exact .inl (by linarith)
      · rwa [Nat.cast_inj.mp hm]

/-- A bound holds for the fitted number if it holds for the exact one, or if it is just what the
exact one is rounded to. -/
theorem mantissa_le_bound_iff (h : FitOf n scale r) (hδ : δ * 10 ^ scale = n) (bound : Decimal) :
    (r.mantissa : ℚ) ≤ bound.toRat * 10 ^ r.scale ↔
      RoundsWithin (δ * 10 ^ r.scale) (bound.toRat * 10 ^ r.scale) := by
  by_cases hfiner : r.scale < bound.scale
  · by_cases hlost : r.scale < scale
    · exact h.mantissa_le_iff_of_lost hδ hfiner hlost
    · exact h.mantissa_le_iff_of_kept hδ (Nat.le_antisymm h.scale_le (Nat.not_lt.mp hlost)) _
  · rw [bound.toRat_mul_pow (Nat.not_lt.mp hfiner)]
    exact h.mantissa_le_iff_of_whole hδ _

end FitOf

/-! ## Distances -/

/-- How far two numbers are apart. -/
def distance (x y : Decimal) : ℚ := |y.toRat - x.toRat|

/-- With how many places the distance of two numbers is rounded to a mantissa of 96 bits. -/
def distancePlaces (x y : Decimal) : Nat :=
  Nat.findGreatest (fun p => distance x y * 10 ^ p < 2 ^ 96 - 1 / 2) (max x.scale y.scale)

theorem distance_comm (x y : Decimal) : distance x y = distance y x := abs_sub_comm _ _

theorem distancePlaces_comm (x y : Decimal) : distancePlaces x y = distancePlaces y x := by
  unfold distancePlaces
  rw [distance_comm, max_comm]

/-- Two numbers are farther apart than a bound, which counts whole units of the last place that
their distance has room for, but at that place the distance is rounded to the bound. -/
def JustBeyond (bound x y : Decimal) : Prop :=
  ∃ m : ℕ, bound.toRat * 10 ^ distancePlaces x y = m ∧
    m < distance x y * 10 ^ distancePlaces x y ∧
      RoundsTo (distance x y * 10 ^ distancePlaces x y) m

theorem justBeyond_comm (bound x y : Decimal) : JustBeyond bound x y ↔ JustBeyond bound y x := by
  unfold JustBeyond
  rw [distance_comm, distancePlaces_comm]

theorem JustBeyond.lt_distance {bound x y : Decimal} (h : JustBeyond bound x y) :
    bound.toRat < distance x y := by
  obtain ⟨m, hm, hlt, -⟩ := h
  rw [← hm] at hlt
  exact lt_of_mul_lt_mul_right hlt (by positivity)

/-- The difference at the finer scale, in units of its last place. -/
def differenceUnits (x y : Decimal) : Int :=
  y.numerator * Number.tenPow (max y.scale x.scale - y.scale) -
    x.numerator * Number.tenPow (max y.scale x.scale - x.scale)

theorem distance_mul_pow (x y : Decimal) :
    distance x y * 10 ^ max y.scale x.scale = (differenceUnits x y).natAbs := by
  have hx := x.toRat_mul_pow (le_max_right y.scale x.scale)
  have hy := y.toRat_mul_pow (le_max_left y.scale x.scale)
  have hpos : (0 : ℚ) < 10 ^ max y.scale x.scale := by positivity
  unfold distance
  rw [← abs_of_pos hpos, ← abs_mul, sub_mul, hx, hy, Nat.cast_natAbs, Int.cast_abs]
  unfold differenceUnits
  rw [Int.cast_sub]
  rfl

theorem sub?_eq_fit? (x y : Decimal) :
    y.sub? x = fit? (differenceUnits x y < 0) (differenceUnits x y).natAbs
      (max y.scale x.scale) := rfl

theorem FitOf.distancePlaces_eq {x y r : Decimal}
    (h : FitOf (differenceUnits x y).natAbs (max y.scale x.scale) r) :
    distancePlaces x y = r.scale := by
  have hδ := distance_mul_pow x y
  have hnonneg : 0 ≤ distance x y := abs_nonneg _
  have hroom : ∀ p, r.scale < p → p ≤ max y.scale x.scale →
      2 ^ 96 - 1 / 2 ≤ distance x y * 10 ^ p := by
    intro p hp hple
    refine (h.le_mul_pow hδ (by omega)).trans ?_
    rw [mul_assoc, ← pow_succ]
    exact mul_le_mul_of_nonneg_left (pow_le_pow_right₀ (by norm_num) hp) hnonneg
  unfold distancePlaces
  rw [Nat.findGreatest_eq_iff, max_comm]
  refine ⟨h.scale_le, fun _ => ?_, fun p hp hple => not_lt.mpr (hroom p hp hple)⟩
  -- The mantissa is at most the greatest one, which is odd.
  have hle : r.mantissa ≤ 79228162514264337593543950335 :=
    Nat.le_of_lt_succ r.mantissa_lt
  rcases (h.mantissa_le_iff hδ _).mp hle with hlt | ⟨-, heven⟩
  · refine hlt.trans_eq ?_
    norm_num
  · exact absurd heven (by decide)

theorem toRat_le (d : Decimal) : d.toRat ≤ 2 ^ 96 - 1 := by
  rcases Nat.eq_zero_or_pos d.scale with hscale | hscale
  · have hnum := d.toRat_mul_pow_scale
    have hle : (d.numerator : ℚ) ≤ (mantissaBound : ℤ) - 1 := by
      exact_mod_cast Int.le_sub_one_of_lt d.numerator_lt
    rw [hscale, pow_zero, mul_one] at hnum
    rw [hnum, ← cast_mantissaBound]
    exact_mod_cast hle
  · have hten := d.toRat_mul_pow_succ_le hscale
    rw [pow_zero, mul_one] at hten
    linarith

/-- A distance that has no room without places is beyond every bound. -/
theorem not_justBeyond_of_le {bound x y : Decimal} (h : 2 ^ 96 - 1 / 2 ≤ distance x y) :
    ¬ JustBeyond bound x y := by
  rintro ⟨m, hm, -, hround⟩
  have hbound := bound.toRat_le
  have hone : (1 : ℚ) ≤ 10 ^ distancePlaces x y := one_le_pow₀ (by norm_num)
  have hle : distance x y * 10 ^ distancePlaces x y ≤ m + 1 / 2 :=
    hround.elim le_of_lt fun h => h.1.le
  -- The distance exceeds the bound by half a unit without places, so there are no places.
  have hunit : (10 : ℚ) ^ distancePlaces x y = 1 := by
    refine le_antisymm ?_ hone
    rw [← hm] at hle
    nlinarith
  rw [hunit, mul_one] at hm hle hround
  have hlast : (m : ℚ) = (79228162514264337593543950335 : ℕ) := by
    push_cast
    linarith
  have hodd : m = 79228162514264337593543950335 := Nat.cast_inj.mp hlast
  rcases hround with hlt | ⟨-, heven⟩
  · linarith
  · rw [hodd] at heven
    exact absurd heven (by decide)

theorem toRat_abs (d : Decimal) : d.abs.toRat * 10 ^ d.scale = d.mantissa := by
  have h := d.abs.toRat_mul_pow_scale
  exact h

/-- A bound is kept exactly, but for the distances that are just beyond it. -/
theorem within_iff (bound x y : Decimal) :
    bound.within x y = true ↔ distance x y ≤ bound.toRat ∨ JustBeyond bound x y := by
  have hδ := distance_mul_pow x y
  unfold within
  rw [sub?_eq_fit?]
  rcases fit?_cases (differenceUnits x y < 0) (differenceUnits x y).natAbs
    (Nat.max_le.mpr ⟨y.scale_le, x.scale_le⟩) with ⟨hnone, hlarge⟩ | ⟨r, hsome, hfit⟩
  · have hfar : 2 ^ 96 - 1 / 2 ≤ distance x y := by
      have hpos : (0 : ℚ) < 10 ^ max y.scale x.scale := by positivity
      have hlarge' : ((2 * mantissaBound - 1 : ℕ) : ℚ) * Number.tenPow (max y.scale x.scale) ≤
          2 * (differenceUnits x y).natAbs := by exact_mod_cast hlarge
      have hbound : ((2 * mantissaBound - 1 : ℕ) : ℚ) = 2 * (2 ^ 96 - 1 / 2) := by
        rw [mantissaBound_eq]
        norm_num
      rw [Number.cast_tenPow, hbound, ← hδ] at hlarge'
      rw [← mul_le_mul_iff_of_pos_right hpos]
      linarith
    have hbound := bound.toRat_le
    rw [hnone]
    refine iff_of_false Bool.false_ne_true (not_or.mpr ⟨fun hle => ?_, not_justBeyond_of_le hfar⟩)
    linarith
  · have hpos : (0 : ℚ) < 10 ^ r.scale := by positivity
    rw [hsome]
    dsimp only
    rw [Ordering.isLE_iff_ne_gt, (r.abs.compares_toRat bound).eq_gt, not_lt,
      ← mul_le_mul_iff_of_pos_right hpos, toRat_abs, hfit.mantissa_le_bound_iff hδ]
    unfold RoundsWithin JustBeyond
    rw [hfit.distancePlaces_eq, mul_le_mul_iff_of_pos_right hpos]

end Decimal

end TableDiff
