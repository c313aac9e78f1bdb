import TableDiff.Proofs.Number.Shortest

/-!
# Ties between shortest numerals

Of two equally near shortest numerals either the upper or the even one is taken. Which numbers have
two such numerals follows from the powers of two and five: midway between two numerals with `j`
places lie odd multiples of 2 ^ -(j + 1), and from the numerals with fewer places these are at least
a quarter of such a place away.
-/

namespace TableDiff.Binary64

variable {x : Binary64} {r : RoundingInterval} {tie : Tie} {n : Numeral} {e : ℤ}

/-! ## Ties on a grid -/

/-- The neighbours of the value on a grid both lie in the interval and are equally near, and the
lower one is even. -/
structure RoundingInterval.Ties (r : RoundingInterval) (e : ℤ) : Prop where
  holds_lower : r.holds (r.lower e) = true
  holds_upper : r.holds (r.upper e) = true
  midway : 2 * quarters r.value = (2 * (r.lower e).digits + 1) * 10 ^ e
  even : (r.lower e).digits % 2 = 0

theorem RoundingInterval.midway_iff (r : RoundingInterval) (e : ℤ) :
    2 * (r.value * (powerOfTen e).2 % ((powerOfTen e).1 * quartersPerOne)) =
        (powerOfTen e).1 * quartersPerOne ↔
      2 * quarters r.value = (2 * (r.lower e).digits + 1) * 10 ^ e := by
  have hdivision := Nat.div_add_mod (r.value * (powerOfTen e).2)
    ((powerOfTen e).1 * quartersPerOne)
  have hdigits : (r.lower e).digits =
      r.value * (powerOfTen e).2 / ((powerOfTen e).1 * quartersPerOne) := rfl
  have hwhole : 2 * (r.value * (powerOfTen e).2 % ((powerOfTen e).1 * quartersPerOne)) =
      (powerOfTen e).1 * quartersPerOne ↔
        (2 * (r.lower e).digits + 1) * ((powerOfTen e).1 * quartersPerOne) =
          2 * r.value * (powerOfTen e).2 := by
    rw [hdigits]
    generalize (powerOfTen e).1 * quartersPerOne = unit at hdivision ⊢
    generalize hplaces : r.value * (powerOfTen e).2 = places at hdivision ⊢
    rw [Nat.mul_assoc 2, hplaces, Nat.add_mul, Nat.one_mul, Nat.mul_assoc, Nat.mul_comm _ unit]
    omega
  have hvalue : quarters (2 * r.value) = 2 * quarters r.value := by
    unfold quarters
    rw [Nat.cast_mul, Nat.cast_ofNat, mul_div_assoc]
  obtain ⟨hle, hge⟩ := le_quarters_iff (2 * (r.lower e).digits + 1) (2 * r.value) e
  rw [hwhole, le_antisymm_iff, hle, hge, ← le_antisymm_iff, hvalue, eq_comm]
  push_cast
  rfl

theorem RoundingInterval.onGrid?_of_ties (h : r.Ties e) :
    r.onGrid? .toEven e = some (r.lower e) ∧ r.onGrid? .upward e = some (r.upper e) := by
  have hmidway := (r.midway_iff e).mpr h.midway
  rw [onGrid?_eq, onGrid?_eq, if_pos h.holds_lower, if_pos h.holds_upper, if_pos h.holds_lower,
    if_pos h.holds_upper]
  unfold nearer
  extract_lets unit twice
  have hupward : ¬ (twice < unit ∨ twice = unit ∧ Tie.upward = .toEven ∧
      (r.lower e).digits % 2 = 0) := by
    rintro (hlt | ⟨-, heven, -⟩)
    · exact hlt.ne hmidway
    · cases heven
  rw [if_pos (Or.inr ⟨hmidway, rfl, h.even⟩), if_neg hupward]
  exact ⟨rfl, rfl⟩

theorem RoundingInterval.onGrid?_of_not_ties (h : ¬ r.Ties e) :
    r.onGrid? .toEven e = r.onGrid? .upward e := by
  rw [onGrid?_eq, onGrid?_eq]
  split
  · rename_i hlower
    split
    · rename_i hupper
      unfold nearer
      extract_lets unit twice
      have hdecides : ¬ (twice = unit ∧ (r.lower e).digits % 2 = 0) := fun htie =>
        h ⟨hlower, hupper, (r.midway_iff e).mp htie.1, htie.2⟩
      have hcondition : (twice < unit ∨ twice = unit ∧ Tie.toEven = .toEven ∧
          (r.lower e).digits % 2 = 0) ↔ (twice < unit ∨ twice = unit ∧ Tie.upward = .toEven ∧
            (r.lower e).digits % 2 = 0) := by
        refine or_congr_right (iff_of_false (fun htie => hdecides ⟨htie.1, htie.2.2⟩) ?_)
        rintro ⟨-, heven, -⟩
        cases heven
      rw [if_congr hcondition rfl rfl]
    · rfl
  · rfl

theorem RoundingInterval.onGrid?_eq_none_iff :
    r.onGrid? tie e = none ↔ ¬ r.holds (r.lower e) = true ∧ ¬ r.holds (r.upper e) = true := by
  refine ⟨fun h => not_or.mp fun hholds => onGrid?_ne_none hholds h, fun h => ?_⟩
  rw [onGrid?_eq, if_neg h.1, if_neg h.2]

/-! ## The first grid -/

theorem Numeral.toRat_stripZeros (fuel : Nat) (n : Numeral) :
    (n.stripZeros fuel).toRat = n.toRat := by
  induction fuel generalizing n with
  | zero => rfl
  | succ fuel ih =>
    unfold stripZeros
    split
    · rename_i hzeros
      exact (ih _).trans (toRat_dropZero hzeros.2)
    · rfl

theorem findSome?_range {α : Type} {f : Nat → Option α} {a : α} {i m : Nat} (hi : i < m)
    (hbefore : ∀ k < i, f k = none) (h : f i = some a) : (List.range m).findSome? f = some a := by
  induction m with
  | zero => cases hi
  | succ m ih =>
    rw [List.range_succ, List.findSome?_append]
    rcases Nat.lt_succ_iff_lt_or_eq.mp hi with hlt | rfl
    · rw [ih hlt]
      rfl
    · have hnone : (List.range i).findSome? f = none :=
        List.findSome?_eq_none_iff.mpr fun k hk => hbefore k (List.mem_range.mp hk)
      rw [hnone, List.findSome?_singleton]
      exact h

/-- The coarsest grid with a numeral in the interval, by its number of digits less one. -/
structure IsFirstGrid (x : Binary64) (i : Nat) : Prop where
  lt : i < 17
  before : ∀ k < i, ∀ tie, x.roundingInterval.onGrid? tie (Int.log 10 x.size - k) = none
  found : ∀ tie, x.roundingInterval.onGrid? tie (Int.log 10 x.size - i) ≠ none

theorem exists_isFirstGrid (hzero : ¬ x.isZero = true) : ∃ i, x.IsFirstGrid i := by
  have hx := significand_pos hzero
  let holds (i : Nat) : Prop :=
    x.roundingInterval.onGrid? .upward (Int.log 10 x.size - i) ≠ none
  have hfinest : holds 16 :=
    RoundingInterval.onGrid?_ne_none (exists_numeral_on_finest_grid hx (log_size_bounds hx).1)
  obtain ⟨i, hi, hfirst⟩ : ∃ i, holds i ∧ ∀ k < i, ¬ holds k := by
    classical
    exact ⟨Nat.find ⟨16, hfinest⟩, Nat.find_spec _, fun _ => Nat.find_min _⟩
  refine ⟨i, ?_, fun k hk tie => ?_, fun tie hnone => ?_⟩
  · by_contra hlt
    exact hfirst 16 (by omega) hfinest
  · have hnone := not_not.mp (hfirst k hk)
    exact RoundingInterval.onGrid?_eq_none_iff.mpr (RoundingInterval.onGrid?_eq_none_iff.mp hnone)
  · exact hi (RoundingInterval.onGrid?_eq_none_iff.mpr
      (RoundingInterval.onGrid?_eq_none_iff.mp hnone))

theorem IsFirstGrid.shortest_eq {i : Nat} (hfinite : x.isFinite = true) (hzero : ¬ x.isZero = true)
    (h : x.IsFirstGrid i)
    (hn : x.roundingInterval.onGrid? tie (Int.log 10 x.size - i) = some n) :
    x.shortest tie = n.stripZeros 17 := by
  have hlog := leadingExponent_value hfinite (significand_pos hzero)
  unfold shortest
  extract_lets r k found
  have hfound : found = some n := by
    show (List.range 17).findSome? (fun i => x.roundingInterval.onGrid? tie
      (leadingExponent x.roundingInterval.value - i)) = some n
    rw [hlog]
    exact findSome?_range h.lt (fun k hk => h.before k hk tie) hn
  rw [hfound]
  rfl

/-- The shortest numerals differ if there is a tie on the first grid that has a numeral. -/
theorem IsFirstGrid.shortest_eq_iff {i : Nat} (hfinite : x.isFinite = true)
    (hzero : ¬ x.isZero = true) (h : x.IsFirstGrid i) :
    x.shortest .toEven = x.shortest .upward ↔
      ¬ x.roundingInterval.Ties (Int.log 10 x.size - i) := by
  constructor
  · intro hsame hties
    obtain ⟨heven, hupward⟩ := RoundingInterval.onGrid?_of_ties hties
    rw [h.shortest_eq hfinite hzero heven, h.shortest_eq hfinite hzero hupward] at hsame
    obtain ⟨hlower, hupper⟩ := x.roundingInterval.lower_le_lt_upper (Int.log 10 x.size - i)
    have hvalue := congrArg Numeral.toRat hsame
    rw [Numeral.toRat_stripZeros, Numeral.toRat_stripZeros] at hvalue
    exact (hlower.trans_lt hupper).ne hvalue
  · intro hties
    have hsame := RoundingInterval.onGrid?_of_not_ties hties
    obtain ⟨n, hn⟩ := Option.ne_none_iff_exists'.mp (h.found .upward)
    rw [h.shortest_eq hfinite hzero hn, h.shortest_eq hfinite hzero (hsame.trans hn)]

/-! ## Powers of two and five -/

section Powers

variable {S L j k q : Nat}

theorem five_pow_mod_four (j : Nat) : 5 ^ j % 4 = 1 := by
  rw [Nat.pow_mod, show 5 % 4 = 1 from rfl, Nat.one_pow]

/-- What lies midway between two numerals with `j` places is an odd multiple of 2 ^ -(j + 1). -/
theorem exists_odd_of_midway (h : 2 * S * 10 ^ j = (2 * L + 1) * 2 ^ k) (heven : L % 2 = 0) :
    ∃ q, S * 2 ^ (j + 1) = (4 * q + 1) * 2 ^ k := by
  have hten : 10 ^ j = 2 ^ j * 5 ^ j := Nat.mul_pow 2 5 j
  have hcoprime : Nat.Coprime (5 ^ j) (2 ^ k) := Nat.Coprime.pow j k (by decide)
  have hdvd : 5 ^ j ∣ (2 * L + 1) * 2 ^ k := by
    rw [← h, hten]
    exact ((dvd_refl _).mul_left _).mul_left _
  obtain ⟨o, ho⟩ := hcoprime.dvd_of_dvd_mul_right hdvd
  have hodd : o % 4 = 1 := by
    have hmod := congrArg (· % 4) ho
    simp only [Nat.mul_mod, five_pow_mod_four, one_mul, Nat.mod_mod] at hmod
    omega
  have hq : 4 * (o / 4) + 1 = o := by omega
  refine ⟨o / 4, ?_⟩
  have hpos : 0 < 5 ^ j := Nat.pow_pos (by decide)
  apply Nat.eq_of_mul_eq_mul_right hpos
  calc S * 2 ^ (j + 1) * 5 ^ j = 2 * S * (2 ^ j * 5 ^ j) := by ring
    _ = (2 * L + 1) * 2 ^ k := by rw [← hten, h]
    _ = (4 * (o / 4) + 1) * 2 ^ k * 5 ^ j := by rw [ho, hq]; ring

/-- Such a multiple lies a quarter above a numeral with one place less. -/
theorem exists_quarter (hj : 0 < j) : ∃ N, (4 * q + 1) * 5 ^ j = 5 * (4 * N + 1) := by
  have hmod : (4 * q + 1) * 5 ^ (j - 1) % 4 = 1 := by
    rw [Nat.mul_mod, five_pow_mod_four]
    omega
  refine ⟨(4 * q + 1) * 5 ^ (j - 1) / 4, ?_⟩
  have hdivision : 4 * ((4 * q + 1) * 5 ^ (j - 1) / 4) + 1 = (4 * q + 1) * 5 ^ (j - 1) := by omega
  obtain ⟨i, rfl⟩ := Nat.exists_eq_succ_of_ne_zero hj.ne'
  rw [hdivision, Nat.succ_sub_one, Nat.pow_succ]
  ring

/-- The distance to the next number is no multiple of the places, since the numerals around are
odd. -/
theorem ten_pow_ne_mul_two_pow (h : 2 * S * 10 ^ j = (2 * L + 1) * 2 ^ k) (c : Nat) :
    10 ^ j ≠ c * 2 ^ k := by
  intro hten
  have hpos : 0 < 2 ^ k := Nat.pow_pos (by decide)
  have hodd : 2 * S * c = 2 * L + 1 := by
    apply Nat.eq_of_mul_eq_mul_right hpos
    rw [← h, hten, Nat.mul_assoc]
  rw [Nat.mul_assoc] at hodd
  omega

end Powers

/-! ## Ties of a number -/

/-- The number lies midway between two numerals with `j` places, of which the lower one is even, and
`j` is the least number of places with which a numeral rounds to the number: such numerals are not
farther from each other than the numbers are, and those with fewer places are too far off. -/
def TiesDown (x : Binary64) : Prop :=
  ∃ j q : ℕ, x.size * 2 ^ (j + 1) = 4 * q + 1 ∧ 1 ≤ 10 ^ j * x.spacing ∧ 10 ^ j * x.spacing < 5

theorem HasFraction.exists_spacing_mul (hx : x.HasFraction) :
    ∃ k : ℕ, 0 < k ∧ x.spacing * 2 ^ k = 1 := by
  have hshift := hx.shift_lt
  refine ⟨1074 - x.shift, by omega, ?_⟩
  rw [spacing_eq_zpow, ← zpow_natCast, ← zpow_add₀ (by norm_num)]
  have hzero : (x.shift : ℤ) - 1074 + ((1074 - x.shift : ℕ) : ℤ) = 0 := by omega
  rw [hzero, zpow_zero]

theorem tiesDown_iff {k : ℕ} (hk : x.spacing * 2 ^ k = 1) :
    x.TiesDown ↔ ∃ j q : ℕ, x.significand * 2 ^ (j + 1) = (4 * q + 1) * 2 ^ k ∧
      2 ^ k ≤ 10 ^ j ∧ 10 ^ j < 5 * 2 ^ k := by
  have hpos : (0 : ℚ) < 2 ^ k := by positivity
  have hspacing : x.spacing = 1 / 2 ^ k := eq_div_of_mul_eq hpos.ne' hk
  refine exists_congr fun j => exists_congr fun q => ?_
  rw [size_eq, hspacing, mul_one_div, mul_one_div, div_mul_eq_mul_div, div_eq_iff hpos.ne',
    one_le_div hpos, div_lt_iff₀ hpos]
  norm_cast

theorem normal_of_size (hsize : (10 : ℚ) ^ (-5 : ℤ) ≤ x.size) : 2 ^ 52 ≤ x.significand := by
  refine two_pow_52_le_significand (Nat.pos_of_ne_zero fun hshift => ?_)
  have hspacing : x.spacing ≤ 2 ^ (-70 : ℤ) := by
    rw [spacing_eq_zpow]
    exact zpow_le_zpow_right₀ (by norm_num) (by omega)
  have hsignificand : (x.significand : ℚ) < 2 ^ 53 := by exact_mod_cast x.significand_lt
  have hpos := x.spacing_pos
  rw [size_eq] at hsize
  norm_num at hsize hspacing
  nlinarith

/-- No power of two from 0.00001 on lies midway between two numerals that stand for it. -/
theorem significand_ne_of_odd {j k q : ℕ} (hk : x.spacing * 2 ^ k = 1)
    (hodd : x.significand * 2 ^ (j + 1) = (4 * q + 1) * 2 ^ k) (hten : 2 ^ k ≤ 10 ^ j)
    (hsize : (10 : ℚ) ^ (-5 : ℤ) ≤ x.size) : x.significand ≠ 2 ^ 52 := by
  intro htwo
  have hpower : 2 ^ (52 + (j + 1)) = (4 * q + 1) * 2 ^ k := by rw [pow_add, ← htwo, hodd]
  have hone : 4 * q + 1 = 1 := by
    have hcoprime : Nat.Coprime (4 * q + 1) (2 ^ (52 + (j + 1))) := by
      apply Nat.Coprime.pow_right
      rw [Nat.coprime_two_right]
      exact ⟨2 * q, by ring⟩
    exact hcoprime.eq_one_of_dvd ⟨2 ^ k, hpower⟩
  rw [hone, one_mul] at hpower
  have hexponent : k = 53 + j := by
    have h := Nat.pow_right_injective le_rfl hpower
    omega
  -- So many places are needed that the number is small.
  have hplaces : 23 ≤ j := by
    by_contra hj
    have hfive : 5 ^ j ≤ 5 ^ 22 := Nat.pow_le_pow_right (by decide) (by omega)
    have hsplit : 2 ^ 53 * 2 ^ j ≤ 5 ^ j * 2 ^ j := by
      rw [← pow_add, ← hexponent, ← Nat.mul_pow]
      exact hten
    have hle := Nat.le_of_mul_le_mul_right hsplit (Nat.pow_pos (by decide))
    omega
  have hsmall : x.spacing * 2 ^ 76 ≤ 1 := by
    rw [← hk]
    exact mul_le_mul_of_nonneg_left (pow_le_pow_right₀ (by norm_num) (by omega)) x.spacing_pos.le
  rw [size_eq, htwo] at hsize
  norm_num at hsize hsmall
  linarith

/-! ### Places and the spacing -/

section Places

variable {j k : ℕ} (hk : x.spacing * 2 ^ k = 1)
include hk

theorem midway_iff_whole {L : ℕ} :
    2 * x.size = (2 * L + 1) * 10 ^ (-(j : ℤ)) ↔
      2 * x.significand * 10 ^ j = (2 * L + 1) * 2 ^ k := by
  have hpos : (0 : ℚ) < 2 ^ k := by positivity
  have hten : (0 : ℚ) < 10 ^ j := by positivity
  have hspacing : x.spacing = 1 / 2 ^ k := eq_div_of_mul_eq hpos.ne' hk
  rw [size_eq, hspacing, zpow_neg, zpow_natCast, ← div_eq_mul_inv, mul_one_div, ← mul_div_assoc,
    div_eq_div_iff hpos.ne' hten.ne']
  norm_cast

theorem places_le_spacing_iff (c : ℕ) :
    c * (10 : ℚ) ^ (-(j : ℤ)) ≤ x.spacing ↔ c * 2 ^ k ≤ 10 ^ j := by
  have hpos : (0 : ℚ) < 2 ^ k := by positivity
  have hten : (0 : ℚ) < 10 ^ j := by positivity
  have hspacing : x.spacing = 1 / 2 ^ k := eq_div_of_mul_eq hpos.ne' hk
  rw [hspacing, zpow_neg, zpow_natCast, ← div_eq_mul_inv, div_le_div_iff₀ hten hpos, one_mul]
  norm_cast

theorem spacing_le_places_iff (c : ℕ) :
    x.spacing ≤ c * (10 : ℚ) ^ (-(j : ℤ)) ↔ 10 ^ j ≤ c * 2 ^ k := by
  have hpos : (0 : ℚ) < 2 ^ k := by positivity
  have hten : (0 : ℚ) < 10 ^ j := by positivity
  have hspacing : x.spacing = 1 / 2 ^ k := eq_div_of_mul_eq hpos.ne' hk
  rw [hspacing, zpow_neg, zpow_natCast, ← div_eq_mul_inv, div_le_div_iff₀ hpos hten, one_mul]
  norm_cast

end Places

/-! ### Numerals around the number -/

theorem RoundingInterval.digits_lower {N : ℕ} (hlow : N * (10 : ℚ) ^ e ≤ quarters r.value)
    (hhigh : quarters r.value < (N + 1) * (10 : ℚ) ^ e) : (r.lower e).digits = N := by
  have hunit : (0 : ℚ) < 10 ^ e := by positivity
  obtain ⟨hlower, hupper⟩ := r.lower_le_lt_upper e
  have hle : ((r.lower e).digits : ℚ) < N + 1 :=
    lt_of_mul_lt_mul_right (hlower.trans_lt hhigh) hunit.le
  have hge : (N : ℚ) < ((r.lower e).digits + 1 : ℕ) :=
    lt_of_mul_lt_mul_right (hlow.trans_lt hupper) hunit.le
  have hle : (r.lower e).digits < N + 1 := by exact_mod_cast hle
  have hge : N < (r.lower e).digits + 1 := by exact_mod_cast hge
  omega

/-- What is nearer than half the spacing lies in the interval, except below powers of two. -/
theorem holds_of_abs_lt (hx : 0 < x.significand) (hne : x.significand ≠ 2 ^ 52)
    (h : |n.toRat - x.size| < x.spacing / 2) : x.roundingInterval.holds n = true := by
  have hlow : quarters x.roundingInterval.low = x.size - x.spacing / 2 :=
    (quarters_low hx).resolve_right fun htwo => hne htwo.1
  rw [abs_lt] at h
  have hbounds : quarters x.roundingInterval.low < n.toRat ∧
      n.toRat < quarters x.roundingInterval.high := by
    rw [hlow, quarters_high]
    exact ⟨by linarith, by linarith⟩
  rw [RoundingInterval.holds_iff]
  split
  · exact ⟨hbounds.1.le, hbounds.2.le⟩
  · exact hbounds

/-- A number midway between two numerals with `j` places lies a quarter above one with a place
less. -/
theorem exists_quarter_of_odd {j k q : ℕ} (hk : x.spacing * 2 ^ k = 1) (hj : 0 < j)
    (hodd : x.significand * 2 ^ (j + 1) = (4 * q + 1) * 2 ^ k) :
    ∃ N : ℕ, 2 * x.size = (2 * (10 * N + 2 : ℕ) + 1) * 10 ^ (-(j : ℤ)) := by
  obtain ⟨N, hN⟩ := exists_quarter (q := q) hj
  refine ⟨N, (midway_iff_whole hk).mpr ?_⟩
  calc 2 * x.significand * 10 ^ j = x.significand * 2 ^ (j + 1) * 5 ^ j := by
        rw [show 10 = 2 * 5 from rfl, Nat.mul_pow, Nat.pow_succ]
        ring
    _ = (4 * q + 1) * 5 ^ j * 2 ^ k := by rw [hodd]; ring
    _ = (2 * (10 * N + 2) + 1) * 2 ^ k := by rw [hN]; ring

theorem zpow_one_sub_natCast (j : ℕ) : (10 : ℚ) ^ (1 - (j : ℤ)) = 10 * 10 ^ (-(j : ℤ)) := by
  rw [sub_eq_add_neg, zpow_add₀ (by norm_num), zpow_one]

theorem digits_lower_of_quarter {j N : ℕ}
    (h : 2 * x.size = (2 * (10 * N + 2 : ℕ) + 1) * 10 ^ (-(j : ℤ))) :
    (x.roundingInterval.lower (1 - j)).digits = N := by
  have hunit : (0 : ℚ) < 10 ^ (-(j : ℤ)) := by positivity
  push_cast at h
  apply RoundingInterval.digits_lower
  · rw [quarters_value, zpow_one_sub_natCast]
    linarith
  · rw [quarters_value, zpow_one_sub_natCast]
    linarith

/-- With `j` places as coarse as a fifth of the spacing, a numeral with fewer would do. -/
theorem holds_lower_of_quarter {j k q N : ℕ} (hk : x.spacing * 2 ^ k = 1)
    (hodd : x.significand * 2 ^ (j + 1) = (4 * q + 1) * 2 ^ k) (hten : 2 ^ k ≤ 10 ^ j)
    (hsize : (10 : ℚ) ^ (-5 : ℤ) ≤ x.size)
    (h : 2 * x.size = (2 * (10 * N + 2 : ℕ) + 1) * 10 ^ (-(j : ℤ)))
    (hgap : 5 * (10 : ℚ) ^ (-(j : ℤ)) < x.spacing) :
    x.roundingInterval.holds (x.roundingInterval.lower (1 - j)) = true := by
  have hunit : (0 : ℚ) < 10 ^ (-(j : ℤ)) := by positivity
  have hpos := significand_pos_of_size (lt_of_lt_of_le (by positivity) hsize)
  refine holds_of_abs_lt hpos (significand_ne_of_odd hk hodd hten hsize) ?_
  have hvalue : (x.roundingInterval.lower (1 - j)).toRat = N * (10 * 10 ^ (-(j : ℤ))) := by
    rw [← zpow_one_sub_natCast, ← digits_lower_of_quarter h]
    rfl
  push_cast at h
  rw [hvalue, abs_lt]
  exact ⟨by linarith, by linarith⟩

/-- No numeral with fewer places lies in the interval of a number that is far from all of them. -/
theorem not_holds_of_quarter {j N : ℕ} (hx : 0 < x.significand)
    (h : 2 * x.size = (2 * (10 * N + 2 : ℕ) + 1) * 10 ^ (-(j : ℤ)))
    (hgap : x.spacing < 5 * 10 ^ (-(j : ℤ))) (hn : 1 - (j : ℤ) ≤ n.exponent) :
    ¬ x.roundingInterval.holds n = true := by
  intro hholds
  have hunit : (0 : ℚ) < 10 ^ (-(j : ℤ)) := by positivity
  obtain ⟨d, hd⟩ := Int.eq_ofNat_of_zero_le (sub_nonneg.mpr hn)
  have hexponent : n.exponent = (d : ℤ) + (1 - j) := by omega
  have hvalue : n.toRat = (n.digits * 10 ^ d : ℕ) * (10 * 10 ^ (-(j : ℤ))) := by
    unfold Numeral.toRat
    rw [hexponent, zpow_add₀ (by norm_num), zpow_one_sub_natCast, zpow_natCast]
    push_cast
    ring
  have hnear := abs_le.mp (abs_sub_size_le hx hholds)
  rw [hvalue] at hnear
  generalize n.digits * 10 ^ d = M at hnear
  push_cast at h
  rcases Nat.lt_or_ge N M with hlt | hge
  · have hlt : (N : ℚ) + 1 ≤ M := by exact_mod_cast hlt
    nlinarith
  · have hge : (M : ℚ) ≤ N := by exact_mod_cast hge
    nlinarith

/-- Midway between two numerals that are nearer to each other than the numbers there is a tie. -/
theorem ties_of_midway {j L : ℕ} (hx : 0 < x.significand) (hne : x.significand ≠ 2 ^ 52)
    (h : 2 * x.size = (2 * L + 1) * 10 ^ (-(j : ℤ))) (heven : L % 2 = 0)
    (hgap : (10 : ℚ) ^ (-(j : ℤ)) < x.spacing) : x.roundingInterval.Ties (-j) := by
  have hunit : (0 : ℚ) < 10 ^ (-(j : ℤ)) := by positivity
  have hlower : (x.roundingInterval.lower (-j)).digits = L := by
    apply RoundingInterval.digits_lower <;> rw [quarters_value] <;> linarith
  have hlowerValue : (x.roundingInterval.lower (-j)).toRat = L * 10 ^ (-(j : ℤ)) := by
    rw [← hlower]
    rfl
  have hupperValue : (x.roundingInterval.upper (-j)).toRat = (L + 1 : ℕ) * 10 ^ (-(j : ℤ)) := by
    rw [← hlower]
    rfl
  push_cast at hupperValue
  constructor
  · refine holds_of_abs_lt hx hne ?_
    rw [hlowerValue, abs_lt]
    exact ⟨by linarith, by linarith⟩
  · refine holds_of_abs_lt hx hne ?_
    rw [hupperValue, abs_lt]
    exact ⟨by linarith, by linarith⟩
  · rwa [quarters_value, hlower]
  · rwa [hlower]

theorem RoundingInterval.Ties.zpow_le_spacing (hx : 0 < x.significand)
    (h : x.roundingInterval.Ties e) : (10 : ℚ) ^ e ≤ x.spacing := by
  have hupper := (abs_le.mp (abs_sub_size_le hx h.holds_upper)).2
  have hvalue : (x.roundingInterval.upper e).toRat =
      ((x.roundingInterval.lower e).digits + 1 : ℕ) * 10 ^ e := rfl
  have hmidway := h.midway
  rw [quarters_value] at hmidway
  rw [hvalue] at hupper
  push_cast at hupper
  linarith

/-! ### Ties on the first grid -/

/-- The grid before the first one has no numeral, also where it would be coarser than the number. -/
theorem IsFirstGrid.not_holds_lower {i : ℕ} (hi : x.IsFirstGrid i)
    (hnormal : 2 ^ 52 ≤ x.significand) (hfine : (10 : ℚ) ^ (Int.log 10 x.size - i) ≤ x.spacing) :
    ¬ x.roundingInterval.holds (x.roundingInterval.lower (Int.log 10 x.size - i + 1)) = true := by
  intro hholds
  cases i with
  | zero =>
    -- The number would be less than ten times its spacing.
    have hlt := (log_size_bounds (lt_of_lt_of_le (by decide) hnormal)).2
    have hnormal : (2 : ℚ) ^ 52 * x.spacing ≤ x.size := by
      rw [size_eq]
      exact mul_le_mul_of_nonneg_right (by exact_mod_cast hnormal) x.spacing_pos.le
    have hpos := x.spacing_pos
    rw [Nat.cast_zero, sub_zero] at hfine
    rw [zpow_add_one₀ (by norm_num)] at hlt
    linarith
  | succ i =>
    have hgrid : Int.log 10 x.size - (i + 1 : ℕ) + 1 = Int.log 10 x.size - (i : ℤ) := by
      push_cast
      ring
    rw [hgrid] at hholds
    exact RoundingInterval.onGrid?_ne_none (Or.inl hholds)
      (hi.before i (Nat.lt_succ_self i) .upward)

theorem tiesDown_of_ties {i : ℕ} (hx : x.HasFraction) (hsize : (10 : ℚ) ^ (-5 : ℤ) ≤ x.size)
    (hi : x.IsFirstGrid i) (h : x.roundingInterval.Ties (Int.log 10 x.size - i)) :
    x.TiesDown := by
  have hpos := significand_pos hx.not_isZero
  obtain ⟨k, hk0, hk⟩ := hx.exists_spacing_mul
  have hexponent : Int.log 10 x.size - i < 0 :=
    hx.exponent_neg (abs_sub_size_le hpos h.holds_lower)
  have hfine := h.zpow_le_spacing hpos
  have hcoarser := hi.not_holds_lower (normal_of_size hsize) hfine
  obtain ⟨j, hj⟩ : ∃ j : ℕ, Int.log 10 x.size - i = -(j : ℤ) :=
    ⟨(i - Int.log 10 x.size).toNat, by omega⟩
  rw [hj] at h hfine
  rw [hj, neg_add_eq_sub] at hcoarser
  have hmidway := h.midway
  rw [quarters_value] at hmidway
  have hwhole := (midway_iff_whole hk).mp hmidway
  have hten : 1 * 2 ^ k ≤ 10 ^ j := by
    rwa [← places_le_spacing_iff hk, Nat.cast_one, one_mul]
  rw [one_mul] at hten
  obtain ⟨q, hodd⟩ := exists_odd_of_midway hwhole h.even
  obtain ⟨N, hN⟩ := exists_quarter_of_odd hk (by omega) hodd
  refine (tiesDown_iff hk).mpr ⟨j, q, hodd, hten, ?_⟩
  -- Otherwise the quarter is less than half the spacing, and the grid before has a numeral.
  by_contra hgap
  have hgap : 5 * 2 ^ k < 10 ^ j :=
    lt_of_le_of_ne (not_lt.mp hgap) (ten_pow_ne_mul_two_pow hwhole 5).symm
  have hgap : 5 * (10 : ℚ) ^ (-(j : ℤ)) < x.spacing :=
    not_le.mp ((spacing_le_places_iff hk 5).not.mpr (not_le.mpr hgap))
  exact hcoarser (holds_lower_of_quarter hk hodd hten hsize hN hgap)

/-- If no numeral with fewer places lies in the interval, the grid of `j` places is the first
one. -/
theorem exists_isFirstGrid_of_quarter {j N : ℕ} (hx : 0 < x.significand)
    (h : 2 * x.size = (2 * (10 * N + 2 : ℕ) + 1) * 10 ^ (-(j : ℤ)))
    (hfine : (10 : ℚ) ^ (-(j : ℤ)) < x.spacing) (hcoarse : x.spacing < 5 * 10 ^ (-(j : ℤ)))
    (hholds : x.roundingInterval.holds (x.roundingInterval.lower (-j)) = true) :
    ∃ i : ℕ, x.IsFirstGrid i ∧ Int.log 10 x.size - i = -(j : ℤ) := by
  have hunit : (0 : ℚ) < 10 ^ (-(j : ℤ)) := by positivity
  have hsize := x.size_eq
  have hone : (1 : ℚ) ≤ x.significand := by exact_mod_cast hx
  have hsignificand : (x.significand : ℚ) < 2 ^ 53 := by exact_mod_cast x.significand_lt
  have hlow : -(j : ℤ) ≤ Int.log 10 x.size := by
    refine (Int.zpow_le_iff_le_log (b := 10) (by norm_num) (size_pos hx)).mp ?_
    push_cast
    nlinarith
  have hhigh : Int.log 10 x.size < 17 - j := by
    refine (Int.lt_zpow_iff_log_lt (b := 10) (by norm_num) (size_pos hx)).mp ?_
    push_cast
    rw [sub_eq_add_neg, zpow_add₀ (by norm_num), hsize]
    have hseventeen : (2 : ℚ) ^ 53 * 5 ≤ 10 ^ (17 : ℤ) := by norm_num
    nlinarith [x.spacing_pos]
  obtain ⟨i, hi⟩ := Int.eq_ofNat_of_zero_le (show 0 ≤ Int.log 10 x.size + j by omega)
  have hgrid : Int.log 10 x.size - (i : ℤ) = -(j : ℤ) := by omega
  refine ⟨i, ⟨by omega, fun m hm tie => ?_, fun tie => ?_⟩, hgrid⟩
  · have hexponent : 1 - (j : ℤ) ≤ Int.log 10 x.size - m := by omega
    exact RoundingInterval.onGrid?_eq_none_iff.mpr
      ⟨not_holds_of_quarter hx h hcoarse hexponent, not_holds_of_quarter hx h hcoarse hexponent⟩
  · rw [hgrid]
    exact RoundingInterval.onGrid?_ne_none (Or.inl hholds)

theorem ties_of_tiesDown (hx : x.HasFraction) (hsize : (10 : ℚ) ^ (-5 : ℤ) ≤ x.size)
    (h : x.TiesDown) :
    ∃ i, x.IsFirstGrid i ∧ x.roundingInterval.Ties (Int.log 10 x.size - i) := by
  have hpos := significand_pos hx.not_isZero
  obtain ⟨k, hk0, hk⟩ := hx.exists_spacing_mul
  obtain ⟨j, q, hodd, hten, hfive⟩ := (tiesDown_iff hk).mp h
  -- The number has a fraction, so its spacing is less than one.
  have hj : 0 < j := by
    refine Nat.pos_of_ne_zero fun hj => ?_
    rw [hj, Nat.pow_zero] at hten
    exact absurd hten (not_le.mpr (Nat.one_lt_two_pow hk0.ne'))
  obtain ⟨N, hN⟩ := exists_quarter_of_odd hk hj hodd
  have hfine : (10 : ℚ) ^ (-(j : ℤ)) < x.spacing := by
    have hne := ten_pow_ne_mul_two_pow ((midway_iff_whole hk).mp hN) 1
    have hlt : ¬ 10 ^ j ≤ 1 * 2 ^ k := by omega
    rwa [← spacing_le_places_iff hk, Nat.cast_one, one_mul, not_le] at hlt
  have hcoarse : x.spacing < 5 * 10 ^ (-(j : ℤ)) :=
    not_le.mp ((places_le_spacing_iff hk 5).not.mpr (not_le.mpr hfive))
  have hties := ties_of_midway hpos (significand_ne_of_odd hk hodd hten hsize) hN (by omega) hfine
  obtain ⟨i, hi, hgrid⟩ :=
    exists_isFirstGrid_of_quarter hpos hN hfine hcoarse hties.holds_lower
  exact ⟨i, hi, hgrid ▸ hties⟩

/-- Equally near numerals make a difference for the numbers that lie midway between two. -/
theorem shortest_toEven_eq_upward_iff (hx : x.HasFraction)
    (hsize : (10 : ℚ) ^ (-5 : ℤ) ≤ x.size) :
    x.shortest .toEven = x.shortest .upward ↔ ¬ x.TiesDown := by
  constructor
  · intro hsame hties
    obtain ⟨i, hi, hgrid⟩ := ties_of_tiesDown hx hsize hties
    exact (hi.shortest_eq_iff hx.isFinite hx.not_isZero).mp hsame hgrid
  · intro hties
    obtain ⟨i, hi⟩ := exists_isFirstGrid hx.not_isZero
    exact (hi.shortest_eq_iff hx.isFinite hx.not_isZero).mpr fun hgrid =>
      hties (tiesDown_of_ties hx hsize hi hgrid)

/-- The two numerals of 1125899906842624.25 are a tenth apart. -/
example :
    let x : Binary64 := ⟨false, 1073 * Number.twoPow 52 + 1, by decide⟩
    (x.shortest .toEven).digits = 11258999068426242 ∧
      (x.shortest .upward).digits = 11258999068426243 := by decide +kernel

end TableDiff.Binary64
