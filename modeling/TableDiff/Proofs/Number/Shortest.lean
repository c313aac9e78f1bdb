import TableDiff.Number.Binary64.Shortest
import TableDiff.Proofs.Number.Fitting

/-!
# Shortest numerals

The shortest numeral of a binary number lies among the values that round to the number. There is
one with at most seventeen digits, since the grid of that many digits is finer than the numbers
themselves. It does not fall below a power of ten that the number reaches.
-/

namespace TableDiff

theorem Number.cast_twoPow (n : Nat) : (twoPow n : ℚ) = 2 ^ n := Nat.cast_pow 2 n

theorem Number.twoPow_dvd_twoPow {m n : Nat} (h : m ≤ n) : twoPow m ∣ twoPow n :=
  Nat.pow_dvd_pow 2 h

namespace Binary64

variable {x : Binary64} {r : RoundingInterval} {tie : Tie} {n : Numeral}

/-! ## Powers of two and ten -/

theorem logb_two_bounds : (31 / 103 : ℝ) < Real.logb 10 2 ∧ Real.logb 10 2 < 28 / 93 := by
  have hpow (n : ℕ) : Real.logb 10 (2 ^ n) = n * Real.logb 10 2 := Real.logb_pow ..
  have hten (n : ℕ) : Real.logb 10 (10 ^ n) = n := by
    rw [Real.logb_pow, Real.logb_self_eq_one (by norm_num), mul_one]
  constructor
  · have hlt : Real.logb 10 (10 ^ 31) < Real.logb 10 (2 ^ 103) :=
      Real.logb_lt_logb (by norm_num) (by norm_num) (by norm_num)
    rw [hpow, hten] at hlt
    push_cast at hlt
    linarith
  · have hlt : Real.logb 10 (2 ^ 93) < Real.logb 10 (10 ^ 28) :=
      Real.logb_lt_logb (by norm_num) (by norm_num) (by norm_num)
    rw [hpow, hten] at hlt
    push_cast at hlt
    linarith

theorem zpow_le_zpow_iff_logb {m z : ℤ} :
    ((10 : ℚ) ^ m ≤ 2 ^ z ↔ (m : ℝ) ≤ z * Real.logb 10 2) ∧
      ((2 : ℚ) ^ z ≤ 10 ^ m ↔ z * Real.logb 10 2 ≤ (m : ℝ)) := by
  have htwo : (2 : ℝ) ^ z = (10 : ℝ) ^ (z * Real.logb 10 2) := by
    rw [mul_comm, Real.rpow_mul_intCast (by norm_num),
      Real.rpow_logb (by norm_num) (by norm_num) (by norm_num)]
  have hten : (10 : ℝ) ^ m = (10 : ℝ) ^ (m : ℝ) := (Real.rpow_intCast ..).symm
  constructor
  · rw [← Real.rpow_le_rpow_left_iff (x := 10) (by norm_num), ← htwo, ← hten,
      ← Rat.cast_le (K := ℝ)]
    push_cast
    rfl
  · rw [← Real.rpow_le_rpow_left_iff (x := 10) (by norm_num), ← htwo, ← hten,
      ← Rat.cast_le (K := ℝ)]
    push_cast
    rfl

/-- The power of ten that is estimated from a power of two is off by less than two places. -/
theorem estimate_bounds {z : ℤ} (hlow : -1076 ≤ z) (hhigh : z ≤ 1076) :
    (10 : ℚ) ^ ((z * 30103).fdiv 100000 - 1) ≤ 2 ^ z ∧
      (2 : ℚ) ^ (z + 1) ≤ 10 ^ ((z * 30103).fdiv 100000 + 2) := by
  obtain ⟨hl, hu⟩ := logb_two_bounds
  generalize he : (z * 30103).fdiv 100000 = e
  rw [Int.fdiv_eq_ediv_of_nonneg _ (by norm_num)] at he
  have hfloor : 100000 * e ≤ z * 30103 ∧ z * 30103 < 100000 * e + 100000 := by omega
  have hle : (100000 : ℝ) * e ≤ z * 30103 := by exact_mod_cast hfloor.1
  have hlt : (z : ℝ) * 30103 < 100000 * e + 100000 := by exact_mod_cast hfloor.2
  have hlow : (-1076 : ℝ) ≤ z := by exact_mod_cast hlow
  have hhigh : (z : ℝ) ≤ 1076 := by exact_mod_cast hhigh
  rw [zpow_le_zpow_iff_logb.1, zpow_le_zpow_iff_logb.2]
  push_cast
  -- The logarithm is known well enough that its error does not add up to a place.
  constructor <;> nlinarith

/-! ## Values -/

/-- The value of a numeral. -/
def Numeral.toRat (n : Numeral) : ℚ := n.digits * 10 ^ n.exponent

/-- The value of a number of quarter units. -/
def quarters (count : Nat) : ℚ := count / quartersPerOne

/-- The magnitude of a finite number. -/
def size (x : Binary64) : ℚ := x.units / unitsPerOne

theorem cast_quartersPerOne : (quartersPerOne : ℚ) = 2 ^ (1076 : ℤ) := by
  unfold quartersPerOne unitsPerOne
  have hsplit : (2 : ℚ) ^ (1076 : ℤ) = 2 ^ (2 : ℤ) * 2 ^ (1074 : ℤ) :=
    zpow_add₀ (by norm_num) 2 1074
  rw [Nat.cast_mul, Number.cast_twoPow, hsplit, zpow_ofNat, zpow_ofNat]
  norm_num

theorem quartersPerOne_pos : (0 : ℚ) < quartersPerOne := by
  rw [cast_quartersPerOne]
  positivity

theorem powerOfTen_snd_pos (e : Int) : 0 < (powerOfTen e).2 := Number.tenPow_pos _

theorem powerOfTen_div (e : Int) : ((powerOfTen e).1 : ℚ) / (powerOfTen e).2 = 10 ^ e := by
  show (Number.tenPow e.toNat : ℚ) / Number.tenPow (-e).toNat = 10 ^ e
  rw [Number.cast_tenPow, Number.cast_tenPow]
  rcases le_total 0 e with he | he
  · obtain ⟨m, rfl⟩ := Int.eq_ofNat_of_zero_le he
    simp
  · obtain ⟨m, hm⟩ := Int.eq_ofNat_of_zero_le (Int.neg_nonneg_of_nonpos he)
    obtain rfl : e = -(m : ℤ) := by omega
    simp

/-- Numerals and numbers of quarter units are compared in whole numbers. -/
theorem le_quarters_iff (a b : Nat) (e : Int) :
    (a * ((powerOfTen e).1 * quartersPerOne) ≤ b * (powerOfTen e).2 ↔ a * 10 ^ e ≤ quarters b) ∧
      (b * (powerOfTen e).2 ≤ a * ((powerOfTen e).1 * quartersPerOne) ↔
        quarters b ≤ a * 10 ^ e) := by
  have hsnd : (0 : ℚ) < (powerOfTen e).2 := Nat.cast_pos.mpr (powerOfTen_snd_pos e)
  have hone := quartersPerOne_pos
  unfold quarters
  rw [← powerOfTen_div]
  generalize quartersPerOne = one at hone ⊢
  generalize powerOfTen e = p at hsnd ⊢
  rw [← mul_div_assoc, div_le_div_iff₀ hsnd hone, div_le_div_iff₀ hone hsnd]
  constructor <;> rw [← Nat.cast_le (α := ℚ)] <;> push_cast <;> rw [mul_assoc]

/-! ## The leading power of ten -/

theorem reaches_iff (value : Nat) (k : Int) :
    (powerOfTen k).1 * quartersPerOne ≤ value * (powerOfTen k).2 ↔
      (10 : ℚ) ^ k ≤ quarters value := by
  have h := (le_quarters_iff 1 value k).1
  rwa [Nat.one_mul, Nat.cast_one, one_mul] at h

/-- The estimate from the logarithm to base two is corrected to the logarithm to base ten. -/
theorem leadingExponent_eq_log {value : Nat} (hpos : value ≠ 0) (hlog : value.log2 ≤ 2152) :
    leadingExponent value = Int.log 10 (quarters value) := by
  have hone : (0 : ℚ) < 2 ^ (1076 : ℤ) := by positivity
  have hlow : (2 : ℚ) ^ ((value.log2 : ℤ) - 1076) ≤ quarters value := by
    unfold quarters
    rw [cast_quartersPerOne, le_div_iff₀ hone, ← zpow_add₀ (by norm_num), sub_add_cancel,
      zpow_natCast]
    exact_mod_cast Nat.log2_self_le hpos
  have hhigh : quarters value < (2 : ℚ) ^ ((value.log2 : ℤ) - 1076 + 1) := by
    unfold quarters
    rw [cast_quartersPerOne, div_lt_iff₀ hone, ← zpow_add₀ (by norm_num), add_right_comm,
      sub_add_cancel, ← Nat.cast_succ, zpow_natCast]
    exact_mod_cast Nat.lt_log2_self
  obtain ⟨hbelow, habove⟩ := estimate_bounds (z := (value.log2 : ℤ) - 1076) (by omega) (by omega)
  have hlog : ∀ k : ℤ, (10 : ℚ) ^ k ≤ quarters value → quarters value < (10 : ℚ) ^ (k + 1) →
      k = Int.log 10 (quarters value) := by
    intro k hk hk'
    have hvalue : 0 < quarters value := lt_of_lt_of_le (by positivity) hlow
    have hle := (Int.zpow_le_iff_le_log (b := 10) (by norm_num) hvalue).mp (by exact_mod_cast hk)
    have hlt := (Int.lt_zpow_iff_log_lt (b := 10) (by norm_num) hvalue).mp (by exact_mod_cast hk')
    omega
  unfold leadingExponent
  extract_lets estimate reaches
  have hreaches : ∀ k, reaches k = true ↔ (10 : ℚ) ^ k ≤ quarters value := fun k =>
    decide_eq_true_iff.trans (reaches_iff value k)
  split
  · rename_i hnext
    refine hlog _ ((hreaches _).mp hnext) (hhigh.trans_le ?_)
    have hplaces : estimate + 1 + 1 = estimate + 2 := add_assoc ..
    rw [hplaces]
    exact habove
  · rename_i hnext
    rw [hreaches, not_le] at hnext
    split
    · rename_i hhere
      exact hlog _ ((hreaches _).mp hhere) hnext
    · rename_i hhere
      rw [hreaches, not_le] at hhere
      refine hlog _ (hbelow.trans hlow) ?_
      rwa [sub_add_cancel]

/-! ## Candidates -/

theorem RoundingInterval.holds_iff :
    r.holds n = true ↔
      if r.closed then quarters r.low ≤ n.toRat ∧ n.toRat ≤ quarters r.high
      else quarters r.low < n.toRat ∧ n.toRat < quarters r.high := by
  obtain ⟨hlow, hlow'⟩ := le_quarters_iff n.digits r.low n.exponent
  obtain ⟨hhigh, hhigh'⟩ := le_quarters_iff n.digits r.high n.exponent
  have hplace : n.digits * (powerOfTen n.exponent).1 * quartersPerOne =
      n.digits * ((powerOfTen n.exponent).1 * quartersPerOne) := Nat.mul_assoc ..
  show (if r.closed then
      r.low * (powerOfTen n.exponent).2 ≤ n.digits * (powerOfTen n.exponent).1 * quartersPerOne &&
        n.digits * (powerOfTen n.exponent).1 * quartersPerOne ≤ r.high * (powerOfTen n.exponent).2
    else
      r.low * (powerOfTen n.exponent).2 < n.digits * (powerOfTen n.exponent).1 * quartersPerOne &&
        n.digits * (powerOfTen n.exponent).1 * quartersPerOne <
          r.high * (powerOfTen n.exponent).2) = true ↔ _
  rw [hplace]
  unfold Numeral.toRat
  split
  · rw [Bool.and_eq_true, decide_eq_true_iff, decide_eq_true_iff, hlow', hhigh]
  · rw [Bool.and_eq_true, decide_eq_true_iff, decide_eq_true_iff, ← not_le, ← not_le, hlow, hhigh',
      not_le, not_le]

/-- The numeral on a grid that is next below the value. -/
def RoundingInterval.lower (r : RoundingInterval) (e : Int) : Numeral :=
  ⟨r.value * (powerOfTen e).2 / ((powerOfTen e).1 * quartersPerOne), e⟩

/-- The numeral on a grid that is next above the value. -/
def RoundingInterval.upper (r : RoundingInterval) (e : Int) : Numeral :=
  ⟨(r.lower e).digits + 1, e⟩

theorem RoundingInterval.lower_le_lt_upper (r : RoundingInterval) (e : Int) :
    (r.lower e).toRat ≤ quarters r.value ∧ quarters r.value < (r.upper e).toRat := by
  have hunit : 0 < (powerOfTen e).1 * quartersPerOne :=
    Nat.mul_pos (Number.tenPow_pos _) (by exact_mod_cast quartersPerOne_pos)
  have hle := (le_quarters_iff (r.lower e).digits r.value e).1
  have hlt := (le_quarters_iff (r.upper e).digits r.value e).1.not
  rw [Nat.not_le, not_le] at hlt
  exact ⟨hle.mp (Nat.div_mul_le_self _ _), hlt.mp (Nat.lt_mul_of_div_lt (Nat.lt_succ_self _) hunit)⟩

/-- The one of the two that is taken if both lie in the interval. -/
def RoundingInterval.nearer (r : RoundingInterval) (tie : Tie) (e : Int) : Numeral :=
  let unit := (powerOfTen e).1 * quartersPerOne
  let twice := 2 * (r.value * (powerOfTen e).2 % unit)
  if twice < unit ∨ twice = unit ∧ tie = .toEven ∧ (r.lower e).digits % 2 = 0 then r.lower e
  else r.upper e

theorem RoundingInterval.onGrid?_eq (r : RoundingInterval) (tie : Tie) (e : Int) :
    r.onGrid? tie e =
      if r.holds (r.lower e) then
        if r.holds (r.upper e) then some (r.nearer tie e) else some (r.lower e)
      else if r.holds (r.upper e) then some (r.upper e) else none := by
  unfold onGrid?
  dsimp only
  split
  · rename_i hl hu
    have hl : r.holds (r.lower e) = true := hl
    have hu : r.holds (r.upper e) = true := hu
    rw [hl, hu]
    rfl
  · rename_i hl hu
    have hl : r.holds (r.lower e) = true := hl
    have hu : r.holds (r.upper e) = false := hu
    rw [hl, hu]
    rfl
  · rename_i hl hu
    have hl : r.holds (r.lower e) = false := hl
    have hu : r.holds (r.upper e) = true := hu
    rw [hl, hu]
    rfl
  · rename_i hl hu
    have hl : r.holds (r.lower e) = false := hl
    have hu : r.holds (r.upper e) = false := hu
    rw [hl, hu]
    rfl

/-- A numeral that is found on a grid is one of the two, and lies in the interval. -/
theorem RoundingInterval.of_onGrid? {e : Int} (h : r.onGrid? tie e = some n) :
    r.holds n = true ∧ (n = r.lower e ∨ n = r.upper e) := by
  have hnearer : r.nearer tie e = r.lower e ∨ r.nearer tie e = r.upper e := by
    unfold nearer
    extract_lets
    split
    · exact Or.inl rfl
    · exact Or.inr rfl
  rw [onGrid?_eq] at h
  by_cases hl : r.holds (r.lower e) = true <;> by_cases hu : r.holds (r.upper e) = true
  · rw [if_pos hl, if_pos hu] at h
    obtain rfl := Option.some.inj h
    refine ⟨?_, hnearer⟩
    rcases hnearer with heq | heq
    · exact (congrArg r.holds heq).trans hl
    · exact (congrArg r.holds heq).trans hu
  · rw [if_pos hl, if_neg hu] at h
    obtain rfl := Option.some.inj h
    exact ⟨hl, Or.inl rfl⟩
  · rw [if_neg hl, if_pos hu] at h
    obtain rfl := Option.some.inj h
    exact ⟨hu, Or.inr rfl⟩
  · rw [if_neg hl, if_neg hu] at h
    cases h

/-- There is a numeral on a grid if one of the two lies in the interval. -/
theorem RoundingInterval.onGrid?_ne_none {e : Int}
    (h : r.holds (r.lower e) = true ∨ r.holds (r.upper e) = true) : r.onGrid? tie e ≠ none := by
  rw [onGrid?_eq]
  rcases h with h | h
  · rw [if_pos h]
    split <;> exact Option.some_ne_none _
  · rw [if_pos h]
    split <;> exact Option.some_ne_none _

theorem RoundingInterval.le_low_of_not_holds (h : ¬ r.holds n = true)
    (hhigh : n.toRat < quarters r.high) : n.toRat ≤ quarters r.low := by
  rw [holds_iff] at h
  by_contra hlow
  rw [not_le] at hlow
  split at h
  · exact h ⟨hlow.le, hhigh.le⟩
  · exact h ⟨hlow, hhigh⟩

theorem RoundingInterval.high_le_of_not_holds (h : ¬ r.holds n = true)
    (hlow : quarters r.low < n.toRat) : quarters r.high ≤ n.toRat := by
  rw [holds_iff] at h
  by_contra hhigh
  rw [not_le] at hhigh
  split at h
  · exact h ⟨hlow.le, hhigh.le⟩
  · exact h ⟨hlow, hhigh⟩

/-! ## The interval of a number -/

/-- The distance of a finite number to the next one. -/
def spacing (x : Binary64) : ℚ := Number.twoPow x.shift / unitsPerOne

theorem unitsPerOne_pos : (0 : ℚ) < unitsPerOne := by
  unfold unitsPerOne
  rw [Number.cast_twoPow]
  positivity

theorem spacing_pos (x : Binary64) : 0 < x.spacing := by
  unfold spacing
  rw [Number.cast_twoPow]
  exact div_pos (by positivity) unitsPerOne_pos

theorem size_eq (x : Binary64) : x.size = x.significand * x.spacing := by
  unfold size spacing units
  rw [Nat.cast_mul, mul_div_assoc]

theorem twoPow_52 : Number.twoPow 52 = 4503599627370496 := by decide

theorem significand_lt (x : Binary64) : x.significand < 2 ^ 53 := by
  unfold significand
  rw [twoPow_52]
  split <;> omega

theorem significand_pos (h : ¬ x.isZero = true) : 0 < x.significand := by
  have hne : x.magnitude ≠ 0 := fun hzero => h (beq_iff_eq.mpr hzero)
  unfold significand
  rw [twoPow_52]
  split <;> omega

theorem significand_of_isZero (h : x.isZero = true) : x.significand = 0 := by
  have hmagnitude : x.magnitude = 0 := beq_iff_eq.mp h
  unfold significand
  rw [hmagnitude, twoPow_52]
  rfl

theorem shift_le (h : x.isFinite = true) : x.shift ≤ 2045 := by
  have hlt : x.magnitude < infinityField := of_decide_eq_true h
  unfold infinityField at hlt
  unfold shift
  rw [twoPow_52] at hlt ⊢
  omega

theorem quarters_eq (count : Nat) : quarters count = count / (4 * unitsPerOne) := by
  unfold quarters quartersPerOne
  push_cast
  rfl

theorem quarters_value (x : Binary64) : quarters x.roundingInterval.value = x.size := by
  show quarters (4 * x.units) = x.size
  rw [quarters_eq]
  push_cast
  exact mul_div_mul_left _ _ (by norm_num)

theorem quarters_high (x : Binary64) :
    quarters x.roundingInterval.high = x.size + x.spacing / 2 := by
  show quarters (4 * x.units + 2 * Number.twoPow x.shift) = x.size + x.spacing / 2
  have hone := unitsPerOne_pos
  rw [quarters_eq]
  unfold size spacing
  generalize unitsPerOne = one at hone ⊢
  push_cast
  field_simp
  ring

/-- The interval reaches down half the distance to the next number, or a quarter below a power of
two. -/
theorem quarters_low (hx : 0 < x.significand) :
    quarters x.roundingInterval.low = x.size - x.spacing / 2 ∨
      x.significand = 2 ^ 52 ∧ quarters x.roundingInterval.low = x.size - x.spacing / 4 := by
  have hone := unitsPerOne_pos
  have hunits : Number.twoPow x.shift ≤ x.units := Nat.le_mul_of_pos_left _ hx
  by_cases htwo : x.significand = Number.twoPow 52 ∧ x.shift > 0
  · have hlow : x.roundingInterval.low = 4 * x.units - Number.twoPow x.shift :=
      congrArg (4 * x.units - ·) (if_pos htwo)
    refine Or.inr ⟨htwo.1, ?_⟩
    rw [hlow, quarters_eq, Nat.cast_sub (by omega)]
    unfold size spacing
    generalize unitsPerOne = one at hone ⊢
    push_cast
    field_simp
  · have hlow : x.roundingInterval.low = 4 * x.units - 2 * Number.twoPow x.shift :=
      congrArg (4 * x.units - ·) (if_neg htwo)
    refine Or.inl ?_
    rw [hlow, quarters_eq, Nat.cast_sub (by omega)]
    unfold size spacing
    generalize unitsPerOne = one at hone ⊢
    push_cast
    field_simp
    ring

/-- What lies in the interval is off by at most half the distance to the next number. -/
theorem abs_sub_size_le (hx : 0 < x.significand) (h : x.roundingInterval.holds n = true) :
    |n.toRat - x.size| ≤ x.spacing / 2 := by
  have hbounds : quarters x.roundingInterval.low ≤ n.toRat ∧
      n.toRat ≤ quarters x.roundingInterval.high := by
    have hholds := RoundingInterval.holds_iff.mp h
    split at hholds
    · exact hholds
    · exact ⟨hholds.1.le, hholds.2.le⟩
  have hpos := x.spacing_pos
  rw [quarters_high] at hbounds
  rw [abs_le]
  rcases quarters_low hx with hlow | ⟨-, hlow⟩ <;> rw [hlow] at hbounds <;>
    exact ⟨by linarith, by linarith⟩

/-- The grid of seventeen digits is finer than the numbers, so it has a numeral in the interval. -/
theorem exists_numeral_on_finest_grid (hx : 0 < x.significand) {k : ℤ}
    (hk : (10 : ℚ) ^ k ≤ x.size) :
    x.roundingInterval.holds (x.roundingInterval.lower (k - 16)) = true ∨
      x.roundingInterval.holds (x.roundingInterval.upper (k - 16)) = true := by
  by_contra hnone
  rw [not_or] at hnone
  obtain ⟨hlower, hupper⟩ := x.roundingInterval.lower_le_lt_upper (k - 16)
  rw [quarters_value] at hlower hupper
  have hpos := x.spacing_pos
  have hbelow := RoundingInterval.le_low_of_not_holds hnone.1
    (by rw [quarters_high]; linarith)
  have habove := RoundingInterval.high_le_of_not_holds hnone.2 (by
    rcases quarters_low hx with hlow | ⟨-, hlow⟩ <;> rw [hlow] <;> linarith)
  have hgap : (x.roundingInterval.upper (k - 16)).toRat =
      (x.roundingInterval.lower (k - 16)).toRat + 10 ^ (k - 16) := by
    show ((((x.roundingInterval.lower (k - 16)).digits + 1 : ℕ)) : ℚ) * 10 ^ (k - 16) =
      (x.roundingInterval.lower (k - 16)).digits * 10 ^ (k - 16) + 10 ^ (k - 16)
    push_cast
    ring
  have hgrid : (10 : ℚ) ^ (k - 16) * 10 ^ 16 ≤ x.significand * x.spacing := by
    have hsplit : (10 : ℚ) ^ (k - 16) * 10 ^ 16 = 10 ^ k := by
      rw [← zpow_natCast, ← zpow_add₀ (by norm_num)]
      simp
    rw [hsplit, ← size_eq]
    exact hk
  have hsignificand : (x.significand : ℚ) < 2 ^ 53 := by exact_mod_cast x.significand_lt
  rw [quarters_high, hgap] at habove
  rcases quarters_low hx with hlow | ⟨htwo, hlow⟩
  · rw [hlow] at hbelow
    nlinarith
  · rw [hlow] at hbelow
    have htwo : (x.significand : ℚ) = 2 ^ 52 := by exact_mod_cast htwo
    rw [htwo] at hgrid
    nlinarith

/-! ## The shortest numeral -/

/-- What the numeral that stands for a number is known to be. -/
structure Numeral.StandsFor (n : Numeral) (x : Binary64) : Prop where
  near : |n.toRat - x.size| ≤ x.spacing / 2
  digits_ne_zero : n.digits ≠ 0
  digits_le : n.digits ≤ 10 ^ 17
  /-- The numeral reaches every power of ten that the number reaches. -/
  reaches : ∀ k : ℤ, (10 : ℚ) ^ k ≤ x.size → (10 : ℚ) ^ k ≤ n.toRat

theorem Numeral.toRat_dropZero {d : Nat} {e : ℤ} (hzero : d % 10 = 0) :
    Numeral.toRat ⟨d / 10, e + 1⟩ = Numeral.toRat ⟨d, e⟩ := by
  obtain ⟨q, rfl⟩ := Nat.dvd_of_mod_eq_zero hzero
  show ((10 * q / 10 : ℕ) : ℚ) * 10 ^ (e + 1) = (10 * q : ℕ) * 10 ^ e
  rw [Nat.mul_div_cancel_left _ (by decide), zpow_add_one₀ (by norm_num)]
  push_cast
  ring

/-- Without its trailing zeros a numeral stands for the same number. -/
theorem Numeral.StandsFor.stripZeros {fuel : Nat} (h : n.StandsFor x) :
    (n.stripZeros fuel).StandsFor x := by
  induction fuel generalizing n with
  | zero => exact h
  | succ fuel ih =>
    unfold Numeral.stripZeros
    split
    · rename_i hzeros
      have hvalue : Numeral.toRat ⟨n.digits / 10, n.exponent + 1⟩ = n.toRat :=
        toRat_dropZero hzeros.2
      refine ih ⟨hvalue ▸ h.near, ?_, ?_, hvalue ▸ h.reaches⟩
      · show n.digits / 10 ≠ 0
        omega
      · exact (Nat.div_le_self _ _).trans h.digits_le
    · exact h

theorem size_pos (hx : 0 < x.significand) : 0 < x.size := by
  rw [size_eq]
  exact mul_pos (Nat.cast_pos.mpr hx) x.spacing_pos

theorem significand_pos_of_size (h : 0 < x.size) : 0 < x.significand := by
  refine Nat.pos_of_ne_zero fun hzero => ?_
  rw [size_eq, hzero, Nat.cast_zero, zero_mul] at h
  exact h.false

theorem log_size_bounds (hx : 0 < x.significand) :
    (10 : ℚ) ^ Int.log 10 x.size ≤ x.size ∧ x.size < (10 : ℚ) ^ (Int.log 10 x.size + 1) := by
  have hle := Int.zpow_log_le_self (b := 10) (by norm_num) (size_pos hx)
  have hlt := Int.lt_zpow_succ_log_self (b := 10) (by norm_num) x.size
  exact ⟨by exact_mod_cast hle, by exact_mod_cast hlt⟩

theorem leadingExponent_value (hfinite : x.isFinite = true) (hx : 0 < x.significand) :
    leadingExponent x.roundingInterval.value = Int.log 10 x.size := by
  have hpos : 0 < x.roundingInterval.value := by
    show 0 < 4 * (x.significand * Number.twoPow x.shift)
    exact Nat.mul_pos (by decide) (Nat.mul_pos hx (Nat.pow_pos (by decide)))
  have hlt : x.roundingInterval.value < 2 ^ (2 + (53 + x.shift)) := by
    show 4 * (x.significand * 2 ^ x.shift) < _
    rw [pow_add, pow_add]
    have hproduct : x.significand * 2 ^ x.shift < 2 ^ 53 * 2 ^ x.shift :=
      Nat.mul_lt_mul_of_pos_right x.significand_lt (Nat.pow_pos (by decide))
    omega
  have hlog := (Nat.log2_lt hpos.ne').mpr hlt
  have hshift := shift_le hfinite
  rw [leadingExponent_eq_log hpos.ne' (by omega), quarters_value]

/-- A candidate on a grid of up to seventeen digits stands for the number if it is taken. -/
theorem standsFor_of_onGrid? (hx : 0 < x.significand) {i : Nat} (hi : i < 17)
    (h : x.roundingInterval.onGrid? tie (Int.log 10 x.size - i) = some n) : n.StandsFor x := by
  obtain ⟨hholds, hn⟩ := RoundingInterval.of_onGrid? h
  obtain ⟨hlower, hupper⟩ := x.roundingInterval.lower_le_lt_upper (Int.log 10 x.size - i)
  rw [quarters_value] at hlower hupper
  obtain ⟨hk, hk'⟩ := log_size_bounds hx
  generalize hlog : Int.log 10 x.size = k at *
  have hunit : (0 : ℚ) < 10 ^ (k - i) := by positivity
  have hfirst : (10 : ℚ) ^ k = (10 ^ i : ℕ) * 10 ^ (k - i) := by
    push_cast
    rw [← zpow_natCast, ← zpow_add₀ (by norm_num)]
    congr 1
    omega
  have hlast : (10 : ℚ) ^ (k + 1) = (10 ^ (i + 1) : ℕ) * 10 ^ (k - i) := by
    push_cast
    rw [← zpow_natCast, ← zpow_add₀ (by norm_num)]
    congr 1
    push_cast
    omega
  -- The candidates have one digit more than the places of the grid, or are the next power of ten.
  have hlow : 10 ^ i ≤ (x.roundingInterval.lower (k - i)).digits := by
    have hlt := (hfirst ▸ hk).trans_lt hupper
    exact Nat.lt_succ_iff.mp (Nat.cast_lt.mp (lt_of_mul_lt_mul_right hlt hunit.le))
  have hhigh : (x.roundingInterval.lower (k - i)).digits < 10 ^ (i + 1) := by
    have hlt := hlower.trans_lt (hlast ▸ hk')
    exact Nat.cast_lt.mp (lt_of_mul_lt_mul_right hlt hunit.le)
  have hdigits : 10 ^ i ≤ n.digits ∧ n.digits ≤ 10 ^ (i + 1) := by
    have hsucc : (x.roundingInterval.upper (k - i)).digits =
        (x.roundingInterval.lower (k - i)).digits + 1 := rfl
    rcases hn with rfl | rfl
    · exact ⟨hlow, hhigh.le⟩
    · rw [hsucc]
      omega
  have hexponent : n.exponent = k - i := by rcases hn with rfl | rfl <;> rfl
  have hpow : 10 ^ (i + 1) ≤ 10 ^ 17 := Nat.pow_le_pow_right (by decide) hi
  refine ⟨abs_sub_size_le hx hholds, ?_, hdigits.2.trans hpow, fun j hj => ?_⟩
  · exact (lt_of_lt_of_le (Nat.pow_pos (by decide)) hdigits.1).ne'
  · have hle : j ≤ k := hlog ▸ (Int.zpow_le_iff_le_log (b := 10) (by norm_num) (size_pos hx)).mp
      (by exact_mod_cast hj)
    refine (zpow_le_zpow_right₀ (by norm_num) hle).trans ?_
    unfold Numeral.toRat
    rw [hfirst, hexponent]
    exact mul_le_mul_of_nonneg_right (Nat.cast_le.mpr hdigits.1) hunit.le

/-- The shortest numeral of a number stands for it. -/
theorem standsFor_shortest (hfinite : x.isFinite = true) (hzero : ¬ x.isZero = true) (tie : Tie) :
    (x.shortest tie).StandsFor x := by
  have hx := significand_pos hzero
  have hlog := leadingExponent_value hfinite hx
  unfold shortest
  extract_lets r k found
  have hk : k = Int.log 10 x.size := hlog
  cases hfound : found with
  | none =>
    -- The finest grid has a candidate at least.
    have hnone := List.findSome?_eq_none_iff.mp hfound 16 (by decide)
    rw [hk] at hnone
    exact absurd hnone
      (RoundingInterval.onGrid?_ne_none
        (exists_numeral_on_finest_grid hx (log_size_bounds hx).1))
  | some n =>
    obtain ⟨i, hi, hn⟩ := List.exists_of_findSome?_eq_some hfound
    rw [hk] at hn
    exact (standsFor_of_onGrid? hx (List.mem_range.mp hi) hn).stripZeros

/-! ## Numbers with a fraction -/

/-- The number has a fraction. -/
def HasFraction (x : Binary64) : Prop := x.units % unitsPerOne ≠ 0

theorem HasFraction.not_isZero (h : x.HasFraction) : ¬ x.isZero = true := by
  intro hzero
  apply h
  unfold units
  rw [significand_of_isZero hzero, Nat.zero_mul, Nat.zero_mod]

theorem HasFraction.shift_lt (h : x.HasFraction) : x.shift < 1074 := by
  by_contra hshift
  have hone : unitsPerOne ∣ Number.twoPow x.shift :=
    Number.twoPow_dvd_twoPow (Nat.le_of_not_lt hshift)
  exact h (Nat.mod_eq_zero_of_dvd (hone.mul_left _))

theorem HasFraction.isFinite (h : x.HasFraction) : x.isFinite = true := by
  have hshift := h.shift_lt
  unfold shift at hshift
  refine decide_eq_true ?_
  unfold infinityField
  rw [twoPow_52] at hshift ⊢
  omega

theorem spacing_eq_zpow (x : Binary64) : x.spacing = 2 ^ ((x.shift : ℤ) - 1074) := by
  unfold spacing unitsPerOne
  rw [Number.cast_twoPow, Number.cast_twoPow, zpow_sub₀ (by norm_num), zpow_natCast, zpow_ofNat]

/-- Multiples of a step that are off by at most half of it are equal. -/
theorem eq_mul_of_near {one whole units step : Nat} (hpos : 0 < step) (hone : step ∣ one)
    (hunits : step ∣ units) (hne : one ≠ 0)
    (h : |(whole : ℚ) - units / one| ≤ step / one / 2) : units = whole * one := by
  have hone' : (0 : ℚ) < one := Nat.cast_pos.mpr (Nat.pos_of_ne_zero hne)
  have hdistance : (whole : ℚ) - units / one = (whole * one - units) / one := by field_simp
  rw [hdistance, abs_div, abs_of_pos hone', div_right_comm,
    div_le_div_iff_of_pos_right hone'] at h
  have hlt : |(whole : ℚ) * one - units| < step := by
    have hstep : (0 : ℚ) < step := Nat.cast_pos.mpr hpos
    linarith
  have hdvd : (step : ℤ) ∣ whole * one - units :=
    Int.dvd_sub ((Int.natCast_dvd_natCast.mpr hone).mul_left _) (Int.natCast_dvd_natCast.mpr hunits)
  have hequal := Int.eq_zero_of_abs_lt_dvd hdvd (by exact_mod_cast hlt)
  have hcast : (units : ℤ) = (whole * one : ℕ) := by
    push_cast
    omega
  exact_mod_cast hcast

/-- A number with a fraction has no whole number in its interval. -/
theorem HasFraction.exponent_neg (hx : x.HasFraction)
    (h : |n.toRat - x.size| ≤ x.spacing / 2) : n.exponent < 0 := by
  by_contra hexponent
  obtain ⟨k, hk⟩ := Int.eq_ofNat_of_zero_le (not_lt.mp hexponent)
  have hwhole : n.toRat = (n.digits * 10 ^ k : ℕ) := by
    unfold Numeral.toRat
    rw [hk, zpow_natCast]
    push_cast
    rfl
  -- The number and the whole one are multiples of the spacing.
  have hpos : 0 < Number.twoPow x.shift := Nat.pow_pos (by decide)
  have hne : unitsPerOne ≠ 0 := (Nat.cast_pos.mp unitsPerOne_pos).ne'
  have hone : Number.twoPow x.shift ∣ unitsPerOne := Number.twoPow_dvd_twoPow hx.shift_lt.le
  have hnear : |((n.digits * 10 ^ k : ℕ) : ℚ) - x.units / unitsPerOne| ≤
      Number.twoPow x.shift / unitsPerOne / 2 := by
    rw [← hwhole]
    exact h
  have hunits : x.units = n.digits * 10 ^ k * unitsPerOne :=
    eq_mul_of_near hpos hone (Nat.dvd_mul_left _ _) hne hnear
  exact hx (by rw [hunits, Nat.mul_mod_left])

theorem Numeral.StandsFor.exponent_neg (h : n.StandsFor x) (hx : x.HasFraction) :
    n.exponent < 0 := hx.exponent_neg h.near

/-- A number of nineteen digits has no numeral with places. -/
theorem Numeral.StandsFor.exponent_nonneg (h : n.StandsFor x) (hsize : 2 ^ 63 ≤ x.size) :
    0 ≤ n.exponent := by
  by_contra hexponent
  have hplace : (10 : ℚ) ^ n.exponent ≤ 10 ^ (-1 : ℤ) :=
    zpow_le_zpow_right₀ (by norm_num) (by omega)
  have hvalue : n.toRat ≤ 10 ^ 17 * 10 ^ (-1 : ℤ) :=
    mul_le_mul (by exact_mod_cast h.digits_le) hplace (by positivity) (by norm_num)
  have hsignificand := significand_pos_of_size (lt_of_lt_of_le (by norm_num) hsize)
  -- The number is at least its spacing, so the numeral is at least half the number.
  have hspacing : x.spacing ≤ x.size := by
    rw [size_eq]
    exact le_mul_of_one_le_left x.spacing_pos.le (Nat.one_le_cast.mpr hsignificand)
  have hnear := (abs_le.mp h.near).1
  norm_num at hvalue
  linarith

/-- A numeral is above the number by at most half its last place. -/
theorem Numeral.StandsFor.toRat_le (h : n.StandsFor x) :
    n.toRat ≤ (x.significand + 1 / 2) * x.spacing := by
  have hnear := (abs_le.mp h.near).2
  rw [size_eq] at hnear
  linarith

theorem HasFraction.toRat_lt (hx : x.HasFraction) (h : n.StandsFor x) :
    n.toRat < 10 ^ (16 : ℤ) := by
  have hle := h.toRat_le
  have hshift := hx.shift_lt
  have hspacing : x.spacing ≤ 2 ^ (-1 : ℤ) := by
    rw [spacing_eq_zpow]
    exact zpow_le_zpow_right₀ (by norm_num) (by omega)
  have hsignificand : (x.significand : ℚ) < 2 ^ 53 := by exact_mod_cast x.significand_lt
  have hpos := x.spacing_pos
  norm_num at hspacing ⊢
  nlinarith

theorem two_pow_52_le_significand (h : 0 < x.shift) : 2 ^ 52 ≤ x.significand := by
  unfold shift at h
  unfold significand
  rw [twoPow_52] at h ⊢
  split <;> omega

/-- The numeral does not reach 0.00001 if the number does not, since no number below is as near to
0.00001 as half its last place. -/
theorem Numeral.StandsFor.reaches_iff (h : n.StandsFor x) :
    (10 : ℚ) ^ (-5 : ℤ) ≤ n.toRat ↔ (10 : ℚ) ^ (-5 : ℤ) ≤ x.size := by
  refine ⟨fun hn => ?_, h.reaches (-5)⟩
  by_contra hlt
  have hle := hn.trans h.toRat_le
  have hsignificand : (x.significand : ℚ) + 1 ≤ 2 ^ 53 := by exact_mod_cast x.significand_lt
  have hpos := x.spacing_pos
  rw [not_le, size_eq] at hlt
  rcases lt_trichotomy x.shift 1005 with hshift | hshift | hshift
  · have hspacing : x.spacing ≤ 2 ^ (-70 : ℤ) := by
      rw [spacing_eq_zpow]
      exact zpow_le_zpow_right₀ (by norm_num) (by omega)
    norm_num at hspacing hle
    nlinarith
  · have hspacing : x.spacing = 2 ^ (-69 : ℤ) := by
      rw [spacing_eq_zpow, hshift]
      norm_num
    rw [hspacing] at hle hlt
    norm_num at hle hlt
    -- Here 0.00001 lies between half the places 5902958103587056.5 and the next number.
    have hbelow : (x.significand : ℚ) < 5902958103587057 := by linarith
    have hle' : (x.significand : ℚ) ≤ 5902958103587056 := by
      exact_mod_cast Nat.lt_succ_iff.mp (Nat.cast_lt.mp (by exact_mod_cast hbelow))
    linarith
  · have hspacing : 2 ^ (-68 : ℤ) ≤ x.spacing := by
      rw [spacing_eq_zpow]
      exact zpow_le_zpow_right₀ (by norm_num) (by omega)
    have hnormal : (2 : ℚ) ^ 52 ≤ x.significand := by
      exact_mod_cast two_pow_52_le_significand (by omega)
    norm_num at hspacing hlt
    nlinarith

end Binary64

end TableDiff
