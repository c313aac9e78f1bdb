import TableDiff.Proofs.Value.Rank

/-!
# Mantissas of 96 bits

A mantissa that is too large is fitted to 96 bits: it gives up places, no more than it has to, and
is rounded half to even at the last place that it keeps. Rounding may carry beyond the bound, and
then one place more is given up; the result is what rounding there at once would have given.
-/

namespace TableDiff

/-! ## Rounded quotients -/

/-- A quotient is rounded to at most `m` if it is below `m + 1/2`, or equal to it and `m` is
even. -/
theorem Binary64.divHalfEven_le_iff {den : Nat} (hden : 0 < den) (num m : Nat) :
    divHalfEven num den ≤ m ↔
      2 * num < (2 * m + 1) * den ∨ 2 * num = (2 * m + 1) * den ∧ m % 2 = 0 := by
  have hnum : den * (num / den) + num % den = num := Nat.div_add_mod num den
  have hrem : num % den < den := Nat.mod_lt num hden
  have hodd : (2 * m + 1) * den = 2 * (den * m) + den := by ring
  rw [hodd]
  unfold divHalfEven
  dsimp only
  rcases Nat.lt_trichotomy m (num / den) with hlt | heq | hgt
  · have hstep : den * (m + 1) ≤ den * (num / den) := Nat.mul_le_mul_left den hlt
    rw [Nat.mul_succ] at hstep
    split
    · omega
    · split <;> omega
  · rw [← heq] at hnum ⊢
    split
    · omega
    · split <;> omega
  · have hstep : den * (num / den + 1) ≤ den * m := Nat.mul_le_mul_left den hgt
    rw [Nat.mul_succ] at hstep
    split
    · omega
    · split <;> omega

theorem Binary64.divHalfEven_one (n : Nat) : divHalfEven n 1 = n := by
  simp [divHalfEven, Nat.mod_one]

namespace Number

theorem tenPow_pos (n : Nat) : 0 < tenPow n := Nat.pow_pos (by decide)

theorem tenPow_succ (n : Nat) : tenPow (n + 1) = 10 * tenPow n := by
  change Nat.pow 10 (n + 1) = 10 * Nat.pow 10 n
  rw [Nat.pow_eq, Nat.pow_eq, Nat.pow_succ, Nat.mul_comm]

theorem cast_tenPow (n : Nat) : (tenPow n : ℚ) = 10 ^ n := Nat.cast_pow 10 n

end Number

/-! ## Fitting a mantissa -/

namespace Decimal

theorem mantissaBound_eq : mantissaBound = 79228162514264337593543950336 := rfl

theorem ofParts?_eq_some {negative : Bool} {mantissa scale : Nat}
    (hmantissa : mantissa < mantissaBound) (hscale : scale ≤ 28) :
    ofParts? negative mantissa scale = some ⟨negative, mantissa, scale, hmantissa, hscale⟩ :=
  dif_pos ⟨hmantissa, hscale⟩

/-- `r` has the magnitude of `n / 10 ^ scale`, rounded to as many places as it has room for: with
one place more its mantissa would be rounded beyond 96 bits. -/
structure FitOf (n scale : Nat) (r : Decimal) : Prop where
  scale_le : r.scale ≤ scale
  mantissa_eq : r.mantissa = Binary64.divHalfEven n (Number.tenPow (scale - r.scale))
  full : r.scale < scale →
    (2 * mantissaBound - 1) * Number.tenPow (scale - r.scale - 1) ≤ 2 * n

/-- A quotient is rounded beyond 96 bits from half a unit below the bound on. -/
theorem mantissaBound_le_divHalfEven_iff {den : Nat} (hden : 0 < den) (n : Nat) :
    mantissaBound ≤ Binary64.divHalfEven n den ↔ (2 * mantissaBound - 1) * den ≤ 2 * n := by
  have h := Binary64.divHalfEven_le_iff hden n (mantissaBound - 1)
  -- The greatest mantissa is odd, so the tie is rounded away from it.
  have hodd : (mantissaBound - 1) % 2 = 1 := by decide
  have hdouble : 2 * (mantissaBound - 1) + 1 = 2 * mantissaBound - 1 := by decide
  rw [hdouble] at h
  have hpos : 0 < mantissaBound := by decide
  omega

/-- How many places beyond the first one are given up for a mantissa that is too large. -/
def excessPlaces (n scale : Nat) : Nat :=
  ((List.range (scale + 1)).find? fun k =>
    decide (n / Number.tenPow (k + 1) < mantissaBound)).getD scale

theorem fit?_of_le (negative : Bool) {n : Nat} (scale : Nat) (hn : mantissaBound ≤ n) :
    fit? negative n (scale + 1) =
      let drop := excessPlaces n scale
      let rounded := Binary64.divHalfEven n (Number.tenPow (drop + 1))
      if rounded < mantissaBound then ofParts? negative rounded (scale - drop)
      else if scale - drop = 0 then none
      else ofParts? negative (Binary64.divHalfEven rounded 10) (scale - drop - 1) := by
  unfold fit?
  dsimp only
  rw [if_neg (Nat.not_lt.mpr hn)]
  rfl

/-- No fewer places would do, and these do if there are so many. -/
theorem excessPlaces_spec {n : Nat} (scale : Nat) (hn : mantissaBound ≤ n) :
    excessPlaces n scale ≤ scale ∧ mantissaBound * Number.tenPow (excessPlaces n scale) ≤ n ∧
      (n < mantissaBound * Number.tenPow (excessPlaces n scale + 1) ∨
        excessPlaces n scale = scale) := by
  have hmore : ∀ k, ¬ n / Number.tenPow k < mantissaBound →
      mantissaBound * Number.tenPow k ≤ n := fun k hk =>
    (Nat.le_div_iff_mul_le (Number.tenPow_pos k)).mp (Nat.not_lt.mp hk)
  have hzero : mantissaBound * Number.tenPow 0 ≤ n := by
    change mantissaBound * 1 ≤ n
    omega
  unfold excessPlaces
  cases hfind : (List.range (scale + 1)).find? fun k =>
      decide (n / Number.tenPow (k + 1) < mantissaBound) with
  | none =>
    rw [Option.getD_none]
    rw [List.find?_eq_none] at hfind
    refine ⟨Nat.le_refl scale, ?_, .inr rfl⟩
    cases scale with
    | zero => exact hzero
    | succ k => exact hmore (k + 1) (by simpa using hfind k (by simp))
  | some i =>
    rw [Option.getD_some]
    obtain ⟨hi, hmem, hless⟩ := List.find?_range_eq_some.mp hfind
    refine ⟨Nat.le_of_lt_succ (List.mem_range.mp hmem), ?_, .inl ?_⟩
    · cases i with
      | zero => exact hzero
      | succ k => exact hmore (k + 1) (by simpa using hless k (by omega))
    · exact (Nat.div_lt_iff_lt_mul (Number.tenPow_pos _)).mp (of_decide_eq_true hi)

/-- What is just below the bound with one place more is rounded as it would be with that place. -/
theorem divHalfEven_carry {n : Nat} (k : Nat)
    (hlow : (2 * mantissaBound - 1) * Number.tenPow k ≤ 2 * n)
    (hhigh : n < mantissaBound * Number.tenPow k) :
    Binary64.divHalfEven n (Number.tenPow k) = mantissaBound ∧
      Binary64.divHalfEven n (Number.tenPow (k + 1)) = Binary64.divHalfEven mantissaBound 10 := by
  have hlast : Binary64.divHalfEven mantissaBound 10 = 7922816251426433759354395034 := by decide
  have hcarry := (mantissaBound_le_divHalfEven_iff (Number.tenPow_pos k) n).mpr hlow
  have hpow := Number.tenPow_succ k
  have hle := Binary64.divHalfEven_le_iff (Number.tenPow_pos k) n mantissaBound
  have hup := Binary64.divHalfEven_le_iff (Number.tenPow_pos (k + 1)) n
    7922816251426433759354395034
  have hdown := Binary64.divHalfEven_le_iff (Number.tenPow_pos (k + 1)) n
    7922816251426433759354395033
  rw [hlast]
  rw [mantissaBound_eq] at hlow hhigh hcarry hle ⊢
  omega

theorem fitOf_of_lt (negative : Bool) {n scale : Nat} (hn : n < mantissaBound)
    (hscale : scale ≤ 28) : FitOf n scale ⟨negative, n, scale, hn, hscale⟩ where
  scale_le := Nat.le_refl scale
  mantissa_eq := by
    dsimp only
    rw [Nat.sub_self]
    exact (Binary64.divHalfEven_one n).symm
  full h := absurd h (Nat.lt_irrefl scale)

/-- Where the rounded mantissa has 96 bits, the places given up were needed. -/
theorem fitOf_of_rounded (negative : Bool) {n scale drop : Nat} (hdrop : drop ≤ scale)
    (hscale : scale - drop ≤ 28) (hmore : mantissaBound * Number.tenPow drop ≤ n)
    (hfits : Binary64.divHalfEven n (Number.tenPow (drop + 1)) < mantissaBound) :
    FitOf n (scale + 1) ⟨negative, _, scale - drop, hfits, hscale⟩ where
  scale_le := Nat.le_succ_of_le (Nat.sub_le _ _)
  mantissa_eq := by
    dsimp only
    rw [show scale + 1 - (scale - drop) = drop + 1 by omega]
  full _ := by
    dsimp only
    rw [show scale + 1 - (scale - drop) - 1 = drop by omega]
    have hle : (2 * mantissaBound - 1) * Number.tenPow drop ≤
        2 * mantissaBound * Number.tenPow drop := Nat.mul_le_mul_right _ (Nat.sub_le _ _)
    rw [Nat.mul_assoc] at hle
    omega

/-- Where rounding has carried beyond 96 bits, one place more is given up. -/
theorem fitOf_of_carry (negative : Bool) {n scale drop : Nat} (hplaces : scale - drop ≠ 0)
    (hscale : scale - drop - 1 ≤ 28)
    (hlow : (2 * mantissaBound - 1) * Number.tenPow (drop + 1) ≤ 2 * n)
    (hlast : Binary64.divHalfEven n (Number.tenPow (drop + 1 + 1)) =
      Binary64.divHalfEven mantissaBound 10)
    (hfits : Binary64.divHalfEven mantissaBound 10 < mantissaBound) :
    FitOf n (scale + 1) ⟨negative, _, scale - drop - 1, hfits, hscale⟩ where
  scale_le := by
    dsimp only
    omega
  mantissa_eq := by
    dsimp only
    rw [show scale + 1 - (scale - drop - 1) = drop + 1 + 1 by omega, hlast]
  full _ := by
    dsimp only
    rw [show scale + 1 - (scale - drop - 1) - 1 = drop + 1 by omega]
    exact hlow

/-- A mantissa is fitted to 96 bits, unless it is rounded beyond them even without places. -/
theorem fit?_cases (negative : Bool) (n : Nat) {scale : Nat} (hscale : scale ≤ 28) :
    (fit? negative n scale = none ∧ (2 * mantissaBound - 1) * Number.tenPow scale ≤ 2 * n) ∨
      ∃ r, fit? negative n scale = some r ∧ FitOf n scale r := by
  have hpos : 0 < mantissaBound := by decide
  by_cases hn : n < mantissaBound
  · refine .inr ⟨_, ?_, fitOf_of_lt negative hn hscale⟩
    cases scale with
    | zero => exact ofParts?_eq_some hn hscale
    | succ scale =>
      unfold fit?
      dsimp only
      rw [if_pos hn]
      exact ofParts?_eq_some hn hscale
  cases scale with
  | zero =>
    refine .inl ⟨dif_neg fun h => hn h.1, ?_⟩
    change (2 * mantissaBound - 1) * 1 ≤ 2 * n
    omega
  | succ scale =>
    rw [Nat.not_lt] at hn
    obtain ⟨hdrop, hmore, hless⟩ := excessPlaces_spec scale hn
    rw [fit?_of_le negative scale hn]
    generalize excessPlaces n scale = drop at *
    dsimp only
    have hround := mantissaBound_le_divHalfEven_iff (Number.tenPow_pos (drop + 1)) n
    by_cases hfits : Binary64.divHalfEven n (Number.tenPow (drop + 1)) < mantissaBound
    · rw [if_pos hfits]
      have hscale' : scale - drop ≤ 28 := by omega
      exact .inr ⟨_, ofParts?_eq_some hfits hscale',
        fitOf_of_rounded negative hdrop hscale' hmore hfits⟩
    have hlow := hround.mp (Nat.not_lt.mp hfits)
    rw [if_neg hfits]
    by_cases hplaces : scale - drop = 0
    · refine .inl ⟨if_pos hplaces, ?_⟩
      rw [show scale + 1 = drop + 1 by omega]
      exact hlow
    · rw [if_neg hplaces]
      obtain ⟨hcarry, hlast⟩ := divHalfEven_carry (drop + 1) hlow (hless.resolve_right (by omega))
      have hlastFits : Binary64.divHalfEven mantissaBound 10 < mantissaBound := by decide
      have hscale' : scale - drop - 1 ≤ 28 := by omega
      rw [hcarry]
      exact .inr ⟨_, ofParts?_eq_some hlastFits hscale',
        fitOf_of_carry negative hplaces hscale' hlow hlast hlastFits⟩

end Decimal

end TableDiff
