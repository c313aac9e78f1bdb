import TableDiff.Proofs.Number.Fitting
import TableDiff.Proofs.Number.Rereading

/-!
# Signs of decimal numbers

A number in positional notation has the sign that it begins with, and none if it is zero. In
exponent notation the number before the mark has its sign in this way, and is then scaled. So a zero
has a minus sign only if scaling rounds a negative number to it.
-/

namespace TableDiff.Decimal

variable {p q : Progress} {cs rest : List Char} {c : Char} {d e : Decimal}

theorem parts_of_ofParts? {negative : Bool} {mantissa scale : Nat}
    (h : ofParts? negative mantissa scale = some d) :
    d.negative = negative ∧ d.mantissa = mantissa ∧ d.scale = scale := by
  unfold ofParts? at h
  split at h
  · cases h
    exact ⟨rfl, rfl, rfl⟩
  · cases h

/-! ## Positional notation -/

/-- The magnitude that has been read is at least one. -/
def Progress.AtLeastOne (p : Progress) : Prop := Number.tenPow p.scale ≤ p.mantissa

/-- The magnitude is at least one. -/
def AtLeastOne (d : Decimal) : Prop := Number.tenPow d.scale ≤ d.mantissa

/-- What the number at the end has from what has been read of it. -/
structure Progress.EndsIn (p : Progress) (d : Decimal) : Prop where
  negative : d.negative = true → p.negative = true ∧ d.mantissa ≠ 0
  atLeastOne : p.AtLeastOne → d.AtLeastOne

namespace Progress

theorem EndsIn.of_next (h : q.EndsIn d) (hnegative : q.negative = p.negative)
    (hone : p.AtLeastOne → q.AtLeastOne) : p.EndsIn d :=
  ⟨fun hd => hnegative ▸ h.negative hd, fun hp => h.atLeastOne (hone hp)⟩

theorem endsIn_of_finish (h : p.finish = .ok d) : p.EndsIn d := by
  unfold finish at h
  split at h
  · cases h
  · split at h
    · rename_i hparts
      cases h
      obtain ⟨hnegative, hmantissa, hscale⟩ := parts_of_ofParts? hparts
      refine ⟨fun hd => ?_, fun hp => ?_⟩
      · rw [hnegative] at hd
        rw [hmantissa]
        simpa using hd
      · unfold Decimal.AtLeastOne
        rw [hmantissa, hscale]
        exact hp
    · cases h

theorem endsIn_of_finishAbove (h : p.finishAbove = .ok d) : p.EndsIn d := by
  unfold finishAbove at h
  dsimp only at h
  split at h
  · exact (endsIn_of_finish h).of_next rfl fun hp => Nat.le_succ_of_le hp
  · split at h
    · cases h
    · rename_i hscale
      refine (endsIn_of_finish h).of_next rfl fun hp => ?_
      -- A place is given up, and the magnitude does not fall below one by that.
      obtain ⟨k, hk⟩ := Nat.exists_eq_succ_of_ne_zero hscale
      have hp : Number.tenPow p.scale ≤ p.mantissa := hp
      show Number.tenPow (p.scale - 1) ≤ (p.mantissa + 1 + 4) / 10
      rw [hk, Number.tenPow_succ] at hp
      rw [hk, Nat.succ_sub_one]
      omega

theorem endsIn_of_roundOn (h : p.roundOn c = .ok d) : p.EndsIn d := by
  unfold roundOn at h
  split at h
  · split at h
    · exact endsIn_of_finishAbove h
    · exact endsIn_of_finish h
  · split at h
    · exact endsIn_of_finish h
    · cases h

end Progress

/-- Nothing that is read further takes the sign away or makes the magnitude less than one. -/
theorem endsIn_of_readFrom (h : readFrom p cs = .ok d) : p.EndsIn d := by
  induction cs generalizing p with
  | nil => exact Progress.endsIn_of_finish h
  | cons c rest ih =>
    unfold readFrom at h
    extract_lets mantissa scale next at h
    have hnext : p.AtLeastOne → next.AtLeastOne := by
      intro hp
      have hp : Number.tenPow p.scale ≤ p.mantissa := hp
      show Number.tenPow (if p.hasPoint then p.scale + 1 else p.scale) ≤
        p.mantissa * 10 + Number.digitValue c
      split
      · rw [Number.tenPow_succ]
        omega
      · omega
    split at h
    · split at h
      · split at h
        · exact Progress.endsIn_of_roundOn h
        · cases h
      · split at h
        · exact (Progress.endsIn_of_finish h).of_next rfl hnext
        · split at h
          · exact (Progress.endsIn_of_roundOn h).of_next rfl hnext
          · exact (ih h).of_next rfl hnext
    · split at h
      · exact (ih h).of_next rfl id
      · split at h
        · exact ih h
        · cases h

/-- A negative number that is read in positional notation begins with the sign and is not zero. -/
theorem minus_of_readPositional (h : readPositional cs = .ok d) (hd : d.negative = true) :
    d.mantissa ≠ 0 ∧ ∃ rest, cs = '-' :: rest := by
  unfold readPositional at h
  split at h
  · cases h
  · exact ⟨((endsIn_of_readFrom h).negative hd).2, _, rfl⟩
  · cases ((endsIn_of_readFrom h).negative hd).1
  · cases ((endsIn_of_readFrom h).negative hd).1

theorem digitValue_of_isDigit (hc : c.isDigit = true) :
    Number.digitValue c ≤ 9 ∧ (c ≠ '0' → Number.digitValue c ≠ 0) := by
  have hrange : 48 ≤ c.toNat ∧ c.toNat ≤ 57 := by
    simpa [Char.isDigit, UInt32.le_iff_toNat_le] using hc
  have hvalue : Number.digitValue c = c.toNat - 48 := rfl
  refine ⟨by omega, fun hzero => ?_⟩
  have hne : c.toNat ≠ 48 := fun h => hzero (Char.toNat_inj.mp h)
  omega

/-- A number whose first digit is not zero is at least one. -/
theorem atLeastOne_of_readPositional (h : readPositional ('-' :: c :: rest) = .ok d)
    (hc : c.isDigit = true) (hzero : c ≠ '0') : d.AtLeastOne := by
  obtain ⟨hle, hne⟩ := digitValue_of_isDigit hc
  have hpush : ((Progress.start true).push [c]).mantissa = Number.digitValue c := by
    rw [mantissa_push_cons_nil]
    exact Nat.zero_add _
  have hroom : ((Progress.start true).push [c]).mantissa < mantissaBound := by
    rw [hpush, mantissaBound_eq]
    omega
  have hstart : readFrom (.start true) (c :: rest) = .ok d := h
  rw [readFrom_cons_digit hc hroom (by simp)] at hstart
  apply (endsIn_of_readFrom hstart).atLeastOne
  show 1 ≤ ((Progress.start true).push [c]).mantissa
  rw [hpush]
  exact Nat.one_le_iff_ne_zero.mpr (hne hzero)

/-! ## Exponent notation -/

/-- A number with its point moved: it has the same sign, and is not zero if it was at least one. -/
structure IsScaled (d e : Decimal) : Prop where
  negative_eq : e.negative = d.negative
  ne_zero : d.AtLeastOne → e.mantissa ≠ 0

theorem AtLeastOne.mantissa_ne_zero (h : d.AtLeastOne) : d.mantissa ≠ 0 := by
  have hpos := Number.tenPow_pos d.scale
  have h : Number.tenPow d.scale ≤ d.mantissa := h
  omega

theorem isScaled_of_withScale {scale : Nat} (h : d.withScale scale = .ok e) : d.IsScaled e := by
  unfold withScale at h
  split at h
  · rename_i hparts
    cases h
    obtain ⟨hnegative, hmantissa, -⟩ := parts_of_ofParts? hparts
    exact ⟨hnegative, fun hd => hmantissa ▸ hd.mantissa_ne_zero⟩
  · cases h

theorem isScaled_of_scaleUp {n : Nat} (h : d.scaleUp n = .ok e) : d.IsScaled e := by
  unfold scaleUp at h
  split at h
  · exact isScaled_of_withScale h
  · split at h
    · cases h
    · split at h
      · rename_i hparts
        cases h
        obtain ⟨hnegative, hmantissa, -⟩ := parts_of_ofParts? hparts
        refine ⟨hnegative, fun hd => ?_⟩
        rw [hmantissa]
        exact Nat.mul_ne_zero hd.mantissa_ne_zero (Number.tenPow_pos _).ne'
      · cases h

theorem dropPlaces_ne_zero {n places : Nat} (h : Number.tenPow places ≤ n) :
    dropPlaces n places ≠ 0 := by
  have hpos := Number.tenPow_pos places
  have hle : 2 * Number.tenPow places ≤ 2 * n + Number.tenPow places := by omega
  exact (Nat.div_pos hle (by omega)).ne'

theorem isScaled_of_scaleDown {n : Nat} (h : d.scaleDown n = .ok e) : d.IsScaled e := by
  unfold scaleDown at h
  extract_lets scale at h
  split at h
  · cases h
  · rename_i hn
    split at h
    · exact isScaled_of_withScale h
    · split at h
      · rename_i hparts
        cases h
        obtain ⟨hnegative, hmantissa, -⟩ := parts_of_ofParts? hparts
        refine ⟨hnegative, fun hd => ?_⟩
        rw [hmantissa]
        -- No more places are dropped than the number has.
        have hplaces : scale - maxScale ≤ d.scale := by
          show d.scale + n - maxScale ≤ d.scale
          omega
        exact dropPlaces_ne_zero ((Nat.pow_le_pow_right (by decide) hplaces).trans hd)
      · cases h

theorem exists_isScaled_of_readScientific (h : readScientific cs = .ok e) :
    ∃ d, readPositional (cs.takeWhile (!isExponentMark ·)) = .ok d ∧ d.IsScaled e := by
  unfold readScientific at h
  split at h
  · cases h
  · obtain ⟨d, hd, h⟩ := exists_of_bind_eq_ok h
    refine ⟨d, hd, ?_⟩
    split at h
    · obtain ⟨n, -, h⟩ := exists_of_bind_eq_ok h
      exact isScaled_of_scaleDown h
    · obtain ⟨n, -, h⟩ := exists_of_bind_eq_ok h
      exact isScaled_of_scaleUp h

/-! ## Zeros with a sign -/

/-- A zero with a minus sign is written in exponent notation, with the sign and a zero or a point
before the other digits. -/
theorem text_of_minusZero (h : read cs = .ok d) (hd : d.negative = true) (hzero : d.mantissa = 0) :
    cs.any isExponentMark = true ∧
      ∃ rest, cs = '-' :: rest ∧ ∀ c ∈ rest.head?, c.isDigit = true → c = '0' := by
  unfold read at h
  split at h
  · rename_i hmark
    refine ⟨hmark, ?_⟩
    obtain ⟨e, he, hscaled⟩ := exists_isScaled_of_readScientific h
    obtain ⟨-, front, hfront⟩ := minus_of_readPositional he (hscaled.negative_eq ▸ hd)
    cases cs with
    | nil => cases hfront
    | cons sign rest =>
      obtain rfl : sign = '-' := by
        rw [List.takeWhile_cons] at hfront
        split at hfront
        · exact (List.cons.inj hfront).1
        · cases hfront
      refine ⟨rest, rfl, fun c hc hdigit => ?_⟩
      by_contra hne
      obtain ⟨more, rfl⟩ := List.head?_eq_some_iff.mp hc
      have hplain : isExponentMark c = false := isExponentMark_of_isDigit hdigit
      have hwhile : ('-' :: c :: more).takeWhile (!isExponentMark ·) =
          '-' :: c :: more.takeWhile (!isExponentMark ·) := by
        rw [List.takeWhile_cons_of_pos (by decide),
          List.takeWhile_cons_of_pos (by simpa using hplain)]
      rw [hwhile] at he
      exact hscaled.ne_zero (atLeastOne_of_readPositional he hdigit hne) hzero
  · exact absurd hzero (minus_of_readPositional h hd).1

end TableDiff.Decimal
