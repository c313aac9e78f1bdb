import TableDiff.Proofs.Number.Padding
import TableDiff.Proofs.Number.Ties
import TableDiff.Proofs.Value.Characters

/-!
# Texts of binary numbers

A cell shows a binary number in positional notation, and a configuration file writes it with a
fraction or an exponent. Both take a shortest numeral. A number without a fraction never has one
text in both ways, and a number with a fraction has if it is not written with an exponent and the
numerals are the same.
-/

namespace TableDiff

/-! ## Digits -/

theorem Number.head?_digits_ne_zero {n : Nat} (hn : n ≠ 0) : (digits n).head? ≠ some '0' := by
  induction n using Nat.strong_induction_on with
  | _ n ih =>
    by_cases hsmall : n < 10
    · have hdigit : ∀ n < 10, n ≠ 0 → [n.digitChar].head? ≠ some '0' := by decide
      unfold digits
      rw [Nat.toDigits_of_lt_base hsmall]
      exact hdigit n hsmall hn
    · have hquotient := ih (n / 10) (by omega) (by omega)
      unfold digits at hquotient ⊢
      rwa [Nat.toDigits_of_base_le (by decide) (by omega),
        List.head?_append_of_ne_nil _ Nat.toDigits_ne_nil]

namespace Binary64

variable {x : Binary64} {n m : Numeral} {c : Char}

/-! ## Positional notation -/

/-- How many digits of a numeral stand before the point. -/
def Numeral.point (n : Numeral) : ℤ := (Number.digits n.digits).length + n.exponent

/-- The place of the point tells which powers of ten the numeral reaches. -/
theorem Numeral.lt_point_iff (h : n.digits ≠ 0) (k : ℤ) : k < n.point ↔ (10 : ℚ) ^ k ≤ n.toRat := by
  have hscale : (10 : ℚ) ^ k ≤ n.toRat ↔ (10 : ℚ) ^ (k - n.exponent) ≤ n.digits := by
    unfold toRat
    rw [zpow_sub₀ (by norm_num), div_le_iff₀ (by positivity)]
  have hpoint : k < n.point ↔ k - n.exponent < (Number.digits n.digits).length := by
    unfold point
    omega
  rw [hscale, hpoint]
  rcases lt_or_ge (k - n.exponent) 0 with hneg | hnonneg
  · -- Below the last place every numeral reaches the power.
    refine iff_of_true (hneg.trans_le (by omega)) ?_
    have hone : (1 : ℚ) ≤ n.digits := by exact_mod_cast Nat.one_le_iff_ne_zero.mpr h
    exact (zpow_le_one_of_nonpos₀ (by norm_num) hneg.le).trans hone
  · obtain ⟨i, hi⟩ := Int.eq_ofNat_of_zero_le hnonneg
    rw [hi, zpow_natCast, Nat.cast_lt]
    have hdigits : i < (Number.digits n.digits).length ↔ 10 ^ i ≤ n.digits := by
      rcases Nat.eq_zero_or_pos i with rfl | hpos
      · exact iff_of_true Nat.length_toDigits_pos (Nat.one_le_iff_ne_zero.mpr h)
      · have hlength := Nat.length_toDigits_le_iff (b := 10) (n := n.digits) (by decide) hpos
        exact not_le.symm.trans (hlength.not.trans not_lt)
    rw [hdigits]
    exact_mod_cast Iff.rfl

/-- A numeral with places has its digits around the point. -/
theorem Numeral.exists_positional_eq (h : n.exponent < 0) : ∃ front back,
    n.positional = front ++ '.' :: back ∧ (∀ c ∈ front ++ back, c.isDigit = true) ∧
      (back.length : ℤ) = -n.exponent ∧ Number.ofDigits (front ++ back) = n.digits := by
  have hdigits : ∀ c ∈ Number.digits n.digits, c.isDigit = true :=
    fun _ => Number.isDigit_of_mem_digits
  have hvalue := Number.ofDigits_digits n.digits
  unfold positional
  extract_lets ds places
  rw [if_neg (not_le.mpr h)]
  split
  · refine ⟨ds.take (ds.length - places), ds.drop (ds.length - places), rfl, ?_, ?_, ?_⟩
    · rwa [List.take_append_drop]
    · rw [List.length_drop]
      omega
    · rwa [List.take_append_drop]
  · have hzeros : ['0'] ++ (List.replicate (places - ds.length) '0' ++ ds) =
        List.replicate (places - ds.length + 1) '0' ++ ds := rfl
    refine ⟨['0'], List.replicate (places - ds.length) '0' ++ ds, rfl, ?_, ?_, ?_⟩
    · intro c hc
      rw [hzeros] at hc
      rcases List.mem_append.mp hc with hc | hc
      · rw [List.eq_of_mem_replicate hc]
        rfl
      · exact hdigits c hc
    · rw [List.length_append, List.length_replicate]
      omega
    · rw [hzeros]
      unfold Number.ofDigits
      rw [Nat.ofDigitChars_append, Nat.ofDigitChars_replicate_zero, Nat.mul_zero]
      exact hvalue

theorem Numeral.isDigit_of_mem_positional (h : 0 ≤ n.exponent) (hc : c ∈ n.positional) :
    c.isDigit = true := by
  unfold positional at hc
  extract_lets ds at hc
  rw [if_pos h] at hc
  rcases List.mem_append.mp hc with hc | hc
  · exact Number.isDigit_of_mem_digits hc
  · rw [List.eq_of_mem_replicate hc]
    rfl

theorem Numeral.of_mem_positional (hc : c ∈ n.positional) : c.isDigit = true ∨ c = '.' := by
  rcases lt_or_ge n.exponent 0 with hneg | hnonneg
  · obtain ⟨front, back, htext, hdigits, -, -⟩ := exists_positional_eq hneg
    rw [htext, List.mem_append, List.mem_cons] at hc
    rcases hc with hc | rfl | hc
    · exact Or.inl (hdigits c (List.mem_append_left _ hc))
    · exact Or.inr rfl
    · exact Or.inl (hdigits c (List.mem_append_right _ hc))
  · exact Or.inl (isDigit_of_mem_positional hnonneg hc)

theorem Numeral.eq_of_parts (hdigits : n.digits = m.digits) (hexponent : n.exponent = m.exponent) :
    n = m := by
  cases n
  cases m
  congr

/-- A numeral with places can be told from its text. -/
theorem Numeral.positional_injective (hn : n.exponent < 0) (hm : m.exponent < 0)
    (h : n.positional = m.positional) : n = m := by
  obtain ⟨front, back, hntext, hndigits, hnlength, hnvalue⟩ := exists_positional_eq hn
  obtain ⟨front', back', hmtext, hmdigits, hmlength, hmvalue⟩ := exists_positional_eq hm
  have hpoint : ∀ ds : List Char, (∀ c ∈ ds, c.isDigit = true) → '.' ∉ ds := fun ds hds hmem => by
    cases hds '.' hmem
  rw [hntext, hmtext, List.append_cons_inj_of_notMem
    (hpoint front fun c hc => hndigits c (List.mem_append_left _ hc))
    (hpoint back fun c hc => hndigits c (List.mem_append_right _ hc))] at h
  obtain ⟨rfl, -, rfl⟩ := h
  exact eq_of_parts (hnvalue.symm.trans hmvalue) (by omega)

/-! ## With a fraction or an exponent -/

/-- The forms in which a numeral is written with a fraction or an exponent. -/
inductive Numeral.Written (n : Numeral) : List Char → Prop
  | whole (h : 0 ≤ n.exponent) : Written n (n.positional ++ ['.', '0'])
  | places (h : n.exponent < 0) (hpoint : -5 < n.point ∧ n.point ≤ 16) : Written n n.positional
  | scaled (c : Char) (mid : List Char)
      (hpoint : n.exponent < 0 → ¬ (-5 < n.point ∧ n.point ≤ 16))
      (hc : (Number.digits n.digits).head? = some c)
      (hmid : ∀ d ∈ mid, d.isDigit = true ∨ d = '.') :
      Written n (c :: mid ++ 'e' :: Number.intText (n.point - 1))

theorem Numeral.written_scientific (n : Numeral) : n.Written n.scientific := by
  have hdigits : ∀ c ∈ Number.digits n.digits, c.isDigit = true :=
    fun _ => Number.isDigit_of_mem_digits
  have hne := Number.digits_ne_nil n.digits
  unfold scientific
  dsimp only
  split
  · rename_i hwhole
    exact .whole hwhole.1
  · rename_i hwhole
    split
    · rename_i hplaces
      exact .places (by omega) hplaces
    · rename_i hplaces
      split
      · rename_i d hds
        have hhead : (Number.digits n.digits).head? = some d := congrArg List.head? hds
        exact .scaled d [] (fun _ => hplaces) hhead (by simp)
      · rename_i d rest hsingle hds
        have hhead : (Number.digits n.digits).head? = some d := congrArg List.head? hds
        refine .scaled d ('.' :: rest) (fun _ => hplaces) hhead fun c hc => ?_
        rcases List.mem_cons.mp hc with rfl | hc
        · exact Or.inr rfl
        · exact Or.inl (hdigits c ((congrArg (c ∈ ·) hds).mpr (List.mem_cons_of_mem d hc)))
      · rename_i hds
        exact absurd hds hne

theorem Numeral.of_mem_scientific (hc : c ∈ n.scientific) : isNumeralChar c = true ∨ c = 'e' := by
  have hplain (d : Char) (hd : d.isDigit = true ∨ d = '.') : isNumeralChar d = true := by
    rcases hd with hd | rfl
    · exact isNumeralChar_of_isDigit hd
    · decide
  have hwritten := n.written_scientific
  generalize n.scientific = cs at hc hwritten
  cases hwritten with
  | whole h =>
    rcases List.mem_append.mp hc with hc | hc
    · exact Or.inl (hplain c (of_mem_positional hc))
    · have hends : ['.', '0'].all isNumeralChar = true := by decide
      exact Or.inl (List.all_eq_true.mp hends c hc)
  | places h hpoint => exact Or.inl (hplain c (of_mem_positional hc))
  | scaled first mid hpoint hhead hmid =>
    rcases List.mem_append.mp hc with hc | hc
    · rcases List.mem_cons.mp hc with rfl | hc
      · have hdigit := Number.isDigit_of_mem_digits (List.mem_of_mem_head? hhead)
        exact Or.inl (hplain c (Or.inl hdigit))
      · exact Or.inl (hplain c (hmid c hc))
    · rcases List.mem_cons.mp hc with rfl | hc
      · exact Or.inr rfl
      · exact Or.inl (List.all_eq_true.mp (all_intText _) c hc)

/-- What is written shows a fraction or an exponent. -/
theorem Numeral.point_or_mark_mem_scientific (n : Numeral) :
    '.' ∈ n.scientific ∨ 'e' ∈ n.scientific := by
  have hwritten := n.written_scientific
  generalize n.scientific = cs at hwritten
  cases hwritten with
  | whole h => exact Or.inl (by simp)
  | places h hpoint =>
    obtain ⟨front, back, htext, -⟩ := exists_positional_eq h
    exact Or.inl (by simp [htext])
  | scaled first mid hpoint hhead hmid => exact Or.inr (by simp)

/-- With an exponent the first digit is not zero. -/
theorem Numeral.exists_scientific_eq_cons (hdigits : n.digits ≠ 0) (hmark : 'e' ∈ n.scientific) :
    ∃ d rest, n.scientific = d :: rest ∧ d.isDigit = true ∧ d ≠ '0' := by
  have hpositional : 'e' ∉ n.positional := fun hmem => by
    rcases of_mem_positional hmem with h | h <;> cases h
  have hwritten := n.written_scientific
  generalize n.scientific = cs at hmark hwritten
  cases hwritten with
  | whole h =>
    rcases List.mem_append.mp hmark with hmark | hmark
    · exact absurd hmark hpositional
    · exact absurd hmark (by decide)
  | places h hpoint => exact absurd hmark hpositional
  | scaled first mid hpoint hhead hmid =>
    refine ⟨_, _, rfl, Number.isDigit_of_mem_digits (List.mem_of_mem_head? hhead), ?_⟩
    rintro rfl
    exact Number.head?_digits_ne_zero hdigits hhead

/-- A numeral with places is written as another is shown only if it is the same one, and not too
small or too great. -/
theorem Numeral.scientific_eq_positional_iff (hn : n.exponent < 0) (hm : m.exponent < 0) :
    n.scientific = m.positional ↔ (-5 < n.point ∧ n.point ≤ 16) ∧ n = m := by
  have hwritten := n.written_scientific
  generalize n.scientific = cs at hwritten
  cases hwritten with
  | whole h => exact absurd hn (not_lt.mpr h)
  | places h hpoint =>
    refine ⟨fun htext => ⟨hpoint, positional_injective hn hm htext⟩, ?_⟩
    rintro ⟨-, rfl⟩
    rfl
  | scaled first mid hpoint hhead hmid =>
    refine iff_of_false (fun htext => ?_) fun hsame => hpoint hn hsame.1
    have hmark : 'e' ∈ m.positional := by simp [← htext]
    rcases of_mem_positional hmark with h | h <;> cases h

/-! ## The texts of a number -/

theorem scientificText_eq (hzero : ¬ x.isZero = true) :
    x.scientificText =
      if x.negative then '-' :: (x.shortest .toEven).scientific
      else (x.shortest .toEven).scientific := by
  unfold scientificText
  rw [if_neg hzero]

theorem isNaN_of_isFinite (hfinite : x.isFinite = true) : ¬ x.isNaN = true := by
  have hlt : x.magnitude < infinityField := of_decide_eq_true hfinite
  exact fun hnan => absurd hlt (of_decide_eq_true hnan).asymm

theorem positionalText_eq (hfinite : x.isFinite = true) (hzero : ¬ x.isZero = true) :
    x.positionalText =
      if x.negative then '-' :: (x.shortest .upward).positional
      else (x.shortest .upward).positional := by
  have hbounded : ¬ (!x.isFinite) = true := by
    rw [hfinite]
    decide
  unfold positionalText
  rw [if_neg (isNaN_of_isFinite hfinite), if_neg hbounded, if_neg hzero]

theorem of_mem_scientificText (hc : c ∈ x.scientificText) : isNumeralChar c = true ∨ c = 'e' := by
  have hunsigned : ∀ d ∈ if x.isZero then ['0', '.', '0'] else (x.shortest .toEven).scientific,
      isNumeralChar d = true ∨ d = 'e' := by
    split
    · have hzero : ['0', '.', '0'].all isNumeralChar = true := by decide
      exact fun d hd => Or.inl (List.all_eq_true.mp hzero d hd)
    · exact fun d hd => Numeral.of_mem_scientific hd
  unfold scientificText at hc
  extract_lets unsigned at hc
  split at hc
  · rcases List.mem_cons.mp hc with rfl | hc
    · exact Or.inl (by decide)
    · exact hunsigned c hc
  · exact hunsigned c hc

theorem point_or_mark_mem_scientificText (x : Binary64) :
    '.' ∈ x.scientificText ∨ 'e' ∈ x.scientificText := by
  have hunsigned : '.' ∈ (if x.isZero then ['0', '.', '0'] else (x.shortest .toEven).scientific) ∨
      'e' ∈ (if x.isZero then ['0', '.', '0'] else (x.shortest .toEven).scientific) := by
    split
    · decide
    · exact Numeral.point_or_mark_mem_scientific _
  unfold scientificText
  extract_lets unsigned
  split
  · exact hunsigned.imp (List.mem_cons_of_mem _) (List.mem_cons_of_mem _)
  · exact hunsigned

theorem mark_mem_of_any (h : x.scientificText.any Decimal.isExponentMark = true) :
    'e' ∈ x.scientificText := by
  obtain ⟨c, hc, hmark⟩ := List.any_eq_true.mp h
  rcases of_mem_scientificText hc with hplain | rfl
  · rw [isExponentMark_of_isNumeralChar hplain] at hmark
    cases hmark
  · exact hc

/-- With an exponent the first digit behind a minus sign is not zero. -/
theorem exists_digit_of_scientificText {rest : List Char} (hfinite : x.isFinite = true)
    (hmark : 'e' ∈ x.scientificText) (htext : x.scientificText = '-' :: rest) :
    ∃ d ∈ rest.head?, d.isDigit = true ∧ d ≠ '0' := by
  have hzero : ¬ x.isZero = true := fun hzero => by
    unfold scientificText at hmark
    rw [if_pos hzero] at hmark
    exact absurd hmark (by split <;> decide)
  have hdigits := (standsFor_shortest hfinite hzero .toEven).digits_ne_zero
  rw [scientificText_eq hzero] at hmark htext
  split at htext
  · rename_i hnegative
    rw [if_pos hnegative] at hmark
    obtain ⟨d, more, hd, hdigit⟩ :=
      Numeral.exists_scientific_eq_cons hdigits (List.mem_of_ne_of_mem (by decide) hmark)
    obtain ⟨-, hrest⟩ := List.cons.inj htext
    exact ⟨d, by rw [← hrest, hd]; rfl, hdigit⟩
  · rename_i hnegative
    rw [if_neg hnegative] at hmark
    obtain ⟨d, more, hd, hdigit, -⟩ := Numeral.exists_scientific_eq_cons hdigits hmark
    obtain ⟨rfl, -⟩ := List.cons.inj (hd.symm.trans htext)
    cases hdigit

/-- A number with a fraction is written as it is shown if it is not below 0.00001 and does not lie
midway between two shortest numerals. -/
theorem scientificText_eq_positionalText_iff (hx : x.HasFraction) :
    x.scientificText = x.positionalText ↔
      (10 : ℚ) ^ (-5 : ℤ) ≤ x.size ∧ ¬ x.TiesDown := by
  have hwritten := standsFor_shortest hx.isFinite hx.not_isZero .toEven
  have hshown := standsFor_shortest hx.isFinite hx.not_isZero .upward
  have hlow : -5 < (x.shortest .toEven).point ↔ (10 : ℚ) ^ (-5 : ℤ) ≤ x.size :=
    (Numeral.lt_point_iff hwritten.digits_ne_zero _).trans hwritten.reaches_iff
  have hhigh : (x.shortest .toEven).point ≤ 16 := by
    rw [← not_lt, Numeral.lt_point_iff hwritten.digits_ne_zero, not_le]
    exact hx.toRat_lt hwritten
  have hunsigned := Numeral.scientific_eq_positional_iff (hwritten.exponent_neg hx)
    (hshown.exponent_neg hx)
  rw [hlow, and_iff_left hhigh, and_congr_right (shortest_toEven_eq_upward_iff hx)] at hunsigned
  rw [scientificText_eq hx.not_isZero, positionalText_eq hx.isFinite hx.not_isZero, ← hunsigned]
  split
  · exact List.cons_inj_right '-'
  · exact Iff.rfl

/-! ## Numbers without a fraction -/

theorem isIntegral_iff : x.isIntegral = true ↔ x.isFinite = true ∧ ¬ x.HasFraction := by
  unfold isIntegral HasFraction
  rw [Bool.and_eq_true, beq_iff_eq, not_not]

theorem natAbs_truncate (x : Binary64) : x.truncate.natAbs = x.units / unitsPerOne := by
  unfold truncate
  extract_lets whole
  have hwhole : whole.natAbs = x.units / unitsPerOne := Int.natAbs_natCast _
  split
  · rwa [Int.natAbs_neg]
  · exact hwhole

/-- A number without a fraction is shown in digits alone, however great it is. -/
theorem of_mem_floatText (h : x.isIntegral = true) (hc : c ∈ Value.floatText x) :
    c.isDigit = true ∨ c = '-' := by
  have hfinite := (isIntegral_iff.mp h).1
  unfold Value.floatText at hc
  split at hc
  · unfold Number.intText at hc
    split at hc
    · exact (List.mem_cons.mp hc).symm.imp_left Number.isDigit_of_mem_digits
    · exact Or.inl (Number.isDigit_of_mem_digits hc)
  · rename_i hlarge
    have hwhole : Number.twoPow 63 ≤ x.units / unitsPerOne := by
      rw [← natAbs_truncate]
      exact not_lt.mp fun hlt => hlarge ⟨h, hlt⟩
    have hsize : (2 : ℚ) ^ 63 ≤ x.size := by
      rw [← Number.cast_twoPow]
      exact (Nat.cast_le.mpr hwhole).trans Nat.cast_div_le
    have hsignificand := significand_pos_of_size (lt_of_lt_of_le (by norm_num) hsize)
    have hzero : ¬ x.isZero = true := fun hzero =>
      hsignificand.ne' (significand_of_isZero hzero)
    rw [positionalText_eq hfinite hzero] at hc
    have hexponent := (standsFor_shortest hfinite hzero .upward).exponent_nonneg hsize
    split at hc
    · exact (List.mem_cons.mp hc).symm.imp_left (Numeral.isDigit_of_mem_positional hexponent)
    · exact Or.inl (Numeral.isDigit_of_mem_positional hexponent hc)

end Binary64

end TableDiff
