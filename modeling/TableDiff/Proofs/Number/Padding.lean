import Mathlib
import TableDiff.Guid
import TableDiff.Number.Digits

/-!
# Numerals of one width

With zeros in front, numbers below a power of the base have numerals of one length. Numerals of one
length are ordered as their numbers are.
-/

namespace TableDiff

/-! ## Texts of one length -/

section Texts

variable {α : Type} [LinearOrder α] {as bs xs ys : List α} {z : α}

/-- What follows does not matter where texts of one length differ. -/
theorem append_lt_append_of_lt (hlength : as.length = bs.length) (h : as < bs) :
    as ++ xs < bs ++ ys := by
  induction as generalizing bs with
  | nil =>
    rw [List.length_nil] at hlength
    rw [List.eq_nil_of_length_eq_zero hlength.symm] at h
    exact absurd h (lt_irrefl _)
  | cons a as ih =>
    cases bs with
    | nil => cases hlength
    | cons b bs =>
      rw [List.cons_append, List.cons_append, List.cons_lt_cons_iff]
      rw [List.cons_lt_cons_iff] at h
      rcases h with h | ⟨rfl, h⟩
      · exact Or.inl h
      · exact Or.inr ⟨rfl, ih (Nat.succ.inj hlength) h⟩

/-- A part of two texts that is cut from their starts decides where it differs. -/
theorem take_lt_or_drop_lt (n : Nat) (h : as < bs) :
    as.take n < bs.take n ∨ as.take n = bs.take n ∧ as.drop n < bs.drop n := by
  induction n generalizing as bs with
  | zero => exact Or.inr ⟨rfl, h⟩
  | succ n ih =>
    cases bs with
    | nil => exact absurd h (List.not_lt_nil _)
    | cons b bs =>
      cases as with
      | nil => exact Or.inl (List.nil_lt_cons b _)
      | cons a as =>
        rw [List.take_succ_cons, List.take_succ_cons, List.drop_succ_cons, List.drop_succ_cons,
          List.cons_lt_cons_iff]
        rcases List.cons_lt_cons_iff.mp h with hhead | ⟨rfl, htail⟩
        · exact Or.inl (Or.inl hhead)
        · rcases ih htail with hcut | ⟨hcut, hrest⟩
          · exact Or.inl (Or.inr ⟨rfl, hcut⟩)
          · exact Or.inr ⟨congrArg (a :: ·) hcut, hrest⟩

end Texts

/-! ## Numerals -/

namespace Number

/-- The numeral of a number to a base, with zeros in front up to a width. -/
def padded (base width n : Nat) : List Char :=
  List.replicate (width - (Nat.toDigits base n).length) '0' ++ Nat.toDigits base n

theorem paddedDigits_eq (width n : Nat) : paddedDigits width n = padded 10 width n := rfl

theorem hexDigits_eq (g : Guid) : g.hexDigits = padded 16 32 g.value := rfl

theorem digits_ne_nil (n : Nat) : digits n ≠ [] := Nat.toDigits_ne_nil

theorem paddedDigits_ne_nil (width n : Nat) : paddedDigits width n ≠ [] :=
  List.append_ne_nil_of_right_ne_nil _ (digits_ne_nil n)

variable {b w m n : Nat}

theorem padded_of_lt (hn : n < b) : padded b (w + 1) n = List.replicate w '0' ++ [n.digitChar] := by
  rw [padded, Nat.toDigits_of_lt_base hn]
  rfl

/-- The last digit of a numeral is the remainder by the base. -/
theorem padded_succ (hb : 1 < b) (hw : 0 < w) :
    padded b (w + 1) n = padded b w (n / b) ++ [(n % b).digitChar] := by
  by_cases hn : n < b
  · obtain ⟨v, rfl⟩ : ∃ v, w = v + 1 := ⟨w - 1, by omega⟩
    rw [padded_of_lt hn, Nat.div_eq_of_lt hn, Nat.mod_eq_of_lt hn, padded_of_lt (by omega),
      List.replicate_succ']
    rfl
  · rw [padded, padded, Nat.toDigits_eq_if hb, if_neg hn, List.length_append, List.length_singleton,
      Nat.add_sub_add_right, List.append_assoc]

theorem length_padded (hb : 1 < b) (hw : 0 < w) (hn : n < b ^ w) : (padded b w n).length = w := by
  induction w, hw using Nat.le_induction generalizing n with
  | base =>
    rw [padded_of_lt (by simpa using hn)]
    rfl
  | succ w hw ih =>
    have hquotient : n / b < b ^ w := Nat.div_lt_of_lt_mul (by rwa [pow_succ'] at hn)
    rw [padded_succ hb hw, List.length_append, ih hquotient, List.length_singleton]

/-- A numeral is written with the digits of its base. -/
theorem exists_of_mem_padded (hb : 1 < b) (hw : 0 < w) (hn : n < b ^ w) {c : Char}
    (hc : c ∈ padded b w n) : ∃ d < b, c = d.digitChar := by
  induction w, hw using Nat.le_induction generalizing n with
  | base =>
    have hn : n < b := by simpa using hn
    rw [padded_of_lt hn] at hc
    exact ⟨n, hn, by simpa using hc⟩
  | succ w hw ih =>
    have hquotient : n / b < b ^ w := Nat.div_lt_of_lt_mul (by rwa [pow_succ'] at hn)
    rw [padded_succ hb hw, List.mem_append, List.mem_singleton] at hc
    rcases hc with hc | hc
    · exact ih hquotient hc
    · exact ⟨n % b, Nat.mod_lt n (by omega), hc⟩

theorem digitChar_lt (hmn : m < n) (hn : n < 16) : m.digitChar < n.digitChar := by
  have hall : ∀ n < 16, ∀ m < n, m.digitChar < n.digitChar := by decide
  exact hall n hn m hmn

/-- Numerals of one width are ordered as the numbers are. -/
theorem padded_lt_padded (hb : 1 < b) (hb16 : b ≤ 16) (hw : 0 < w) (hmn : m < n) (hn : n < b ^ w) :
    padded b w m < padded b w n := by
  induction w, hw using Nat.le_induction generalizing m n with
  | base =>
    have hn : n < b := by simpa using hn
    rw [padded_of_lt (by omega), padded_of_lt hn]
    exact List.cons_lt_cons_iff.mpr (Or.inl (digitChar_lt hmn (by omega)))
  | succ w hw ih =>
    have hquotient : n / b < b ^ w := Nat.div_lt_of_lt_mul (by rwa [pow_succ'] at hn)
    have hle : m / b ≤ n / b := Nat.div_le_div_right hmn.le
    rw [padded_succ hb hw, padded_succ hb hw]
    -- The quotients decide, and where they are equal the remainders do.
    rcases hle.lt_or_eq with hlt | heq
    · apply append_lt_append_of_lt _ (ih hlt hquotient)
      rw [length_padded hb hw hquotient, length_padded hb hw (hlt.trans hquotient)]
    · have hdigit : m % b < n % b := by
        have hm := Nat.div_add_mod m b
        have hn := Nat.div_add_mod n b
        rw [heq] at hm
        omega
      rw [heq]
      apply List.append_left_lt
      exact List.cons_lt_cons_iff.mpr (Or.inl (digitChar_lt hdigit
        ((Nat.mod_lt n (by omega)).trans_le hb16)))

/-- A factor of the base is a zero at the end. -/
theorem padded_mul_pow (hb : 1 < b) (hw : 0 < w) (k : Nat) :
    padded b (w + k) (n * b ^ k) = padded b w n ++ List.replicate k '0' := by
  induction k with
  | zero => simp
  | succ k ih =>
    have hquotient : n * b ^ (k + 1) / b = n * b ^ k := by
      rw [pow_succ, ← mul_assoc, Nat.mul_div_cancel _ (by omega)]
    have hremainder : n * b ^ (k + 1) % b = 0 := by
      rw [pow_succ, ← mul_assoc, Nat.mul_mod_left]
    rw [← Nat.add_assoc, padded_succ hb (by omega), hquotient, hremainder, ih, List.append_assoc,
      List.replicate_succ']
    rfl

theorem ofDigits_append_replicate_zero (ds : List Char) (k : Nat) :
    ofDigits (ds ++ List.replicate k '0') = ofDigits ds * tenPow k := by
  unfold ofDigits
  rw [Nat.ofDigitChars_append, Nat.ofDigitChars_replicate_zero, Nat.mul_comm]
  rfl

end Number

theorem Guid.length_hexDigits (g : Guid) : g.hexDigits.length = 32 := by
  rw [Number.hexDigits_eq]
  exact Number.length_padded (by omega) (by omega) g.value_lt

end TableDiff
