import TableDiff.Proofs.Calendar.Writing
import TableDiff.Proofs.Number.Notation
import TableDiff.Value

/-!
# The characters of numbers and dates

Integers, decimal numbers, dates and times of day are written in digits and a few marks, none of
which is a blank or a letter.
-/

namespace TableDiff

open Number (paddedDigits)

/-- The characters with which numbers, dates and times of day are written. -/
def isNumeralChar (c : Char) : Bool := c.isDigit || c == '-' || c == '+' || c == '.' || c == ':'

theorem isNumeralChar_of_isDigit {c : Char} (h : c.isDigit = true) : isNumeralChar c = true := by
  simp [isNumeralChar, h]

/-- What holds of digits and of the marks holds of all these characters. -/
theorem of_isNumeralChar {P : Char → Prop} (hdigit : ∀ c : Char, c.isDigit = true → P c)
    (hmarks : P '-' ∧ P '+' ∧ P '.' ∧ P ':') {c : Char} (h : isNumeralChar c = true) : P c := by
  obtain ⟨hminus, hplus, hpoint, hcolon⟩ := hmarks
  simp only [isNumeralChar, Bool.or_eq_true, beq_iff_eq] at h
  rcases h with (((h | rfl) | rfl) | rfl) | rfl
  · exact hdigit c h
  · exact hminus
  · exact hplus
  · exact hpoint
  · exact hcolon

theorem isBlank_of_isNumeralChar {c : Char} (h : isNumeralChar c = true) :
    Text.isBlank c = false :=
  of_isNumeralChar (fun _ => Text.isBlank_of_isDigit) (by decide) h

theorem isExponentMark_of_isNumeralChar {c : Char} (h : isNumeralChar c = true) :
    Decimal.isExponentMark c = false :=
  of_isNumeralChar (fun _ => Decimal.isExponentMark_of_isDigit) (by decide) h

theorem all_digits (n : Nat) : (Number.digits n).all isNumeralChar = true :=
  List.all_eq_true.mpr fun _ h => isNumeralChar_of_isDigit (Number.isDigit_of_mem_digits h)

theorem all_paddedDigits (width n : Nat) : (paddedDigits width n).all isNumeralChar = true :=
  List.all_eq_true.mpr fun _ h => isNumeralChar_of_isDigit (Number.isDigit_of_mem_paddedDigits h)

theorem all_intText (i : Int) : (Number.intText i).all isNumeralChar = true := by
  unfold Number.intText
  split
  · rw [List.all_cons, all_digits]
    decide
  · exact all_digits _

theorem all_decimalText (d : Decimal) : d.text.all isNumeralChar = true := by
  have hds := all_paddedDigits (d.scale + 1) d.mantissa
  have hpoint : ∀ (ds : List Char) (k : Nat), ds.all isNumeralChar = true →
      (ds.take k ++ '.' :: ds.drop k).all isNumeralChar = true := by
    intro ds k h
    rw [← List.take_append_drop k ds, List.all_append, Bool.and_eq_true] at h
    rw [List.all_append, List.all_cons, h.1, h.2]
    decide
  have hminus : isNumeralChar '-' = true := by decide
  unfold Decimal.text
  dsimp only
  split <;> split
  · rw [List.all_cons, hminus, hds]
    rfl
  · rw [List.all_cons, hminus, hpoint _ _ hds]
    rfl
  · exact hds
  · exact hpoint _ _ hds

theorem all_dateText (d : Date) : d.text.all isNumeralChar = true := by
  have hyear : (Date.yearText d.year).all isNumeralChar = true := by
    unfold Date.yearText
    split
    · exact all_paddedDigits ..
    · rw [List.all_cons, all_paddedDigits]
      split <;> decide
  unfold Date.text
  simp only [List.all_append, List.all_cons, hyear, all_paddedDigits]
  decide

theorem all_timeText (t : TimeOfDay) : t.text.all isNumeralChar = true := by
  have hfraction : t.fractionText.all isNumeralChar = true := by
    unfold TimeOfDay.fractionText
    dsimp only
    split
    · rfl
    · split
      · rw [List.all_cons, all_paddedDigits]
        decide
      · split <;> rw [List.all_cons, all_paddedDigits] <;> decide
  unfold TimeOfDay.text
  simp only [List.all_append, List.all_cons, hfraction, all_paddedDigits]
  decide

end TableDiff
