import Mathlib
import TableDiff.Filter.Glob
import TableDiff.Name

/-!
# Globs, item by item

A glob is matched against all suffixes of a text at once. What comes out for the whole text is what
the items say of it, one after the other. A text without wildcards matches the names that differ
from it at most in case.
-/

namespace TableDiff

/-! ## Letters -/

namespace Text

/-- A text of ASCII characters. -/
def IsAscii (cs : List Char) : Prop := ∀ c ∈ cs, c.toNat < 0x80

-- Through the characters of the text; to search all characters would not end.
instance (cs : List Char) : Decidable (IsAscii cs) := List.decidableBAll _ cs

/-- What holds of the characters before a bound, code point by code point. -/
theorem forall_of_lt {P : Char → Prop} {bound : Nat} (h : ∀ n < bound, P (Char.ofNat n)) {c : Char}
    (hc : c.toNat < bound) : P c := by
  have hcode := h c.toNat hc
  rwa [Char.ofNat_toNat] at hcode

/-- Folding is upper-casing in the ASCII range. -/
theorem foldChar_of_ascii {c : Char} (h : c.toNat < 0x80) : foldChar c = c.toUpper :=
  forall_of_lt (P := fun c => foldChar c = c.toUpper) (by decide +kernel) h

theorem sameLetter_of_ascii {a b : Char} (ha : a.toNat < 0x80) (hb : b.toNat < 0x80) :
    sameLetter a b = (a.toLower == b.toLower) := by
  unfold sameLetter
  rw [foldChar_of_ascii ha, foldChar_of_ascii hb, Bool.eq_iff_iff, beq_iff_eq, beq_iff_eq]
  -- Either case of a letter determines the other one.
  constructor
  · intro h
    rw [← Char.toLower_toUpper_eq_toLower a, h, Char.toLower_toUpper_eq_toLower]
  · intro h
    rw [← Char.toUpper_toLower_eq_toUpper a, h, Char.toUpper_toLower_eq_toUpper]

/-- A run maps the code points that it holds, and all others stay. -/
theorem mapByRuns_eq_or (code : Nat) (runs : List Run) :
    mapByRuns code runs = code ∨
      ∃ r ∈ runs, r.first ≤ code ∧ code ≤ r.last ∧
        mapByRuns code runs = (code + r.shift).toNat := by
  induction runs with
  | nil => exact .inl rfl
  | cons r runs ih =>
    unfold mapByRuns
    split
    · exact .inl rfl
    · split
      · rename_i hfirst hrun
        exact .inr ⟨r, List.mem_cons_self, by omega, hrun.1, rfl⟩
      · rcases ih with h | ⟨s, hs, h⟩
        · exact .inl h
        · exact .inr ⟨s, List.mem_cons_of_mem r hs, h⟩

/-- Folding takes characters from `A` on to characters from `A` on. -/
theorem foldRuns_bounds : ∀ r ∈ foldRuns, 0x41 ≤ r.first ∧ 0x41 ≤ r.first + r.shift ∧
    (r.last + r.shift < 0xD800 ∨ 0xE000 ≤ r.first + r.shift ∧ r.last + r.shift < 0x110000) := by
  decide +kernel

theorem toNat_foldChar (c : Char) : (foldChar c).toNat = mapByRuns c.toNat foldRuns := by
  have hvalid : (mapByRuns c.toNat foldRuns).isValidChar := by
    rcases mapByRuns_eq_or c.toNat foldRuns with h | ⟨r, hr, hfirst, hlast, h⟩
    · rw [h]
      exact c.valid
    · have hbounds := foldRuns_bounds r hr
      unfold Nat.isValidChar
      omega
  unfold foldChar
  rw [Char.toNat_ofNat, if_pos hvalid]

/-- Characters before `A` are folded to themselves, and no other character is folded to them. -/
theorem foldChar_eq_iff_of_lt {c x : Char} (hx : x.toNat < 0x41) : foldChar c = x ↔ c = x := by
  rw [← Char.toNat_inj, toNat_foldChar, ← Char.toNat_inj]
  rcases mapByRuns_eq_or c.toNat foldRuns with h | ⟨r, hr, hfirst, -, h⟩
  · rw [h]
  · have hbounds := foldRuns_bounds r hr
    omega

theorem sameLetter_iff_eq_of_lt {a c : Char} (ha : a.toNat < 0x41) :
    sameLetter a c = true ↔ a = c := by
  have hself : foldChar a = a := (foldChar_eq_iff_of_lt ha).mpr rfl
  unfold sameLetter
  rw [hself, beq_iff_eq, eq_comm, foldChar_eq_iff_of_lt ha, eq_comm]

end Text

/-! ## Items -/

namespace Glob

variable (item : GlobItem) (glob : Glob) (c : Char) (cs : List Char)

theorem suffixMatches_cons_item :
    suffixMatches (item :: glob) cs = prepend item cs (suffixMatches glob cs) := rfl

/-- The first of the answers is the one for the text, and the others are those for its rest. -/
theorem suffixMatches_cons :
    suffixMatches glob (c :: cs) = isMatch glob (c :: cs) :: suffixMatches glob cs := by
  -- On the items, as an item is put in front of the answers for those behind it.
  induction glob with
  | nil => rfl
  | cons item glob ih =>
    unfold isMatch
    rw [suffixMatches_cons_item, ih]
    rfl

theorem suffixMatches_nil : suffixMatches glob [] = [isMatch glob []] := by
  induction glob with
  | nil => rfl
  | cons item glob ih =>
    unfold isMatch
    rw [suffixMatches_cons_item, ih]
    cases item <;> rfl

@[simp] theorem isMatch_nil_nil : isMatch [] [] = true := rfl

@[simp] theorem isMatch_nil_cons : isMatch [] (c :: cs) = false := rfl

@[simp] theorem isMatch_letter_nil (a : Char) : isMatch (.letter a :: glob) [] = false := by
  unfold isMatch
  rw [suffixMatches_cons_item, suffixMatches_nil]
  rfl

@[simp] theorem isMatch_letter_cons (a : Char) :
    isMatch (.letter a :: glob) (c :: cs) = (Text.sameLetter a c && isMatch glob cs) := by
  unfold isMatch
  rw [suffixMatches_cons_item, suffixMatches_cons]
  rfl

@[simp] theorem isMatch_anyOne_nil : isMatch (.anyOne :: glob) [] = false := by
  unfold isMatch
  rw [suffixMatches_cons_item, suffixMatches_nil]
  rfl

@[simp] theorem isMatch_anyOne_cons :
    isMatch (.anyOne :: glob) (c :: cs) = (decide (c ≠ '\n') && isMatch glob cs) := by
  unfold isMatch
  rw [suffixMatches_cons_item, suffixMatches_cons]
  rfl

theorem isMatch_anyRun_nil : isMatch (.anyRun :: glob) [] = isMatch glob [] := by
  unfold isMatch
  rw [suffixMatches_cons_item, suffixMatches_nil]
  rfl

theorem isMatch_anyRun_cons :
    isMatch (.anyRun :: glob) (c :: cs) =
      (isMatch glob (c :: cs) || (decide (c ≠ '\n') && isMatch (.anyRun :: glob) cs)) := by
  unfold isMatch
  rw [suffixMatches_cons_item, suffixMatches_cons]
  rfl

/-- A run takes any characters of one line from the start of a text. -/
theorem isMatch_anyRun_iff :
    isMatch (.anyRun :: glob) cs = true ↔
      ∃ run rest, cs = run ++ rest ∧ '\n' ∉ run ∧ isMatch glob rest = true := by
  induction cs with
  | nil => simp [isMatch_anyRun_nil]
  | cons c cs ih =>
    rw [isMatch_anyRun_cons, Bool.or_eq_true, Bool.and_eq_true, decide_eq_true_eq, ih]
    constructor
    · rintro (hhere | ⟨hc, run, rest, rfl, hrun, hrest⟩)
      · exact ⟨[], c :: cs, rfl, by simp, hhere⟩
      · exact ⟨c :: run, rest, rfl, by simp [hrun, Ne.symm hc], hrest⟩
    · rintro ⟨run, rest, hcs, hrun, hrest⟩
      cases run with
      | nil => exact .inl (by rwa [hcs])
      | cons d run =>
        obtain ⟨rfl, htail⟩ := List.cons.inj hcs
        rw [List.mem_cons, not_or] at hrun
        exact .inr ⟨Ne.symm hrun.1, run, rest, htail, hrun.2, hrest⟩

theorem isMatch_anyOne_iff :
    isMatch (.anyOne :: glob) cs = true ↔
      ∃ c rest, cs = c :: rest ∧ c ≠ '\n' ∧ isMatch glob rest = true := by
  cases cs <;> simp

theorem isMatch_letter_iff (a : Char) :
    isMatch (.letter a :: glob) cs = true ↔
      ∃ c rest, cs = c :: rest ∧ Text.sameLetter a c = true ∧ isMatch glob rest = true := by
  cases cs <;> simp

theorem isMatch_nil_iff : isMatch [] cs = true ↔ cs = [] := by
  cases cs <;> simp

/-- The texts that an item may stand for. -/
def Takes : GlobItem → List Char → Prop
  | .anyRun, taken => '\n' ∉ taken
  | .anyOne, taken => ∃ c, taken = [c] ∧ c ≠ '\n'
  | .letter a, taken => ∃ c, taken = [c] ∧ Text.sameLetter a c = true

/-- The items of a glob take their parts of a text one after the other. -/
theorem isMatch_cons_iff :
    isMatch (item :: glob) cs = true ↔
      ∃ taken rest, cs = taken ++ rest ∧ Takes item taken ∧ isMatch glob rest = true := by
  cases item with
  | anyRun => exact isMatch_anyRun_iff glob cs
  | anyOne =>
    rw [isMatch_anyOne_iff]
    constructor
    · rintro ⟨c, rest, rfl, hc, hrest⟩
      exact ⟨[c], rest, rfl, ⟨c, rfl, hc⟩, hrest⟩
    · rintro ⟨_, rest, rfl, ⟨c, rfl, hc⟩, hrest⟩
      exact ⟨c, rest, rfl, hc, hrest⟩
  | letter a =>
    rw [isMatch_letter_iff]
    constructor
    · rintro ⟨c, rest, rfl, hc, hrest⟩
      exact ⟨[c], rest, rfl, ⟨c, rfl, hc⟩, hrest⟩
    · rintro ⟨_, rest, rfl, ⟨c, rfl, hc⟩, hrest⟩
      exact ⟨c, rest, rfl, hc, hrest⟩

/-- A glob in two parts matches the texts in two parts that these match. -/
theorem isMatch_append_iff (more : Glob) :
    isMatch (glob ++ more) cs = true ↔
      ∃ l r, cs = l ++ r ∧ isMatch glob l = true ∧ isMatch more r = true := by
  induction glob generalizing cs with
  | nil => simp [isMatch_nil_iff]
  | cons item glob ih =>
    rw [List.cons_append, isMatch_cons_iff]
    constructor
    · rintro ⟨taken, rest, rfl, htaken, hrest⟩
      obtain ⟨l, r, rfl, hl, hr⟩ := (ih rest).mp hrest
      exact ⟨taken ++ l, r, (List.append_assoc ..).symm,
        (isMatch_cons_iff item glob _).mpr ⟨taken, l, rfl, htaken, hl⟩, hr⟩
    · rintro ⟨l, r, rfl, hl, hr⟩
      obtain ⟨taken, rest, rfl, htaken, hrest⟩ := (isMatch_cons_iff item glob l).mp hl
      exact ⟨taken, rest ++ r, List.append_assoc .., htaken, (ih _).mpr ⟨rest, r, rfl, hrest, hr⟩⟩

/-- A text matches itself: a wildcard may stand for the character that it is written with. -/
theorem isMatch_ofText_self : isMatch (ofText cs) cs = true := by
  induction cs with
  | nil => rfl
  | cons c cs ih =>
    by_cases hstar : c = '*'
    · subst hstar
      exact (isMatch_anyRun_iff _ _).mpr ⟨['*'], cs, rfl, by decide, ih⟩
    by_cases hmark : c = '?'
    · subst hmark
      exact (isMatch_anyOne_iff _ _).mpr ⟨'?', cs, rfl, by decide, ih⟩
    have hletter : ofText (c :: cs) = .letter c :: ofText cs := by simp [ofText, hstar, hmark]
    rw [hletter]
    exact (isMatch_letter_iff _ _ c).mpr ⟨c, cs, rfl, beq_self_eq_true _, ih⟩

/-! ## Texts without wildcards -/

theorem ofText_of_literal {cs : List Char} (h : ∀ c ∈ cs, c ≠ '*' ∧ c ≠ '?') :
    ofText cs = cs.map .letter := by
  unfold ofText
  apply List.map_congr_left
  intro c hc
  rw [if_neg (h c hc).1, if_neg (h c hc).2]

/-- A text of ASCII letters matches the texts that differ from it at most in case. -/
theorem isMatch_map_letter {cs ds : List Char} (hcs : ∀ c ∈ cs, c.toNat < 0x80)
    (hds : ∀ d ∈ ds, d.toNat < 0x80) :
    isMatch (cs.map .letter) ds = (Text.lowerAscii ds == Text.lowerAscii cs) := by
  induction cs generalizing ds with
  | nil =>
    cases ds with
    | nil => exact isMatch_nil_nil
    | cons d ds => exact isMatch_nil_cons d ds
  | cons c cs ih =>
    cases ds with
    | nil => exact isMatch_letter_nil _ c
    | cons d ds =>
      obtain ⟨hc, hcs⟩ := List.forall_mem_cons.mp hcs
      obtain ⟨hd, hds⟩ := List.forall_mem_cons.mp hds
      rw [List.map_cons, isMatch_letter_cons, Text.sameLetter_of_ascii hc hd, ih hcs hds]
      show _ = (d.toLower :: Text.lowerAscii ds == c.toLower :: Text.lowerAscii cs)
      rw [List.cons_beq_cons, Bool.beq_comm]

end Glob

end TableDiff
