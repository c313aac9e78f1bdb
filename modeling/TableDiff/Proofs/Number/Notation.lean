import Mathlib
import TableDiff.Value.Reading

/-!
# The texts of numbers, words and identifiers

What the texts that are read as numbers, truth values and identifiers look like, as far as it tells
them from the texts of dates and times. None of them has a colon in it, except that a decimal number
may end in anything behind its last place and an identifier may have a prefix.
-/

namespace TableDiff

/-- What comes of two steps comes of both. -/
theorem exists_of_bind_eq_ok {ε α β : Type} {r : Except ε α} {f : α → Except ε β} {b : β}
    (h : r >>= f = .ok b) : ∃ a, r = .ok a ∧ f a = .ok b := by
  cases r with
  | error e => cases h
  | ok a => exact ⟨a, rfl, h⟩

/-! ## Integers -/

namespace Number

theorem isDigit_of_readMagnitude {limit acc n : Nat} {overflow : IntegerError} {cs : List Char}
    (h : readMagnitude limit overflow acc cs = .ok n) : ∀ c ∈ cs, c.isDigit = true := by
  induction cs generalizing acc with
  | nil => simp
  | cons d ds ih =>
    unfold readMagnitude at h
    split at h
    · rename_i hd
      dsimp only at h
      split at h
      · exact List.forall_mem_cons.mpr ⟨hd, ih h⟩
      · cases h
    · cases h

theorem isDigit_of_readUnsigned {limit n : Nat} {overflow : IntegerError} {cs : List Char}
    (h : readUnsigned limit overflow cs = .ok n) : ∀ c ∈ cs, c.isDigit = true := by
  unfold readUnsigned at h
  split at h
  · cases h
  · exact isDigit_of_readMagnitude h

/-- An integer is written in digits, perhaps behind a sign. -/
theorem isDigit_or_sign_of_readInteger {cs : List Char} {i : Int64} (h : readInteger cs = .ok i) :
    ∀ c ∈ cs, c.isDigit = true ∨ c = '-' ∨ c = '+' := by
  have hdigits : ∀ {limit overflow} {ds : List Char} {f : Nat → Int64},
      (readUnsigned limit overflow ds >>= fun n => .ok (f n)) = Except.ok i →
        ∀ c ∈ ds, c.isDigit = true := by
    intro limit overflow ds f hds
    obtain ⟨n, hn, -⟩ := exists_of_bind_eq_ok hds
    exact isDigit_of_readUnsigned hn
  unfold readInteger at h
  split at h
  · cases h
  · exact List.forall_mem_cons.mpr ⟨by simp, fun c hc => .inl (hdigits h c hc)⟩
  · exact List.forall_mem_cons.mpr ⟨by simp, fun c hc => .inl (hdigits h c hc)⟩
  · exact fun c hc => .inl (hdigits h c hc)

end Number

/-! ## Binary numbers -/

theorem not_mem_of_all_isDigit {ds : List Char} {c : Char} (hc : c.isDigit = false)
    (h : ∀ d ∈ ds, d.isDigit = true) : c ∉ ds := fun hmem => by
  simp [h c hmem] at hc

namespace Binary64

theorem colon_not_mem_of_readExponent? {cs : List Char} {n : Int} (h : readExponent? cs = some n) :
    ':' ∉ cs := by
  -- The exponent is the mark, perhaps a sign, and digits.
  have hdigits : ∀ {negative : Bool} {ds : List Char},
      (if ds ≠ [] ∧ ds.all Char.isDigit then
        some (if negative then -(Number.ofDigits ds : Int) else Number.ofDigits ds) else none) =
          some n → ':' ∉ ds := by
    intro negative ds hds
    split at hds
    · rename_i hall
      exact not_mem_of_all_isDigit (by decide) (List.all_eq_true.mp hall.2)
    · cases hds
  unfold readExponent? at h
  split at h
  · simp
  · rename_i c rest
    split at h
    · rename_i hmark
      have hc : ':' ≠ c := by rintro rfl; revert hmark; decide
      split at h
      rename_i negative ds hsigned
      have hds : ':' ∉ ds := hdigits h
      split at hsigned <;> cases hsigned <;> simp [hc, hds]
    · cases h

theorem colon_not_mem_of_readUnsigned? {negative : Bool} {cs : List Char} {x : Binary64}
    (h : readUnsigned? negative cs = some x) : ':' ∉ cs := by
  have hdigits : ∀ ds : List Char, ':' ∉ ds.takeWhile Char.isDigit := fun ds =>
    not_mem_of_all_isDigit (by decide) fun _ => List.mem_takeWhile_imp
  unfold readUnsigned? at h
  extract_lets whole at h
  split at h
  rename_i fraction rest hparts
  split at h
  · -- A name stands in place of digits.
    have hname : ∀ name : List Char, ':' ∉ name → cs.map Char.toLower = name → ':' ∉ cs := by
      rintro name hcolon rfl hmem
      exact hcolon (List.mem_map.mpr ⟨':', hmem, by decide⟩)
    split at h
    · rename_i hinf
      exact hinf.elim (hname _ (by decide)) (hname _ (by decide))
    · split at h
      · rename_i hnan
        exact hname _ (by decide) hnan
      · cases h
  · obtain ⟨exponent, hexponent, -⟩ := Option.bind_eq_some_iff.mp h
    have hrest := colon_not_mem_of_readExponent? hexponent
    rw [← List.takeWhile_append_dropWhile (p := Char.isDigit) (l := cs), List.mem_append]
    refine not_or.mpr ⟨hdigits cs, ?_⟩
    split at hparts
    · rename_i more hmore
      cases hparts
      rw [hmore, List.mem_cons, ← List.takeWhile_append_dropWhile (p := Char.isDigit) (l := more),
        List.mem_append]
      simp [hdigits more, hrest]
    · rename_i hmore
      cases hparts
      exact hrest

/-- A binary number has no colon. -/
theorem colon_not_mem_of_read {cs : List Char} {x : Binary64} (h : read cs = .ok x) :
    ':' ∉ cs := by
  unfold read at h
  dsimp only at h
  split at h
  · cases h
  · rename_i y hnumber
    split at hnumber
    · simpa using colon_not_mem_of_readUnsigned? hnumber
    · simpa using colon_not_mem_of_readUnsigned? hnumber
    · exact colon_not_mem_of_readUnsigned? hnumber
  · cases h

end Binary64

/-! ## Decimal numbers -/

namespace Decimal

/-- Before the point a decimal number consists of digits and separators. -/
theorem readFrom_of_cons {p : Progress} {c : Char} {rest : List Char} {d : Decimal}
    (hp : p.hasPoint = false) (hc : c ≠ '.') (h : readFrom p (c :: rest) = .ok d) :
    (c.isDigit = true ∨ c = '_') ∧
      ∃ q : Progress, q.hasPoint = false ∧ readFrom q rest = .ok d := by
  unfold readFrom at h
  simp only [hp, hc, Bool.false_eq_true, if_false, false_and] at h
  split at h
  · rename_i hdigit
    refine ⟨.inl hdigit, ?_⟩
    split at h
    · cases h
    · cases rest with
      | nil => exact ⟨_, rfl, h⟩
      | cons e more => exact ⟨_, rfl, h⟩
  · split at h
    · rename_i hseparator
      exact ⟨.inr hseparator.1, p, hp, h⟩
    · cases h

/-- So a character that is neither has a point before it. -/
theorem digit_or_separator_of_readFrom {pre post : List Char} {m : Char} {p : Progress}
    {d : Decimal} (hp : p.hasPoint = false) (hpoint : '.' ∉ pre) (hm : m ≠ '.')
    (h : readFrom p (pre ++ m :: post) = .ok d) : m.isDigit = true ∨ m = '_' := by
  induction pre generalizing p with
  | nil => exact (readFrom_of_cons hp hm h).1
  | cons c pre ih =>
    have hc : c ≠ '.' := fun heq => hpoint (heq ▸ List.mem_cons_self)
    obtain ⟨-, q, hq, hrest⟩ := readFrom_of_cons hp hc h
    exact ih hq (fun hmem => hpoint (List.mem_cons_of_mem c hmem)) hrest

theorem digit_or_separator_of_readPositional {pre post : List Char} {m : Char} {d : Decimal}
    (hpre : pre ≠ []) (hpoint : '.' ∉ pre) (hm : m ≠ '.')
    (h : readPositional (pre ++ m :: post) = .ok d) : m.isDigit = true ∨ m = '_' := by
  obtain ⟨c, pre, rfl⟩ := List.exists_cons_of_ne_nil hpre
  have hrest : '.' ∉ pre := fun hmem => hpoint (List.mem_cons_of_mem c hmem)
  unfold readPositional at h
  split at h
  · cases h
  · rename_i heq
    cases heq
    exact digit_or_separator_of_readFrom rfl hrest hm h
  · rename_i heq
    cases heq
    exact digit_or_separator_of_readFrom rfl hrest hm h
  · exact digit_or_separator_of_readFrom rfl hpoint hm h

theorem isExponentMark_of_isDigit {c : Char} (hc : c.isDigit = true) :
    isExponentMark c = false := by
  rw [Bool.eq_false_iff]
  intro hmark
  have hletter : c = 'e' ∨ c = 'E' := by simpa [isExponentMark] using hmark
  rcases hletter with rfl | rfl <;> cases hc

theorem exists_exponentMark_of_readScientific {cs : List Char} {d : Decimal}
    (h : readScientific cs = .ok d) : ∃ c ∈ cs, isExponentMark c = true := by
  unfold readScientific at h
  split at h
  · cases h
  · rename_i c exponent hdrop
    have hc : c ∈ cs := (List.dropWhile_suffix _).subset (hdrop ▸ List.mem_cons_self)
    refine ⟨c, hc, ?_⟩
    have hhead := List.head_dropWhile_not (fun c => !isExponentMark c)
      (show cs.dropWhile _ ≠ [] by simp [hdrop])
    simpa [hdrop] using hhead

end Decimal

/-- A text that is read in either notation is read in the one that its exponent mark selects. -/
theorem Value.readDecimal_eq_ok_iff {cs : List Char} {d : Decimal} :
    readDecimal cs = .ok d ↔ Decimal.read cs = .ok d := by
  unfold readDecimal
  cases hread : Decimal.read cs with
  | ok e => exact Iff.rfl
  | error cause =>
    refine iff_of_false (fun hok => ?_) (by simp)
    have hscientific : Decimal.readScientific cs = .ok d := hok
    have hmark : cs.any Decimal.isExponentMark = true :=
      List.any_eq_true.mpr (Decimal.exists_exponentMark_of_readScientific hscientific)
    unfold Decimal.read at hread
    rw [if_pos hmark, hscientific] at hread
    cases hread

/-- A decimal number has an exponent mark or is written in positional notation. -/
theorem Value.readPositional_of_readDecimal {cs : List Char} {d : Decimal}
    (h : readDecimal cs = .ok d) :
    (∃ c ∈ cs, Decimal.isExponentMark c = true) ∨ Decimal.readPositional cs = .ok d := by
  rw [readDecimal_eq_ok_iff] at h
  unfold Decimal.read at h
  split at h
  · exact .inl (Decimal.exists_exponentMark_of_readScientific h)
  · exact .inr h

/-! ## Truth values -/

/-- No word for a truth value has a colon. -/
theorem Value.colon_not_mem_of_readBoolean? {cs : List Char} {b : Bool}
    (h : readBoolean? cs = some b) : ':' ∉ cs := by
  obtain ⟨word, hword, heq⟩ := List.lookup_isSome_iff.mp (Option.isSome_of_eq_some h)
  have hcolon : ∀ word ∈ truthWords, ':' ∉ word.1.toList := by decide
  intro hmem
  refine hcolon word hword ?_
  rw [← beq_iff_eq.mp heq, String.toList_ofList]
  exact List.mem_map.mpr ⟨':', hmem, by decide⟩

/-! ## Identifiers -/

namespace Guid

theorem length_le_byteLength (cs : List Char) : cs.length ≤ byteLength cs := by
  have hfrom : ∀ n, n + cs.length ≤ cs.foldl (fun n c => n + c.utf8Size) n := by
    induction cs with
    | nil => simp
    | cons c cs ih =>
      intro n
      have hc := c.utf8Size_pos
      have hrest := ih (n + c.utf8Size)
      simp only [List.length_cons, List.foldl_cons]
      omega
  have hzero := hfrom 0
  unfold byteLength
  omega

theorem flatten_splitGroups (lengths : List Nat) (cs : List Char) :
    (splitGroups lengths cs).flatten = cs.take lengths.sum := by
  induction lengths generalizing cs with
  | nil => simp [splitGroups]
  | cons n lengths ih =>
    simp only [splitGroups, List.flatten_cons, ih, List.sum_cons]
    rw [List.take_add]

theorem colon_not_mem_of_ofHex? {cs : List Char} {n : Nat} (h : Number.ofHex? cs = some n) :
    ':' ∉ cs := by
  unfold Number.ofHex? at h
  generalize 0 = acc at h
  induction cs generalizing acc with
  | nil => simp
  | cons c cs ih =>
    rw [List.foldlM_cons] at h
    obtain ⟨next, hnext, hrest⟩ := Option.bind_eq_some_iff.mp h
    have hc : ':' ≠ c := by
      rintro rfl
      cases hnext
    exact List.not_mem_cons_of_ne_of_not_mem hc (ih next hrest)

/-- The groups of an identifier are joined by hyphens only. -/
theorem mem_of_ungroup? {cs ds : List Char} (hlength : cs.length ≤ 36) (h : ungroup? cs = some ds)
    {c : Char} (hc : c ∈ cs) : c ∈ ds ∨ c = '-' := by
  have hflatten := flatten_splitGroups [8, 1, 4, 1, 4, 1, 4, 1, 12] cs
  rw [List.take_of_length_le (by simpa using hlength)] at hflatten
  unfold ungroup? at h
  split at h
  · rename_i hgroups
    cases h
    rw [← hflatten, hgroups] at hc
    simp at hc ⊢
    tauto
  · cases h

/-- An identifier without a prefix has no colon. -/
theorem colon_not_mem_of_read {cs : List Char} {g : Guid} (hurn : dropUrn? cs = none)
    (h : read cs = .ok g) : ':' ∉ cs := by
  have hbody : (if byteLength cs = 45 then (dropUrn? cs).getD cs else cs) = cs := by
    rw [hurn]
    exact ite_self cs
  unfold read at h
  dsimp only at h
  rw [hbody] at h
  split at h
  · rename_i found hfound
    obtain ⟨n, hn, -⟩ := Option.bind_eq_some_iff.mp hfound
    obtain ⟨ds, hds, hhex⟩ := Option.bind_eq_some_iff.mp hn
    have hcolon := colon_not_mem_of_ofHex? hhex
    split at hds
    · cases hds
      exact hcolon
    · split at hds
      · rename_i hbytes
        intro hmem
        have hlength : cs.length ≤ 36 := hbytes ▸ length_le_byteLength cs
        exact (mem_of_ungroup? hlength hds hmem).elim hcolon (by decide)
      · cases hds
  · cases h

end Guid

end TableDiff
