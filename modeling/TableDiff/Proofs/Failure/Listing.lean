import Mathlib
import TableDiff.Failure.Listing
import TableDiff.Number.Digits
import TableDiff.Proofs.Filter.Pattern

/-!
# Columns of listings

A listing gives every column the width of its widest text, header included, and two spaces. So the
texts of a column begin at one place in the header and in all failures. The rule below the header
has at least three dashes for a column, but the widths do not know of that: the column of numbers
is narrower until there are a hundred failures, and up to then the rule is not in line.
-/

namespace TableDiff

namespace Listing

variable {cs text written : List Char} {c : Char} {place k n : Nat} {failures : List Failure}

/-! ## Places -/

/-- The places that a text takes, each wide character two and each other one. -/
def places (cs : List Char) : Nat := (cs.map fun c => if isWide c then 2 else 1).sum

@[simp] theorem places_nil : places [] = 0 := rfl

@[simp] theorem places_cons (c : Char) (cs : List Char) :
    places (c :: cs) = (if isWide c then 2 else 1) + places cs := rfl

@[simp] theorem places_append (cs ds : List Char) : places (cs ++ ds) = places cs + places ds := by
  simp [places]

theorem places_of_narrow (h : ∀ c ∈ cs, isWide c = false) : places cs = cs.length := by
  induction cs with
  | nil => rfl
  | cons c cs ih =>
    rw [places_cons, h c List.mem_cons_self, ih fun d hd => h d (List.mem_cons_of_mem c hd),
      List.length_cons]
    exact Nat.add_comm ..

/-- Without escape characters no character is without a place. -/
theorem width_eq_places (h : '\x1b' ∉ cs) : width cs = places cs := by
  unfold width
  induction cs with
  | nil => rfl
  | cons c cs ih =>
    rw [List.mem_cons, not_or] at h
    unfold widthFrom
    rw [if_neg Bool.false_ne_true, if_neg (Ne.symm h.1), ih h.2, places_cons]

/-- A place belongs to one character only. -/
theorem eq_of_places_eq {as bs xs ys : List Char} (h : as ++ xs = bs ++ ys)
    (hplaces : places as = places bs) : as = bs := by
  -- Every character takes a place, so neither text can end before the other.
  induction as generalizing bs with
  | nil =>
    cases bs with
    | nil => rfl
    | cons b bs =>
      rw [places_nil, places_cons] at hplaces
      split at hplaces <;> omega
  | cons a as ih =>
    cases bs with
    | nil =>
      rw [places_nil, places_cons] at hplaces
      split at hplaces <;> omega
    | cons b bs =>
      rw [List.cons_append, List.cons_append, List.cons.injEq] at h
      obtain ⟨rfl, hrest⟩ := h
      rw [places_cons, places_cons, Nat.add_left_cancel_iff] at hplaces
      rw [ih hrest hplaces]

@[simp] theorem places_blanks (m : Nat) : places (List.replicate m ' ') = m := by
  have hnarrow : ∀ c ∈ List.replicate m ' ', isWide c = false := by
    intro c hc
    obtain ⟨-, rfl⟩ := List.mem_replicate.mp hc
    decide
  rw [places_of_narrow hnarrow, List.length_replicate]

theorem places_pad (h : '\x1b' ∉ cs) (w : Nat) : places (pad w cs) = max w (places cs) := by
  unfold pad
  rw [places_append, width_eq_places h, places_blanks]
  omega

theorem isWide_eq_false (h : c.toNat < 0x1100) : isWide c = false := by
  simp only [isWide, wideRanges, List.any_cons, List.any_nil, Bool.or_false, Bool.or_eq_false_iff,
    Bool.and_eq_false_iff, decide_eq_false_iff_not]
  omega

/-- A text on one line has no new characters but spaces. -/
theorem not_mem_sanitize (h : c ∉ cs) (hc : c ≠ ' ') : c ∉ sanitize cs := by
  intro hmem
  obtain ⟨d, hd, hdc⟩ := List.mem_map.mp hmem
  split at hdc
  · exact hc hdc.symm
  · exact h (hdc ▸ hd)

theorem sanitize_eq_self (h : ∀ c ∈ cs, c ≠ '\n' ∧ c ≠ '\r' ∧ c ≠ '\t') : sanitize cs = cs := by
  unfold sanitize
  refine (List.map_congr_left fun c hc => if_neg ?_).trans (List.map_id' cs)
  obtain ⟨hn, hr, ht⟩ := h c hc
  simp [hn, hr, ht]

theorem newline_not_mem_sanitize (cs : List Char) : '\n' ∉ sanitize cs := by
  intro hmem
  obtain ⟨d, -, hd⟩ := List.mem_map.mp hmem
  split at hd
  · exact absurd hd (by decide)
  · next h => exact h (.inl hd)

/-! ## Lines -/

/-- A line shows a text from a place on; blanks at the end of the line are not written. -/
def StartsAt (written text : List Char) (place : Nat) : Prop :=
  ∃ before after, written = Text.trimEnd (before ++ text ++ after) ∧ places before = place

/-- Where one character stands, no text begins with another one. -/
theorem not_startsAt (before after : List Char) {d : Char}
    (hwritten : written = before ++ d :: after) (hc : Text.isBlank c = false) (hcd : c ≠ d) :
    ¬ StartsAt written (c :: text) (places before) := by
  rintro ⟨before', after', hline, hplaces⟩
  rw [List.append_assoc, List.cons_append, Text.trimEnd_append_cons before' hc, hwritten] at hline
  obtain rfl := eq_of_places_eq hline hplaces.symm
  exact hcd (List.cons.inj (List.append_cancel_left hline)).1.symm

/-- The gap between two columns. -/
def gap : List Char := [' ', ' ']

/-- No text begins within a gap. -/
theorem not_startsAt_of_gap (front rest : List Char)
    (hwritten : written = front ++ gap ++ rest) (hc : Text.isBlank c = false)
    (hplace : place = places front ∨ place = places front + 1) :
    ¬ StartsAt written (c :: text) place := by
  have hcd : c ≠ ' ' := by
    rintro rfl
    exact absurd hc (by decide)
  rcases hplace with rfl | rfl
  · exact not_startsAt front (' ' :: rest) (by rw [hwritten]; simp [gap]) hc hcd
  · have hspace : places (front ++ [' ']) = places front + 1 := places_append front [' ']
    rw [← hspace]
    exact not_startsAt (front ++ [' ']) rest (by rw [hwritten]; simp [gap]) hc hcd

/-- What is written before a column, where `shown` are the texts of a line, filled up. -/
def textBefore (shown : Nat → List Char) (k : Nat) : List Char :=
  (List.range k).flatMap fun i => shown i ++ gap

theorem textBefore_succ (shown : Nat → List Char) (k : Nat) :
    textBefore shown (k + 1) = textBefore shown k ++ shown k ++ gap := by
  simp [textBefore, List.range_succ]

theorem exists_intercalate_eq (segments : List (List Char)) (cs : List Char)
    (rest : List (List Char)) :
    ∃ after, gap.intercalate (segments ++ cs :: rest) =
      segments.flatMap (· ++ gap) ++ cs ++ after := by
  induction segments with
  | nil =>
    cases rest with
    | nil => exact ⟨[], by simp⟩
    | cons ds rest =>
      exact ⟨gap ++ gap.intercalate (ds :: rest), by simp [List.intercalate_cons_cons]⟩
  | cons s segments ih =>
    obtain ⟨after, heq⟩ := ih
    refine ⟨after, ?_⟩
    rw [List.cons_append, List.intercalate_cons_of_ne_nil (by simp), heq]
    simp

/-- A line is what stands before a column, the text of the column, and what follows. -/
theorem exists_intercalate_range_eq (shown : Nat → List Char) (hk : k < n) :
    ∃ after, gap.intercalate ((List.range n).map shown) =
      textBefore shown k ++ shown k ++ after := by
  obtain ⟨m, rfl⟩ := Nat.exists_eq_add_of_lt hk
  have hrange : List.range (k + m + 1) = List.range k ++ k :: (List.range m).map (k + 1 + ·) := by
    rw [show k + m + 1 = k + 1 + m by omega, List.range_add, List.range_succ, List.append_assoc]
    rfl
  rw [hrange, List.map_append, List.map_cons]
  obtain ⟨after, heq⟩ := exists_intercalate_eq ((List.range k).map shown) (shown k)
    (((List.range m).map (k + 1 + ·)).map shown)
  exact ⟨after, by rw [heq, List.flatMap_map]; rfl⟩

/-- Where a column begins, for the widths of the columns. -/
def start (widths : Nat → Nat) (k : Nat) : Nat := ((List.range k).map fun i => widths i + 2).sum

theorem start_succ (widths : Nat → Nat) (k : Nat) :
    start widths (k + 1) = start widths k + (widths k + 2) := by
  simp [start, List.range_succ]

theorem places_textBefore (shown : Nat → List Char) (k : Nat) :
    places (textBefore shown k) = start (fun i => places (shown i)) k := by
  induction k with
  | zero => rfl
  | succ k ih =>
    rw [textBefore_succ, start_succ, places_append, places_append, ih]
    exact Nat.add_assoc ..

theorem start_congr {widths widths' : Nat → Nat} (h : ∀ i < k, widths i = widths' i) :
    start widths k = start widths' k := by
  unfold start
  congr 1
  exact List.map_congr_left fun i hi => by rw [h i (List.mem_range.mp hi)]

/-! ## Rows -/

/-- The text that a row shows in a column. -/
def shownText (row : List (List Char)) (k : Nat) : List Char := sanitize (row[k]?.getD [])

theorem line_eq {row : List (List Char)} (hrow : row.length = n) (widths : Nat → Nat) :
    line ((List.range n).map widths) row = Text.trimEnd
      (gap.intercalate ((List.range n).map fun i => pad (widths i) (shownText row i))) := by
  unfold line
  congr 2
  apply List.ext_getElem
  · simp [hrow]
  · intro i hi hi'
    have hirow : i < row.length := by simpa [hrow] using hi'
    simp [shownText, hirow]

theorem escape_not_mem_shownText {row : List (List Char)} (hrow : ∀ cs ∈ row, '\x1b' ∉ cs)
    (k : Nat) : '\x1b' ∉ shownText row k := by
  refine not_mem_sanitize ?_ (by decide)
  cases hcell : row[k]? with
  | none => exact List.not_mem_nil
  | some cs => exact hrow cs (List.mem_of_getElem? hcell)

/-- A line shows the text of a column behind the columns before it. -/
theorem exists_line_eq {row : List (List Char)} (hrow : row.length = n) (widths : Nat → Nat)
    (hk : k < n) :
    ∃ after, line ((List.range n).map widths) row = Text.trimEnd
      (textBefore (fun i => pad (widths i) (shownText row i)) k ++ shownText row k ++ after) := by
  obtain ⟨after, heq⟩ :=
    exists_intercalate_range_eq (fun i => pad (widths i) (shownText row i)) hk
  -- The spaces that fill up the column belong to what follows its text.
  refine ⟨List.replicate (widths k - width (shownText row k)) ' ' ++ after, ?_⟩
  rw [line_eq hrow, heq]
  simp [pad]

theorem places_textBefore_pad {row : List (List Char)} (hrow : ∀ cs ∈ row, '\x1b' ∉ cs)
    (widths : Nat → Nat) (k : Nat) :
    places (textBefore (fun i => pad (widths i) (shownText row i)) k) =
      start (fun i => max (widths i) (places (shownText row i))) k := by
  rw [places_textBefore]
  exact start_congr fun i _ => places_pad (escape_not_mem_shownText hrow i) (widths i)

/-- The rows of a listing, the header first. -/
def rows (failures : List Failure) : List (List (List Char)) :=
  header :: failures.mapIdx cells

/-- The places of the widest text of a column. -/
def widest (failures : List Failure) (k : Nat) : Nat :=
  ((rows failures).map fun row => places (shownText row k)).max?.getD 0

/-- Where a column of a listing begins: behind the widest texts of the columns before it, with two
places after each. -/
def columnStart (failures : List Failure) (k : Nat) : Nat := start (widest failures) k

/-- The rule of a column. -/
def dashes (failures : List Failure) (k : Nat) : List Char :=
  List.replicate (max (widest failures k) 3) '-'

end Listing

/-- No text of the failure has an escape character. -/
def Failure.Unescaped (f : Failure) : Prop :=
  '\x1b' ∉ f.message.toList ∧ '\x1b' ∉ (f.expected.getD "").toList ∧
    '\x1b' ∉ (f.actual.getD "").toList

instance (f : Failure) : Decidable f.Unescaped := inferInstanceAs (Decidable (_ ∧ _ ∧ _))

namespace Listing

theorem length_of_mem_rows {row : List (List Char)} (hrow : row ∈ rows failures) :
    row.length = 4 := by
  rcases List.mem_cons.mp hrow with rfl | hrow
  · rfl
  · obtain ⟨i, hi, rfl⟩ := List.mem_mapIdx.mp hrow
    rfl

theorem toList_toString (m : Nat) : (toString m).toList = Number.digits m := Nat.toList_repr

theorem escape_not_mem_of_mem_rows (h : ∀ f ∈ failures, f.Unescaped) {row : List (List Char)}
    (hrow : row ∈ rows failures) : ∀ cs ∈ row, '\x1b' ∉ cs := by
  rcases List.mem_cons.mp hrow with rfl | hrow
  · decide
  · obtain ⟨i, hi, rfl⟩ := List.mem_mapIdx.mp hrow
    obtain ⟨hmessage, hexpected, hactual⟩ := h failures[i] (List.getElem_mem hi)
    have hnumber : '\x1b' ∉ Number.digits (i + 1) := fun hmem =>
      absurd (Number.isDigit_of_mem_digits hmem) (by decide)
    intro cs hcs
    simp only [cells, toList_toString, List.mem_cons, List.not_mem_nil, or_false] at hcs
    rcases hcs with rfl | rfl | rfl | rfl
    exacts [hnumber, hmessage, hexpected, hactual]

theorem places_le_widest {row : List (List Char)} (hrow : row ∈ rows failures) (k : Nat) :
    places (shownText row k) ≤ widest failures k :=
  List.le_max?_getD_of_mem (List.mem_map.mpr ⟨row, hrow, rfl⟩)

/-! ## Widths -/

theorem foldl_zipWith_max {α : Type} (size : α → Nat) (d : α) (ws : List Nat)
    (table : List (List α)) (htable : ∀ row ∈ table, row.length = ws.length) :
    table.foldl (fun ws row => List.zipWith (fun w c => max w (size c)) ws row) ws =
      ws.mapIdx fun k w => (table.map fun row => size (row[k]?.getD d)).foldl max w := by
  induction table generalizing ws with
  | nil => exact (List.ext_getElem (by simp) (by simp)).symm
  | cons row table ih =>
    have hrow : row.length = ws.length := htable row List.mem_cons_self
    rw [List.foldl_cons, ih _ fun r hr => by
      rw [htable r (List.mem_cons_of_mem _ hr), List.length_zipWith, hrow, Nat.min_self]]
    apply List.ext_getElem
    · simp [hrow]
    · intro k hk hk'
      have hkrow : k < row.length := by simpa [hrow] using hk'
      simp [hkrow]

theorem widest_eq_foldl (failures : List Failure) (k : Nat) :
    widest failures k = ((failures.mapIdx cells).map fun row => places (shownText row k)).foldl max
      (places (shownText header k)) := by
  unfold widest rows
  rw [List.map_cons, List.max?_cons', Option.getD_some]

/-- The widths that a listing is laid out with are those of the widest texts. -/
theorem widths_eq (h : ∀ f ∈ failures, f.Unescaped) :
    widths (failures.mapIdx cells) = (List.range 4).map (widest failures) := by
  have hplaces : ∀ row ∈ rows failures, ∀ k,
      width (sanitize (row[k]?.getD [])) = places (shownText row k) := fun row hrow k =>
    width_eq_places (escape_not_mem_shownText (escape_not_mem_of_mem_rows h hrow) k)
  have hlength : ∀ row ∈ failures.mapIdx cells, row.length = (header.map width).length :=
    fun row hrow => length_of_mem_rows (List.mem_cons_of_mem header hrow)
  unfold widths
  rw [foldl_zipWith_max (fun cs => width (sanitize cs)) [] _ _ hlength]
  apply List.ext_getElem
  · rfl
  · intro k hk hk'
    have hk4 : k < 4 := by simpa using hk'
    have hkheader : k < header.length := hk4
    -- Both maxima begin with the width of the header.
    have htop : width header[k] = places (shownText header k) := by
      interval_cases k <;> rfl
    simp only [List.getElem_mapIdx, List.getElem_map, List.getElem_range]
    rw [widest_eq_foldl, htop]
    congr 1
    exact List.map_congr_left fun row hrow => hplaces row (List.mem_cons_of_mem header hrow) k

/-- All columns but the first are wide enough for a rule. -/
theorem three_le_widest (hk : 1 ≤ k) (hk' : k < 4) : 3 ≤ widest failures k := by
  refine le_trans ?_ (places_le_widest List.mem_cons_self k)
  interval_cases k <;> decide

theorem exists_places_eq_widest (failures : List Failure) (k : Nat) :
    ∃ row ∈ rows failures, places (shownText row k) = widest failures k := by
  unfold widest
  cases hmax : ((rows failures).map fun row => places (shownText row k)).max? with
  | none => exact absurd (List.max?_eq_none_iff.mp hmax) (by simp [rows])
  | some w => exact List.mem_map.mp (List.max?_mem hmax)

theorem places_number (index : Nat) (f : Failure) :
    places (shownText (cells index f) 0) = (Number.digits (index + 1)).length := by
  show places (sanitize (toString (index + 1)).toList) = _
  rw [toList_toString]
  have hdigit : ∀ c ∈ Number.digits (index + 1), 48 ≤ c.toNat ∧ c.toNat ≤ 57 := fun c hc => by
    simpa [Char.isDigit, UInt32.le_iff_toNat_le] using Number.isDigit_of_mem_digits hc
  have honeLine : ∀ c ∈ Number.digits (index + 1), c ≠ '\n' ∧ c ≠ '\r' ∧ c ≠ '\t' := by
    intro c hc
    have hrange := hdigit c hc
    refine ⟨?_, ?_, ?_⟩ <;> rintro rfl <;> exact absurd hrange (by decide)
  rw [sanitize_eq_self honeLine]
  exact places_of_narrow fun c hc => isWide_eq_false (by have := hdigit c hc; omega)

theorem three_le_length_digits {m : Nat} : 3 ≤ (Number.digits m).length ↔ 100 ≤ m := by
  have h := Nat.length_toDigits_le_iff (b := 10) (n := m) (k := 2) (by decide) (by decide)
  unfold Number.digits
  omega

/-- The column of numbers is wide enough for a rule from a hundred failures on. -/
theorem three_le_widest_zero : 3 ≤ widest failures 0 ↔ 100 ≤ failures.length := by
  constructor
  · intro h
    obtain ⟨row, hrow, hwidest⟩ := exists_places_eq_widest failures 0
    rw [← hwidest] at h
    rcases List.mem_cons.mp hrow with rfl | hrow
    · exact absurd h (by decide)
    · obtain ⟨i, hi, rfl⟩ := List.mem_mapIdx.mp hrow
      rw [places_number, three_le_length_digits] at h
      omega
  · intro h
    have hrow : cells 99 failures[99] ∈ rows failures :=
      List.mem_cons_of_mem header (List.mem_mapIdx.mpr ⟨99, h, rfl⟩)
    calc 3 ≤ (Number.digits 100).length := three_le_length_digits.mpr (Nat.le_refl 100)
      _ = places (shownText (cells 99 failures[99]) 0) := (places_number 99 _).symm
      _ ≤ widest failures 0 := places_le_widest hrow 0

/-! ## The lines of a listing -/

/-- In the header and in the failures each column is in line. -/
theorem startsAt_line (h : ∀ f ∈ failures, f.Unescaped) {row : List (List Char)}
    (hrow : row ∈ rows failures) (hk : k < 4) :
    StartsAt (line ((List.range 4).map (widest failures)) row) (shownText row k)
      (columnStart failures k) := by
  obtain ⟨after, hline⟩ := exists_line_eq (length_of_mem_rows hrow) (widest failures) hk
  refine ⟨_, after, hline, ?_⟩
  rw [places_textBefore_pad (escape_not_mem_of_mem_rows h hrow)]
  exact start_congr fun i _ => max_eq_left (places_le_widest hrow i)

/-- The cells of the rule. -/
def ruleRow (failures : List Failure) : List (List Char) := (List.range 4).map (dashes failures)

theorem dash_of_mem_dashes (hc : c ∈ dashes failures k) : c = '-' := (List.mem_replicate.mp hc).2

theorem shownText_ruleRow (hk : k < 4) : shownText (ruleRow failures) k = dashes failures k := by
  unfold shownText ruleRow
  rw [List.getElem?_map, List.getElem?_range hk, Option.map_some, Option.getD_some]
  exact sanitize_eq_self fun c hc => by rw [dash_of_mem_dashes hc]; decide

theorem places_dashes (failures : List Failure) (k : Nat) :
    places (dashes failures k) = max (widest failures k) 3 := by
  rw [places_of_narrow fun c hc => by rw [dash_of_mem_dashes hc]; decide]
  exact List.length_replicate

theorem dashes_eq_cons (failures : List Failure) (k : Nat) :
    ∃ rest, dashes failures k = '-' :: rest := by
  unfold dashes
  rw [← Nat.succ_pred_eq_of_pos (lt_of_lt_of_le (by decide) (Nat.le_max_right _ 3))]
  exact ⟨_, List.replicate_succ⟩

/-- The rule is laid out as if the column of numbers took at least three places. -/
theorem start_rule (hk : k < 4) :
    start (fun i => max (widest failures i) 3) k =
      columnStart failures k + if k = 0 then 0 else 3 - widest failures 0 := by
  unfold columnStart
  induction k with
  | zero => rfl
  | succ k ih =>
    rw [start_succ, start_succ, ih (Nat.lt_of_succ_lt hk), if_neg (Nat.succ_ne_zero k)]
    -- Only the first column may be narrower than its rule.
    split
    · next h0 => subst h0; omega
    · next h0 =>
      have h3 : 3 ≤ widest failures k := three_le_widest (Nat.pos_of_ne_zero h0) (by omega)
      omega

theorem places_textBefore_rule (failures : List Failure) (hk : k < 4) :
    places (textBefore (fun i => pad (widest failures i) (shownText (ruleRow failures) i)) k) =
      columnStart failures k + if k = 0 then 0 else 3 - widest failures 0 := by
  have hplain : ∀ cs ∈ ruleRow failures, '\x1b' ∉ cs := by
    intro cs hcs hmem
    obtain ⟨i, -, rfl⟩ := List.mem_map.mp hcs
    exact absurd (dash_of_mem_dashes hmem) (by decide)
  rw [places_textBefore_pad hplain, ← start_rule hk]
  refine start_congr fun i hi => ?_
  rw [shownText_ruleRow (Nat.lt_trans hi hk), places_dashes]
  omega

/-- The rule of a column is in line if the column is the first one, or if there are failures enough
for the numbers to be as wide as a rule. -/
theorem startsAt_rule_iff (hk : k < 4) :
    StartsAt (line ((List.range 4).map (widest failures)) (ruleRow failures)) (dashes failures k)
      (columnStart failures k) ↔ k = 0 ∨ 100 ≤ failures.length := by
  have hlength : (ruleRow failures).length = 4 := rfl
  obtain ⟨after, hline⟩ := exists_line_eq hlength (widest failures) hk
  rw [shownText_ruleRow hk] at hline
  have hplaces := places_textBefore_rule failures hk
  rw [← three_le_widest_zero]
  constructor
  · intro hstarts
    by_contra hcond
    obtain ⟨hk0, hnarrow⟩ := not_or.mp hcond
    have hheader : 1 ≤ widest failures 0 := places_le_widest List.mem_cons_self 0
    obtain ⟨j, rfl⟩ := Nat.exists_eq_succ_of_ne_zero hk0
    obtain ⟨rest, hdashes⟩ := dashes_eq_cons failures (j + 1)
    have hdash : Text.isBlank '-' = false := by decide
    have hgap : places gap = 2 := by decide
    -- The two places before the rule of the column are blank, and the column begins at one of them.
    rw [textBefore_succ, hdashes, List.append_assoc _ ('-' :: rest), List.cons_append,
      Text.trimEnd_append_cons _ hdash] at hline
    rw [textBefore_succ, places_append, if_neg hk0, hgap] at hplaces
    rw [hdashes] at hstarts
    exact not_startsAt_of_gap _ _ hline hdash (by omega) hstarts
  · intro hcond
    refine ⟨_, after, hline, hplaces.trans ?_⟩
    split
    · rfl
    · omega

theorem mem_intercalate {sep : List Char} {segments : List (List Char)}
    (h : c ∈ sep.intercalate segments) : c ∈ sep ∨ ∃ cs ∈ segments, c ∈ cs := by
  induction segments with
  | nil => exact absurd h List.not_mem_nil
  | cons cs rest ih =>
    by_cases hrest : rest = []
    · subst hrest
      exact .inr ⟨cs, List.mem_cons_self, by simpa using h⟩
    · rw [List.intercalate_cons_of_ne_nil hrest, List.mem_append, List.mem_append] at h
      rcases h with (h | h) | h
      · exact .inr ⟨cs, List.mem_cons_self, h⟩
      · exact .inl h
      · exact (ih h).imp_right fun ⟨ds, hds, hc⟩ => ⟨ds, List.mem_cons_of_mem cs hds, hc⟩

theorem newline_not_mem_line (ws : List Nat) (row : List (List Char)) : '\n' ∉ line ws row := by
  intro hmem
  have htrim : line ws row <+: _ := List.rdropWhile_prefix Text.isBlank _
  rcases mem_intercalate (htrim.subset hmem) with hmem | ⟨cs, hcs, hmem⟩
  · exact absurd hmem (by decide)
  · rw [← List.map_uncurry_zip_eq_zipWith] at hcs
    obtain ⟨⟨w, c⟩, -, rfl⟩ := List.mem_map.mp hcs
    rcases List.mem_append.mp hmem with hmem | hmem
    · exact newline_not_mem_sanitize c hmem
    · exact absurd (List.mem_replicate.mp hmem).2 (by decide)

theorem flatMap_newline (ls : List (List Char)) :
    ls.flatMap (· ++ ['\n']) = ['\n'].intercalate (ls ++ [[]]) := by
  induction ls with
  | nil => rfl
  | cons l ls ih =>
    rw [List.flatMap_cons, ih, List.cons_append, List.intercalate_cons_of_ne_nil (by simp)]

/-- The lines of a listing are read back from its text. -/
theorem splitOn_render (failures : List Failure) :
    (render failures).toList.splitOn '\n' = lines failures ++ [[]] := by
  have hlines : ∀ l ∈ lines failures ++ [[]], '\n' ∉ l := by
    intro l hl
    simp only [lines, List.mem_append, List.mem_cons, List.mem_map, List.not_mem_nil,
      or_false] at hl
    rcases hl with (rfl | rfl | ⟨row, -, rfl⟩) | rfl
    · exact newline_not_mem_line _ _
    · exact newline_not_mem_line _ _
    · exact newline_not_mem_line _ _
    · exact List.not_mem_nil
  unfold render
  rw [String.toList_ofList, flatMap_newline, List.splitOn_intercalate '\n' hlines (by simp)]

theorem lines_eq (h : ∀ f ∈ failures, f.Unescaped) :
    lines failures = line ((List.range 4).map (widest failures)) header ::
      line ((List.range 4).map (widest failures)) (ruleRow failures) ::
      (failures.mapIdx cells).map (line ((List.range 4).map (widest failures))) := by
  unfold lines
  simp only [widths_eq h]
  rfl

/-- A listing has two lines more than failures. Each column begins at one place in the header and
in all failures, behind the widest texts of the columns before it. In the rule it does so if it is
the first column, or if there are a hundred failures. -/
theorem startsAt_render (failures : List Failure) (h : ∀ f ∈ failures, f.Unescaped) :
    ∃ top rule body,
      (render failures).toList.splitOn '\n' = top :: rule :: body ++ [[]] ∧
      (top :: rule :: body).length = failures.length + 2 ∧
      List.Forall₂ (fun row written =>
        ∀ k < 4, StartsAt written (shownText row k) (columnStart failures k))
        (rows failures) (top :: body) ∧
      ∀ k < 4, StartsAt rule (dashes failures k) (columnStart failures k) ↔
        k = 0 ∨ 100 ≤ failures.length := by
  refine ⟨_, _, _, by rw [splitOn_render, lines_eq h], by simp, ?_,
    fun k hk => startsAt_rule_iff hk⟩
  rw [← List.map_cons, List.forall₂_map_right_iff, ← rows, List.forall₂_same]
  exact fun row hrow k hk => startsAt_line h hrow hk

/-- Failures with wide characters, with a line end, and without values. -/
def mixedFailures : List Failure :=
  [.ofValues "a" "東京" "x", .ofMessage "column mismatch\n(table=T)"]

theorem startsAt_render_mixed :
    (∀ f ∈ mixedFailures, f.Unescaped) ∧
    (List.range 4).map (columnStart mixedFailures) = [0, 3, 30, 40] ∧
    ∃ top rule body,
      (render mixedFailures).toList.splitOn '\n' = top :: rule :: body ++ [[]] ∧
      (top :: rule :: body).length = mixedFailures.length + 2 ∧
      List.Forall₂ (fun row written =>
        ∀ k < 4, StartsAt written (shownText row k) (columnStart mixedFailures k))
        (rows mixedFailures) (top :: body) ∧
      ∀ k < 4, StartsAt rule (dashes mixedFailures k) (columnStart mixedFailures k) ↔
        k = 0 ∨ 100 ≤ mixedFailures.length := by
  have h : ∀ f ∈ mixedFailures, f.Unescaped := by decide
  exact ⟨h, by decide, startsAt_render mixedFailures h⟩

/-- With a single failure the rule of the second column begins two places behind the column. -/
theorem rule_not_startsAt :
    (Failure.ofMessage "a").Unescaped ∧
    (render [.ofMessage "a"]).toList.splitOn '\n' =
      ["#  failure  expected  actual".toList, "---  -------  --------  ------".toList,
        "1  a".toList, []] ∧
    dashes [.ofMessage "a"] 1 = "-------".toList ∧
    columnStart [.ofMessage "a"] 1 = 3 ∧
    ¬ StartsAt "---  -------  --------  ------".toList "-------".toList 3 := by
  refine ⟨by decide, by decide, by decide, by decide, ?_⟩
  exact not_startsAt_of_gap ['-', '-', '-'] "-------  --------  ------".toList (by decide)
    (by decide) (.inl (by decide))

end Listing

end TableDiff
