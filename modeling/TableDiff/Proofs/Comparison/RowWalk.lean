import Mathlib
import TableDiff.Comparison
import TableDiff.Proofs.Findings

/-!
# What a row walk finds

Where the cells of a row can be read, the row contributes one difference for each column whose
comparator sees a mismatch, in the order of the columns. A walk through rows that both tables have
contributes those of its rows, one row after the other, and then goes on.
-/

namespace TableDiff.RowWalk

/-- The difference between two cells of a row, if the comparator for the column sees one. -/
def cellDifference? (w : RowWalk) (e a : Table) (row : Nat) (c : AlignedColumn) (x y : Cell) :
    Option Difference :=
  ((w.comparators.select c.name).check c.datatype x y).map fun mismatch =>
    .value e.name row c.name (additionalColumns e a row w.additional) mismatch x y

/-- The differences of a row, by the cells `x` and `y` of the tables. -/
def rowDifferences (w : RowWalk) (e a : Table) (x y : Nat → AlignedColumn → Cell) (row : Nat) :
    List Difference :=
  w.columns.filterMap fun c => w.cellDifference? e a row c (x row c) (y row c)

variable {w : RowWalk} {e a : Table}

/-! ## Rows -/

theorem compareCell_eq {row : Nat} {c : AlignedColumn} {x y : Cell}
    (hx : e.value row c.expected.name = .ok x) (hy : a.value row c.actual.name = .ok y) :
    (w.compareCell e a row c : Findings Nat) =
      ⟨(w.cellDifference? e a row c x y).toList,
        .ok (w.cellDifference? e a row c x y).toList.length⟩ := by
  unfold compareCell cellDifference?
  simp only [Findings.ofExcept_eq, hx, hy, Findings.ok_bind, List.nil_append]
  cases (w.comparators.select c.name).check c.datatype x y with
  | none => rfl
  | some mismatch => rfl

theorem compareRow_eq {row : Nat} {columns : List AlignedColumn} {x y : AlignedColumn → Cell}
    (hx : ∀ c ∈ columns, e.value row c.expected.name = .ok (x c))
    (hy : ∀ c ∈ columns, a.value row c.actual.name = .ok (y c)) :
    (w.compareRow e a row columns : Findings Nat) =
      ⟨columns.filterMap fun c => w.cellDifference? e a row c (x c) (y c),
        .ok (columns.filterMap fun c => w.cellDifference? e a row c (x c) (y c)).length⟩ := by
  induction columns with
  | nil => rfl
  | cons c columns ih =>
    have hrest := ih (fun d hd => hx d (List.mem_cons_of_mem c hd))
      (fun d hd => hy d (List.mem_cons_of_mem c hd))
    unfold compareRow
    rw [compareCell_eq (hx c List.mem_cons_self) (hy c List.mem_cons_self), hrest]
    simp only [Findings.ok_bind, Findings.pure_eq, List.append_nil, List.filterMap_cons]
    cases w.cellDifference? e a row c (x c) (y c) with
    | none => simp
    | some d => simp [Nat.add_comm]

/-! ## Walks -/

/-- A row below the bound of the walk that both tables have, with these cells in its columns. -/
structure CommonRow (w : RowWalk) (e a : Table) (probe : String) (row : Nat)
    (x y : AlignedColumn → Cell) : Prop where
  below : w.atBound row = none
  inExpected : e.hasRow row probe = .ok true
  inActual : a.hasRow row probe = .ok true
  expectedCells : ∀ c ∈ w.columns, e.value row c.expected.name = .ok (x c)
  actualCells : ∀ c ∈ w.columns, a.value row c.actual.name = .ok (y c)

/-- A walk through `k` common rows, and on from there. -/
theorem walkFrom_append {probe : String} {x y : Nat → AlignedColumn → Cell} {row : Nat} (k : Nat)
    (hcommon : ∀ r, row ≤ r → r < row + k → w.CommonRow e a probe r (x r) (y r)) :
    (w.walkFrom e a probe row : Findings Nat) =
      ⟨(List.range' row k).flatMap (w.rowDifferences e a x y) ++
          (w.walkFrom e a probe (row + k) : Findings Nat).differences,
        (w.walkFrom e a probe (row + k) : Findings Nat).outcome.map
          (((List.range' row k).flatMap (w.rowDifferences e a x y)).length + ·)⟩ := by
  -- By the number of common rows; the rest of the walk is kept as it is.
  induction k generalizing row with
  | zero =>
    obtain ⟨ds, outcome⟩ : Findings Nat := w.walkFrom e a probe row
    cases outcome <;> simp [Except.map]
  | succ k ih =>
    have hfirst := hcommon row (le_refl row) (by omega)
    have hrow : (w.compareRow e a row w.columns : Findings Nat) =
        ⟨w.rowDifferences e a x y row, .ok (w.rowDifferences e a x y row).length⟩ :=
      compareRow_eq hfirst.expectedCells hfirst.actualCells
    have hrest := @ih (row + 1) fun r hle hlt => hcommon r (by omega) (by omega)
    rw [walkFrom_eq, hfirst.below, hfirst.inExpected]
    dsimp only
    rw [hfirst.inActual]
    dsimp only
    rw [hrow, hrest, List.range'_succ, List.flatMap_cons,
      show row + 1 + k = row + (k + 1) by omega]
    obtain ⟨ds, outcome⟩ : Findings Nat := w.walkFrom e a probe (row + (k + 1))
    cases outcome with
    | error error => simp [Except.map]
    | ok n => simp [Except.map, Nat.add_assoc]

/-! ## Walks through all rows -/

/-- How many rows of two tables with `n` and `m` rows are compared. -/
def span (rows : RowBound) (n m : Nat) : Nat :=
  match rows with
  | .known bound => min bound (min n m)
  | .untilExhausted => min n m

/-- The difference at the end of a walk through tables with `n` and `m` rows. The bound may be that
of one table only, and then the other one may have more rows or less. -/
def endDifference? (table : String) (rows : RowBound) (n m : Nat) : Option Difference :=
  match rows with
  | .known bound =>
    if bound ≤ n ∧ bound ≤ m then
      if bound < n then some (.rowCount table (.moreThan bound) (.exactly bound))
      else if bound < m then some (.rowCount table (.exactly bound) (.moreThan bound))
      else none
    else if n ≤ m then some (.rowCount table (.exactly n) (.exactly bound))
    else some (.rowCount table (.exactly bound) (.exactly m))
  | .untilExhausted =>
    if n < m then some (.rowCount table (.exactly n) (.moreThan n))
    else if m < n then some (.rowCount table (.moreThan m) (.exactly m))
    else none

theorem span_le (rows : RowBound) (n m : Nat) : span rows n m ≤ n ∧ span rows n m ≤ m := by
  cases rows with
  | known bound => simp only [span]; omega
  | untilExhausted => simp only [span]; omega

theorem atBound_of_lt_span {row n m : Nat} (h : row < span w.rows n m) : w.atBound row = none := by
  unfold atBound
  cases hrows : w.rows with
  | untilExhausted => rfl
  | known bound =>
    rw [hrows] at h
    simp only [span] at h
    exact if_neg (by omega)

/-- The end of a walk, once the rows that both tables have below the bound are done. -/
theorem walkFrom_span {probe : String} {n m : Nat}
    (he : ∀ row, e.hasRow row probe = .ok (decide (row < n)))
    (ha : ∀ row, a.hasRow row probe = .ok (decide (row < m))) :
    (w.walkFrom e a probe (span w.rows n m) : Findings Nat) =
      ⟨(endDifference? e.name w.rows n m).toList, .ok 0⟩ := by
  rw [walkFrom_eq]
  obtain ⟨rows, columns, comparators, additional⟩ := w
  cases rows with
  | known bound =>
    by_cases hbound : bound ≤ n ∧ bound ≤ m
    · -- The walk stops at the bound, and either table may go on.
      have hspan : span (.known bound) n m = bound := by
        simp only [span]
        omega
      simp only [hspan, atBound, le_refl, if_true, endAtBound, he, ha, endDifference?,
        if_pos hbound]
      by_cases hn : bound < n
      · simp [hn]
      · by_cases hm : bound < m
        · simp [hn, hm]
        · simp [hn, hm]
    · by_cases hnm : n ≤ m
      · have hspan : span (.known bound) n m = n := by
          simp only [span]
          omega
        have hbelow : ¬ bound ≤ n := by omega
        simp [hspan, atBound, endOfExpected, he, endDifference?, hbelow, hnm]
      · have hspan : span (.known bound) n m = m := by
          simp only [span]
          omega
        have hbelow : ¬ bound ≤ m := by omega
        have hn : m < n := by omega
        simp [hspan, atBound, endOfActual, he, ha, endDifference?, hbelow, hnm, hn]
  | untilExhausted =>
    by_cases hnm : n ≤ m
    · have hspan : span .untilExhausted n m = n := Nat.min_eq_left hnm
      have hm : ¬ m < n := by omega
      by_cases hlt : n < m
      · simp [hspan, atBound, endOfExpected, he, ha, endDifference?, hlt]
      · simp [hspan, atBound, endOfExpected, he, ha, endDifference?, hlt, hm]
    · have hn : m < n := by omega
      have hspan : span .untilExhausted n m = m := Nat.min_eq_right (le_of_lt hn)
      have hlt : ¬ n < m := by omega
      simp [hspan, atBound, endOfActual, he, ha, endDifference?, hn, hlt]

/-- A walk through tables with `n` and `m` rows, as the first column tells. -/
theorem compareRows_of_hasRow {n m : Nat} {first : AlignedColumn} {rest : List AlignedColumn}
    {x y : Nat → AlignedColumn → Cell} (hcolumns : w.columns = first :: rest)
    (he : ∀ row, e.hasRow row first.name = .ok (decide (row < n)))
    (ha : ∀ row, a.hasRow row first.name = .ok (decide (row < m)))
    (hx : ∀ row < n, ∀ c ∈ w.columns, e.value row c.expected.name = .ok (x row c))
    (hy : ∀ row < m, ∀ c ∈ w.columns, a.value row c.actual.name = .ok (y row c)) :
    (w.compareRows e a : Findings Nat) =
      ⟨(List.range (span w.rows n m)).flatMap (w.rowDifferences e a x y) ++
          (endDifference? e.name w.rows n m).toList,
        .ok ((List.range (span w.rows n m)).flatMap (w.rowDifferences e a x y)).length⟩ := by
  have hcommon : ∀ r, 0 ≤ r → r < 0 + span w.rows n m →
      w.CommonRow e a first.name r (x r) (y r) := by
    intro r _ hr
    rw [Nat.zero_add] at hr
    have hle := span_le w.rows n m
    have hn : r < n := by omega
    have hm : r < m := by omega
    refine ⟨atBound_of_lt_span hr, ?_, ?_, hx r hn, hy r hm⟩
    · rw [he, decide_eq_true hn]
    · rw [ha, decide_eq_true hm]
  unfold compareRows
  rw [hcolumns]
  dsimp only
  rw [walkFrom_append (span w.rows n m) hcommon, Nat.zero_add, walkFrom_span he ha,
    List.range_eq_range']
  simp [Except.map]

/-- A walk up to the number of rows that both tables have. -/
theorem compareRows_of_known {n : Nat} {x y : Nat → AlignedColumn → Cell}
    (hrows : w.rows = .known n)
    (he : ∀ c ∈ w.columns, ∀ row, e.hasRow row c.name = .ok (decide (row < n)))
    (ha : ∀ c ∈ w.columns, ∀ row, a.hasRow row c.name = .ok (decide (row < n)))
    (hx : ∀ row < n, ∀ c ∈ w.columns, e.value row c.expected.name = .ok (x row c))
    (hy : ∀ row < n, ∀ c ∈ w.columns, a.value row c.actual.name = .ok (y row c)) :
    (w.compareRows e a : Findings Nat) =
      ⟨(List.range n).flatMap (w.rowDifferences e a x y),
        .ok ((List.range n).flatMap (w.rowDifferences e a x y)).length⟩ := by
  cases hcolumns : w.columns with
  | nil =>
    have hnone : w.rowDifferences e a x y = fun _ => [] := by
      funext row
      simp [rowDifferences, hcolumns]
    unfold compareRows
    rw [hcolumns, hnone]
    simp
  | cons first rest =>
    have hfirst : first ∈ w.columns := by
      rw [hcolumns]
      exact List.mem_cons_self
    have hspan : span w.rows n n = n := by
      simp only [hrows, span]
      omega
    -- At the bound neither table has a further row.
    have hend : endDifference? e.name w.rows n n = none := by
      simp [hrows, endDifference?]
    have hwalk := compareRows_of_hasRow hcolumns (he first hfirst) (ha first hfirst) hx hy
    rw [hspan, hend, Option.toList_none, List.append_nil] at hwalk
    exact hwalk

end TableDiff.RowWalk
