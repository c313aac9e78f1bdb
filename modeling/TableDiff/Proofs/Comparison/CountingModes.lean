import TableDiff.Proofs.Comparison.Pairing

/-!
# Walks in every counting mode

The bound of a walk is the number of rows of both tables, or that of the one table that announces
it, or there is none. Whichever it is, the walk goes through the rows that both tables have. If one
of the tables has more rows, it ends with one report of that. The number of the longer table is in
the report only if it was announced.
-/

namespace TableDiff.RowWalk

/-- The text for the longer of two tables, which is not read beyond the end of the shorter one. -/
def longerText (rows : RowBound) (shorter longer : Nat) : String :=
  if rows = .known longer then toString longer else "more than " ++ toString shorter

/-- The report that one of two tables with `n` and `m` rows has more of them. -/
def rowCountFailure? (table : String) (rows : RowBound) (n m : Nat) : Option Failure :=
  if n < m then
    some (.ofValues (Message.rowCount table) (toString n) (longerText rows n m))
  else if m < n then
    some (.ofValues (Message.rowCount table) (longerText rows m n) (toString m))
  else none

/-- A walk as an alignment of tables with `n` and `m` rows prepares it. -/
structure Prepared (w : RowWalk) (e a : Table) (n m : Nat) : Prop where
  columns_ne_nil : w.columns ≠ []
  expected_mem : ∀ c ∈ w.columns, c.expected ∈ e.columns
  actual_mem : ∀ c ∈ w.columns, c.actual ∈ a.columns
  key_eq : ∀ c ∈ w.columns, c.expected.key = c.actual.key
  rows_eq : w.rows = .untilExhausted ∨ w.rows = .known n ∨ w.rows = .known m

theorem span_of_bound {rows : RowBound} {n m : Nat}
    (hrows : rows = .untilExhausted ∨ rows = .known n ∨ rows = .known m) :
    span rows n m = min n m := by
  rcases hrows with rfl | rfl | rfl
  · rfl
  · simp only [span]
    omega
  · simp only [span]
    omega

theorem endDifference?_of_bound (table : String) {rows : RowBound} {n m : Nat}
    (hrows : rows = .untilExhausted ∨ rows = .known n ∨ rows = .known m) :
    (endDifference? table rows n m).map Difference.toFailure =
      rowCountFailure? table rows n m := by
  unfold rowCountFailure? longerText
  rcases lt_trichotomy n m with hlt | rfl | hlt
  · -- The expected table ends first.
    have hne : n ≠ m := by omega
    rw [if_pos hlt]
    rcases hrows with rfl | rfl | rfl
    · simp [endDifference?, hlt, Difference.toFailure, RowTotal.text]
    · simp [endDifference?, hlt, hlt.le, hne, Difference.toFailure, RowTotal.text]
    · simp [endDifference?, hlt.not_ge, hlt.le, Difference.toFailure, RowTotal.text]
  · rw [if_neg (by omega), if_neg (by omega)]
    rcases hrows with rfl | rfl | rfl <;> simp [endDifference?]
  · -- The actual table ends first.
    have hne : m ≠ n := by omega
    rw [if_neg (by omega), if_pos hlt]
    rcases hrows with rfl | rfl | rfl
    · simp [endDifference?, hlt, hlt.not_gt, Difference.toFailure, RowTotal.text]
    · simp [endDifference?, hlt.not_ge, Difference.toFailure, RowTotal.text]
    · simp [endDifference?, hlt, hlt.le, hne, Difference.toFailure, RowTotal.text]

section Walks

variable {w : RowWalk} {e a : Table} {n m : Nat}

/-- What an alignment pairs is prepared for a walk, unless nothing is left to compare. -/
theorem prepared_of_align (he : e.HasRows n) (ha : a.HasRows m) {filter : ColumnFilter}
    {policy : RowCountPolicy} {ds : List Difference}
    (halign : (Alignment.align (.distinct e a) filter policy : Findings Alignment) =
      ⟨ds, .ok (.aligned w.rows w.columns)⟩) (hcolumns : w.columns ≠ []) :
    w.Prepared e a n m := by
  rcases Alignment.align_cases e a filter policy with ⟨-, -, hrefused⟩ | ⟨-, ds', found, hok, hends⟩
  · rw [halign] at hrefused
    simp at hrefused
  rw [halign] at hok
  obtain ⟨rfl, hfound⟩ := Findings.mk.inj hok
  obtain rfl := Except.ok.inj hfound
  generalize hrows : w.rows = rows at hends
  cases hends with
  | aligned _ hpairs _ =>
    refine ⟨hcolumns, fun c => hpairs.expected_mem, fun c => hpairs.actual_mem, hpairs.key_eq, ?_⟩
    rw [hrows]
    exact rowBound_eq he ha

/-- Under every reporter without refusals a walk comes to its end and counts the cells that differ.
It reports those of the rows that both tables have, row by row and in a row column by column, and
then, if one of the tables has more rows, that it has. -/
theorem compareRows_of_prepared {σ : Type} {r : Reporter σ} (hr : r.Collecting) (s : σ)
    (he : e.HasRows n) (ha : a.HasRows m) (hw : w.Prepared e a n m) :
    let cells := (List.range (min n m)).flatMap (w.rowDifferences e a
      (fun row c => e.cellAt row c.expected.name) fun row c => a.cellAt row c.actual.name)
    (w.compareRows e a : Reporter.Run σ Nat) r s =
      (r.hear s (cells.map Difference.toFailure ++ (rowCountFailure? e.name w.rows n m).toList),
        .ok cells.length) := by
  intro cells
  have hwalk := compareRows_of_hasRows he ha fun c hc =>
    ⟨List.mem_map_of_mem (hw.expected_mem c hc), List.mem_map_of_mem (hw.actual_mem c hc),
      hw.key_eq c hc⟩
  unfold differences at hwalk
  rw [if_neg hw.columns_ne_nil, span_of_bound hw.rows_eq] at hwalk
  rw [← Reporter.told_compareRows, hwalk, Reporter.told_of_collecting hr, List.map_append,
    ← endDifference?_of_bound e.name hw.rows_eq, Option.toList_map]

/-- The bound is that of the actual table, and the expected table has a row more. -/
theorem compareRows_of_prepared_longer :
    let e := uncountedTable ["A"] ["1", "2", "3"]
    let a := (MemoryTable.ofCells ["a"] ["1", "5"]).toTable
    let w : RowWalk :=
      ⟨.known 2, [⟨.untyped "A", .untyped "a", .unknown⟩], TableComparators.empty.source "T", []⟩
    Reporter.collectAll.Collecting ∧ e.HasRows 3 ∧ a.HasRows 2 ∧ w.Prepared e a 3 2 ∧
      (w.compareRows e a : Reporter.Run (Array Failure) Nat) Reporter.collectAll #[] =
        (#[.ofValues
            "value (table=T, row=1, col=A): Actual value='5' is not equal to expected value='2'"
            "2" "5",
          .ofValues "row count (table=T)" "more than 2" "2"], .ok 1) := by
  intro e a w
  have he : e.HasRows 3 := uncountedTable_hasRows ["A"] ["1", "2", "3"]
  have ha : a.HasRows 2 := (MemoryTable.ofCells ["a"] ["1", "5"]).toTable_readsAs.hasRows
  have halign : (Alignment.align (.distinct e a) .acceptAll .lenient : Findings Alignment) =
      ⟨[], .ok (.aligned w.rows w.columns)⟩ := by
    have hes : Column.sorted e.columns = [.untyped "A"] := List.mergeSort_singleton _
    have has : Column.sorted a.columns = [.untyped "a"] := List.mergeSort_singleton _
    change (Alignment.alignColumns e a .acceptAll (.known 2) : Findings Alignment) = _
    rw [Alignment.alignColumns_eq, hes, has]
    rfl
  have hw : w.Prepared e a 3 2 := prepared_of_align he ha halign (by simp [w])
  refine ⟨Reporter.collecting_collectAll, he, ha, hw, ?_⟩
  exact (compareRows_of_prepared Reporter.collecting_collectAll #[] he ha hw).trans (by decide)

end Walks

end TableDiff.RowWalk
