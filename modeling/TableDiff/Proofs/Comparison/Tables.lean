import Mathlib
import TableDiff.Proofs.Comparison.Alignment
import TableDiff.Proofs.Comparison.RowWalk
import TableDiff.Proofs.KeyOrder
import TableDiff.Proofs.Table.Lookup

/-!
# What a comparison of tables in memory finds

A comparison of two tables in memory never fails. It finds one difference in structure, or else
the conflicts of paired columns and then, row by row, the pairs of cells that their comparators do
not accept. The same is found of other tables that read as tables in memory, such as sorted ones.
-/

namespace TableDiff

/-! ## Differences by pairs of columns -/

/-- The difference between the cells of a row in two paired columns, if there is one. -/
def cellDifference? (comparators : ColumnComparators) (additional : List String)
    (e a : MemoryTable) (row : Nat) (p : Column × Column) : Option Difference :=
  let x := e.cellOf row p.1.key
  let y := a.cellOf row p.2.key
  let datatype := p.1.datatype.effective p.2.datatype
  ((comparators.select p.1.name).check datatype x y).map fun mismatch =>
    .value e.name row p.1.name
      (RowWalk.additionalColumns e.toTable a.toTable row additional) mismatch x y

/-- The differences of two tables in paired columns: those of the datatypes, and then those of the
cells. -/
def pairDifferences (comparators : ColumnComparators) (additional : List String)
    (e a : MemoryTable) (pairs : List (Column × Column)) : List Difference :=
  pairs.filterMap (Alignment.datatypeDifference? e.name) ++
    (List.range e.rows.size).flatMap fun row =>
      pairs.filterMap (cellDifference? comparators additional e a row)

/-- The difference in structure of two tables with the columns `es` and `as` in the order of their
keys. Without one, what is found in `cells`, if there are any rows. -/
def structureOr (e a : MemoryTable) (es as : List Column) (cells : List Difference) :
    List Difference :=
  if e.rows.size ≠ a.rows.size then
    [.rowCount e.name (.exactly e.rows.size) (.exactly a.rows.size)]
  else if e.rows.size = 0 then []
  else if e.columns.length ≠ a.columns.length then [.columnCount e.name es as]
  else if es.map Column.key ≠ as.map Column.key then [.columns e.name es as]
  else cells

/-- The differences of two tables. The columns that the filter keeps are compared side by side. -/
def tableDifferences (comparators : ColumnComparators) (options : CompareOptions)
    (e a : MemoryTable) : List Difference :=
  let es := Column.sorted e.columns
  let as := Column.sorted a.columns
  let keptE := es.filter (options.filter e.name)
  let keptA := as.filter (options.filter e.name)
  structureOr e a es as
    (if keptE.map Column.key ≠ keptA.map Column.key then [.columns e.name keptE keptA]
    else pairDifferences comparators options.additional e a (keptE.zip keptA))

/-! ## Pairs of columns -/

/-- A column of each of two tables, both of one key. -/
structure PairedIn (e a : MemoryTable) (p : Column × Column) : Prop where
  expected : p.1 ∈ e.columns
  actual : p.2 ∈ a.columns
  key_eq : p.1.key = p.2.key

namespace PairedIn

variable {e a : MemoryTable} {p : Column × Column}

theorem expected_mem (h : PairedIn e a p) : p.1.key ∈ e.columns.map Column.key :=
  List.mem_map_of_mem h.expected

theorem actual_mem (h : PairedIn e a p) : p.2.key ∈ a.columns.map Column.key :=
  List.mem_map_of_mem h.actual

/-- The expected name finds rows of the actual table, too. -/
theorem expected_mem_actual (h : PairedIn e a p) : p.1.key ∈ a.columns.map Column.key := by
  rw [h.key_eq]
  exact h.actual_mem

end PairedIn

theorem mem_of_mem_kept {columns : List Column} {keep : Column → Bool} {c : Column}
    (hc : c ∈ (Column.sorted columns).filter keep) : c ∈ columns :=
  (List.mergeSort_perm columns _).mem_iff.mp (List.mem_of_mem_filter hc)

/-- The columns that are kept of two tables are paired if they have the same keys. -/
theorem pairedIn_of_mem_zip {e a : MemoryTable} {keep : Column → Bool}
    (hkeys : ((Column.sorted e.columns).filter keep).map Column.key =
      ((Column.sorted a.columns).filter keep).map Column.key) {p : Column × Column}
    (hp : p ∈ ((Column.sorted e.columns).filter keep).zip ((Column.sorted a.columns).filter keep)) :
    PairedIn e a p := by
  obtain ⟨he, ha⟩ := List.of_mem_zip hp
  exact ⟨mem_of_mem_kept he, mem_of_mem_kept ha, key_eq_of_mem_zip hkeys hp⟩

/-! ## What is found -/

/-- What is found where the numbers of rows do not settle the comparison. -/
theorem compareTable_of_align {s t : Table} {options : CompareOptions} {rows : RowBound}
    (h : (Alignment.align (.distinct s t) options.filter options.rowCount : Findings Alignment) =
      Alignment.alignColumns s t options.filter rows)
    (comparators : ColumnComparators) :
    (compareTable (.distinct s t) comparators options : Findings Unit) =
      let es := Column.sorted s.columns
      let as := Column.sorted t.columns
      let keptE := es.filter (options.filter s.name)
      let keptA := as.filter (options.filter s.name)
      if s.columns.length ≠ t.columns.length then ⟨[.columnCount s.name es as], .ok ()⟩
      else if es.map Column.key ≠ as.map Column.key then ⟨[.columns s.name es as], .ok ()⟩
      else if keptE.map Column.key ≠ keptA.map Column.key then
        ⟨[.columns s.name keptE keptA], .ok ()⟩
      else do
        let walk : RowWalk :=
          ⟨rows, (keptE.zip keptA).map Alignment.alignedPair, comparators, options.additional⟩
        let _ ← (⟨(keptE.zip keptA).filterMap (Alignment.datatypeDifference? s.name), .ok ()⟩ :
          Findings Unit)
        let _ ← walk.compareRows s t
        return () := by
  unfold compareTable
  rw [h, Alignment.alignColumns_eq]
  dsimp only
  split_ifs with hlength hkeys hkept
  · rfl
  · rfl
  · rfl
  · rfl

section Reading

variable {s t : Table} {e a : MemoryTable}

/-- The walk over the cells of two tables with equally many rows. -/
theorem compareRows_alignedPair (comparators : ColumnComparators) (additional : List String)
    (hs : s.ReadsAs e) (ht : t.ReadsAs a) {pairs : List (Column × Column)}
    (hrows : e.rows.size = a.rows.size) (hpairs : ∀ p ∈ pairs, PairedIn e a p) :
    ∃ count, (RowWalk.compareRows
        ⟨.known e.rows.size, pairs.map Alignment.alignedPair, comparators, additional⟩ s t :
      Findings Nat) =
      ⟨(List.range e.rows.size).flatMap fun row =>
        pairs.filterMap (cellDifference? comparators additional e a row), .ok count⟩ := by
  let w : RowWalk :=
    ⟨.known e.rows.size, pairs.map Alignment.alignedPair, comparators, additional⟩
  let x : Nat → AlignedColumn → Cell := fun row c => e.cellOf row c.expected.key
  let y : Nat → AlignedColumn → Cell := fun row c => a.cellOf row c.actual.key
  have hasE : ∀ c ∈ w.columns, ∀ row, s.hasRow row c.name = .ok (decide (row < e.rows.size)) :=
    List.forall_mem_map.mpr fun p hp row => hs.hasRow_eq row (hpairs p hp).expected_mem
  have hasA : ∀ c ∈ w.columns, ∀ row, t.hasRow row c.name = .ok (decide (row < e.rows.size)) := by
    rw [hrows]
    exact List.forall_mem_map.mpr fun p hp row => ht.hasRow_eq row (hpairs p hp).expected_mem_actual
  have hx : ∀ row < e.rows.size, ∀ c ∈ w.columns,
      s.value row c.expected.name = .ok (x row c) := fun row hrow =>
    List.forall_mem_map.mpr fun p hp => hs.value_of_lt hrow (hpairs p hp).expected_mem
  have hy : ∀ row < e.rows.size, ∀ c ∈ w.columns,
      t.value row c.actual.name = .ok (y row c) := fun row hrow =>
    List.forall_mem_map.mpr fun p hp => ht.value_of_lt (hrows ▸ hrow) (hpairs p hp).actual_mem
  -- Within the rows the additional columns read the same, known or not.
  have hadditional : ∀ row < e.rows.size, RowWalk.additionalColumns s t row additional =
      RowWalk.additionalColumns e.toTable a.toTable row additional := by
    intro row hrow
    unfold RowWalk.additionalColumns
    apply List.map_congr_left
    intro name _
    rw [hs.value_eq row hrow, ht.value_eq row (hrows ▸ hrow)]
    rfl
  have hdifferences : (List.range e.rows.size).flatMap (w.rowDifferences s t x y) =
      (List.range e.rows.size).flatMap fun row =>
        pairs.filterMap (cellDifference? comparators additional e a row) := by
    apply List.flatMap_congr
    intro row hrow
    unfold RowWalk.rowDifferences RowWalk.cellDifference?
    rw [hadditional row (List.mem_range.mp hrow), hs.name_eq]
    exact List.filterMap_map
  have hwalk := RowWalk.compareRows_of_known rfl hasE hasA hx hy
  rw [hdifferences] at hwalk
  exact ⟨_, hwalk⟩

/-- A comparison of two tables that read as tables in memory comes to its end with the differences
of those. -/
theorem compareTable_of_readsAs (hs : s.ReadsAs e) (ht : t.ReadsAs a)
    (comparators : ColumnComparators) (options : CompareOptions) :
    (compareTable (.distinct s t) comparators options : Findings Unit) =
      ⟨tableDifferences comparators options e a, .ok ()⟩ := by
  have hcounts : (Alignment.align (.distinct s t) options.filter options.rowCount :
      Findings Alignment) =
      if e.rows.size ≠ a.rows.size then
        ⟨[.rowCount e.name (.exactly e.rows.size) (.exactly a.rows.size)], .ok .mismatched⟩
      else if e.rows.size = 0 then ⟨[], .ok .identical⟩
      else Alignment.alignColumns s t options.filter (.known e.rows.size) := by
    unfold Alignment.align
    dsimp only
    rw [hs.rowCount_eq, ht.rowCount_eq, hs.name_eq]
    rfl
  unfold tableDifferences structureOr
  dsimp only
  by_cases hrows : e.rows.size ≠ a.rows.size
  · unfold compareTable
    rw [hcounts, if_pos hrows, if_pos hrows]
    rfl
  by_cases hempty : e.rows.size = 0
  · unfold compareTable
    rw [hcounts, if_neg hrows, if_pos hempty, if_neg hrows, if_pos hempty]
    rfl
  rw [if_neg hrows, if_neg hempty] at hcounts
  rw [compareTable_of_align hcounts, hs.columns_eq, ht.columns_eq, hs.name_eq, if_neg hrows,
    if_neg hempty]
  dsimp only
  split_ifs with hlength hall hkeys
  · rfl
  · rfl
  · rfl
  · -- The structure agrees, so the cells decide.
    obtain ⟨count, hwalk⟩ := compareRows_alignedPair comparators options.additional hs ht
      (not_not.mp hrows) fun p hp => pairedIn_of_mem_zip (not_not.mp hkeys) hp
    rw [hwalk]
    simp [pairDifferences]

end Reading

/-- A comparison of tables in memory comes to its end with the differences of the tables. -/
theorem compareTable_eq (e a : MemoryTable) (comparators : ColumnComparators)
    (options : CompareOptions) :
    (compareTable (.distinct e.toTable a.toTable) comparators options : Findings Unit) =
      ⟨tableDifferences comparators options e a, .ok ()⟩ :=
  compareTable_of_readsAs e.toTable_readsAs a.toTable_readsAs comparators options

end TableDiff
