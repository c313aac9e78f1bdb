import TableDiff.Proofs.Comparison.Agreement

/-!
# Changes of a cell

A table is compared with itself after one cell was changed. Cells are looked up by the names of
their columns, and a name finds the first column of its key, so the change is seen in the first
column of a key and nowhere else.
-/

namespace TableDiff

/-! ## Replacing a cell -/

namespace MemoryTable

/-- The cell in a row and a column, by position. -/
def cellAt (t : MemoryTable) (i j : Nat) : Cell := (t.rows[i]?.bind (·[j]?)).join

/-- The table with another cell in a row and a column, by position. -/
def replaceCell (t : MemoryTable) (i j : Nat) (v : Cell) : MemoryTable where
  name := t.name
  columns := t.columns
  rows := t.rows.mapIdx fun row cells => if row = i then cells.set j v else cells
  width := by
    intro cells hcells
    obtain ⟨row, hrow, rfl⟩ := Array.mem_mapIdx.mp hcells
    have hwidth := t.width _ (Array.getElem_mem hrow)
    split
    · rw [List.length_set, hwidth]
    · exact hwidth

@[simp] theorem replaceCell_columns (t : MemoryTable) (i j : Nat) (v : Cell) :
    (t.replaceCell i j v).columns = t.columns := rfl

@[simp] theorem size_replaceCell (t : MemoryTable) (i j : Nat) (v : Cell) :
    (t.replaceCell i j v).rows.size = t.rows.size := Array.size_mapIdx

/-- The column at a position is the first one of its key. -/
def FirstOfKey (t : MemoryTable) (j : Nat) (hj : j < t.columns.length) : Prop :=
  ∀ k (hk : k < j), t.columns[k].key ≠ t.columns[j].key

theorem findIdx?_key_eq_some_iff {t : MemoryTable} {j : Nat} (hj : j < t.columns.length)
    (key : String) :
    t.columns.findIdx? (·.key == key) = some j ↔ t.columns[j].key = key ∧ t.FirstOfKey j hj := by
  rw [List.findIdx?_eq_some_iff_getElem]
  simp only [beq_iff_eq]
  constructor
  · rintro ⟨_, hkey, hfirst⟩
    subst hkey
    exact ⟨rfl, hfirst⟩
  · rintro ⟨hkey, hfirst⟩
    subst hkey
    exact ⟨hj, rfl, hfirst⟩

/-- Cells by key after the change: only the first column of a key shows it. -/
theorem cellOf_replaceCell {t : MemoryTable} {i j : Nat} {v : Cell} (hj : j < t.columns.length)
    {row : Nat} (hrow : row < t.rows.size) (key : String) :
    (t.replaceCell i j v).cellOf row key =
      if row = i ∧ t.columns.findIdx? (·.key == key) = some j then v else t.cellOf row key := by
  have hrow' : row < (t.replaceCell i j v).rows.size := by
    rw [size_replaceCell]
    exact hrow
  have hcells : (t.replaceCell i j v).rows[row] =
      if row = i then t.rows[row].set j v else t.rows[row] :=
    Array.getElem_mapIdx hrow'
  have hwidth : t.rows[row].length = t.columns.length := t.width _ (Array.getElem_mem hrow)
  rw [cellOf_of_lt hrow', cellOf_of_lt hrow, hcells, replaceCell_columns]
  cases hfind : t.columns.findIdx? (·.key == key) with
  | none => simp
  | some k =>
    rw [Option.bind_some, Option.bind_some]
    -- Another row is as it was, and so is another position of the row.
    by_cases hri : row = i
    · rw [if_pos hri]
      by_cases hkj : k = j
      · rw [if_pos ⟨hri, congrArg some hkj⟩, hkj, List.getElem?_set_self (by omega)]
        rfl
      · rw [if_neg fun h => hkj (Option.some.inj h.2), List.getElem?_set_ne (Ne.symm hkj)]
    · rw [if_neg hri, if_neg fun h => hri h.1]

/-- The first column of a key is the one whose cells are found by the key. -/
theorem cellOf_eq_cellAt {t : MemoryTable} {i j : Nat} (hi : i < t.rows.size)
    (hj : j < t.columns.length) (hfirst : t.FirstOfKey j hj) :
    t.cellOf i t.columns[j].key = t.cellAt i j := by
  rw [cellOf_of_lt hi, (findIdx?_key_eq_some_iff hj _).mpr ⟨rfl, hfirst⟩, Option.bind_some]
  unfold cellAt
  rw [Array.getElem?_eq_getElem hi, Option.bind_some]

end MemoryTable

/-! ## Tables of the same columns -/

/-- Two tables with the same columns and equally many rows differ where equality does not accept the
cells of a row under some column. -/
theorem tableDifferences_ne_nil_iff {t u : MemoryTable} (hcolumns : u.columns = t.columns)
    (hrows : u.rows.size = t.rows.size) :
    tableDifferences (Assertion.default.comparators.source t.name) .default t u ≠ [] ↔
      ∃ row < t.rows.size, ∃ c ∈ t.columns,
        Comparator.equality.accepts c.datatype (t.cellOf row c.key) (u.cellOf row c.key) =
          false := by
  have hkeys : t.columns.map Column.key = u.columns.map Column.key := by
    rw [hcolumns]
  rw [Ne, tableDifferences_default_eq_nil_iff hkeys hrows.symm]
  simp only [forall_agreeAt_iff hcolumns]
  push Not
  simp only [Bool.not_eq_true]

/-- A cell that equality does not accept in place of the old one is reported exactly if it stands
in the first column of its key, or the table does not even agree with itself: a cell in a column
after another one of its key is never compared. -/
theorem collectTables_replaceCell (t : MemoryTable) (i j : Nat) (v : Cell) (hi : i < t.rows.size)
    (hj : j < t.columns.length)
    (hv : Comparator.equality.accepts t.columns[j].datatype (t.cellAt i j) v = false) :
    ∃ failures,
      Assertion.default.collectTables (.distinct t.toTable (t.replaceCell i j v).toTable) =
        .ok failures ∧
      (failures ≠ [] ↔ t.FirstOfKey j hj ∨
        ∃ row < t.rows.size, ∃ c ∈ t.columns,
          Comparator.equality.accepts c.datatype (t.cellOf row c.key) (t.cellOf row c.key) =
            false) := by
  refine ⟨_, Assertion.collectTables_of_findings (compareTable_eq t _ _ .default), ?_⟩
  rw [Ne, List.map_eq_nil_iff]
  refine (tableDifferences_ne_nil_iff (MemoryTable.replaceCell_columns ..)
    (MemoryTable.size_replaceCell ..)).trans ?_
  constructor
  -- A cell that is not accepted is the new one, or it was there before.
  · rintro ⟨row, hrow, c, hc, hnot⟩
    rw [MemoryTable.cellOf_replaceCell hj hrow] at hnot
    by_cases hseen : row = i ∧ t.columns.findIdx? (·.key == c.key) = some j
    · exact Or.inl ((MemoryTable.findIdx?_key_eq_some_iff hj _).mp hseen.2).2
    · rw [if_neg hseen] at hnot
      exact Or.inr ⟨row, hrow, c, hc, hnot⟩
  · by_cases hfirst : t.FirstOfKey j hj
    · intro _
      have hfind := (MemoryTable.findIdx?_key_eq_some_iff hj _).mpr ⟨rfl, hfirst⟩
      refine ⟨i, hi, t.columns[j], List.getElem_mem hj, ?_⟩
      rw [MemoryTable.cellOf_replaceCell hj hi, if_pos ⟨rfl, hfind⟩,
        MemoryTable.cellOf_eq_cellAt hi hj hfirst]
      exact hv
    · rintro (h | ⟨row, hrow, c, hc, hnot⟩)
      · exact absurd h hfirst
      · have hunseen : ¬ (row = i ∧ t.columns.findIdx? (·.key == c.key) = some j) := fun h =>
          hfirst ((MemoryTable.findIdx?_key_eq_some_iff hj _).mp h.2).2
        refine ⟨row, hrow, c, hc, ?_⟩
        rw [MemoryTable.cellOf_replaceCell hj hrow, if_neg hunseen]
        exact hnot

/-- A change in the second of two columns of one name is not reported. -/
theorem collectTables_replaceCell_repeated :
    let t : MemoryTable := ⟨"T", [.untyped "A", .untyped "A"],
      #[[some (.text "1"), some (.text "2")]], by simp⟩
    Comparator.equality.accepts .unknown (t.cellAt 0 1) (some (.text "3")) = false ∧
      Assertion.default.collectTables
        (.distinct t.toTable (t.replaceCell 0 1 (some (.text "3"))).toTable) = .ok [] := by
  intro t
  have hnone : tableDifferences (Assertion.default.comparators.source t.name) .default t
      (t.replaceCell 0 1 (some (.text "3"))) = [] := by
    by_contra h
    have hsome := (tableDifferences_ne_nil_iff (MemoryTable.replaceCell_columns ..)
      (MemoryTable.size_replaceCell ..)).mp h
    revert hsome
    decide
  have hcollect : Assertion.default.collectTables (.distinct t.toTable
      (t.replaceCell 0 1 (some (.text "3"))).toTable) =
      .ok ((tableDifferences (Assertion.default.comparators.source t.name) .default t
        (t.replaceCell 0 1 (some (.text "3")))).map Difference.toFailure) :=
    Assertion.collectTables_of_findings (compareTable_eq t _ _ .default)
  rw [hnone] at hcollect
  exact ⟨by decide, hcollect⟩

/-- A change in the second of two columns of different names is reported. -/
theorem collectTables_replaceCell_second :
    let t : MemoryTable := ⟨"T", [.untyped "B", .untyped "a"],
      #[[some (.text "1"), some (.text "2")]], by simp⟩
    Comparator.equality.accepts .unknown (t.cellAt 0 1) (some (.text "3")) = false ∧
    ∃ failures,
      Assertion.default.collectTables
        (.distinct t.toTable (t.replaceCell 0 1 (some (.text "3"))).toTable) = .ok failures ∧
      failures ≠ [] := by
  intro t
  obtain ⟨failures, hcollect, hiff⟩ := collectTables_replaceCell t 0 1 (some (.text "3"))
    (by decide) (by decide) (by decide)
  have hkeys : nameKey "B" ≠ nameKey "a" := by decide
  refine ⟨by decide, failures, hcollect, hiff.mpr (Or.inl ?_)⟩
  intro k hk
  obtain rfl : k = 0 := by omega
  exact hkeys

end TableDiff
