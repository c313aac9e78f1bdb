import TableDiff.Proofs.Table.Lookup

/-!
# Rows of tables in memory

A table in memory is its name, its columns and its rows. A copy reads them by the names of the
columns, so it holds the rows as these show them (`MemoryTable.byName`). If no key is repeated among
the columns, the cells by key are the rows themselves, and the copy is the table.
-/

namespace TableDiff.MemoryTable

theorem eq_of_parts {t u : MemoryTable} (hname : t.name = u.name) (hcolumns : t.columns = u.columns)
    (hrows : t.rows.toList = u.rows.toList) : t = u := by
  obtain ⟨name, columns, rows, width⟩ := t
  obtain ⟨name', columns', rows', width'⟩ := u
  obtain rfl : name = name' := hname
  obtain rfl : columns = columns' := hcolumns
  obtain rfl : rows = rows' := Array.toList_inj.mp hrows
  rfl

variable {t u : MemoryTable} {row : Nat}

theorem push_of_length_eq {cells : List Cell} (h : cells.length = t.columns.length) :
    ∃ u, t.push cells = .ok u ∧ u.name = t.name ∧ u.columns = t.columns ∧
      u.rows.toList = t.rows.toList ++ [cells] := by
  unfold push
  rw [dif_pos h]
  exact ⟨_, rfl, rfl, rfl, Array.toList_push⟩

/-! ## Columns of distinct keys -/

/-- The cell by the key of a column is the one at its position. -/
theorem cellOf_column (hnodup : (t.columns.map Column.key).Nodup) (hrow : row < t.rows.size)
    {i : Nat} (hi : i < t.columns.length) (hcell : i < t.rows[row].length) :
    t.cellOf row t.columns[i].key = t.rows[row][i] := by
  refine cellOf_eq_getElem hrow ?_ hcell
  rw [List.findIdx?_eq_some_iff_getElem]
  refine ⟨hi, beq_self_eq_true _, fun j hj hkey => ?_⟩
  have hi' : i < (t.columns.map Column.key).length := by
    rw [List.length_map]
    exact hi
  have hj' : j < (t.columns.map Column.key).length := hj.trans hi'
  have hkeys : (t.columns.map Column.key)[j] = (t.columns.map Column.key)[i] := by
    simpa using hkey
  exact absurd ((hnodup.getElem_inj_iff).mp hkeys) (by omega)

theorem map_cellOf_columns (hnodup : (t.columns.map Column.key).Nodup) (hrow : row < t.rows.size) :
    (t.columns.map fun c => t.cellOf row c.key) = t.rows[row] := by
  apply List.ext_getElem
  · rw [List.length_map, t.width _ (Array.getElem_mem hrow)]
  · intro i hi hcell
    rw [List.getElem_map]
    exact cellOf_column hnodup hrow (by simpa using hi) hcell

/-! ## Copies -/

/-- The cell of a row under the first column of a key. -/
def firstCell (t : MemoryTable) (cells : List Cell) (key : String) : Cell :=
  ((t.columns.findIdx? (·.key == key)).bind (cells[·]?)).join

/-- A row as its names show it: each column has the cell of the first column of its key. -/
def reread (t : MemoryTable) (cells : List Cell) : List Cell :=
  t.columns.map fun c => t.firstCell cells c.key

/-- The table as its names show it. -/
def byName (t : MemoryTable) : MemoryTable where
  name := t.name
  columns := t.columns
  rows := t.rows.map t.reread
  width := by
    intro row hrow
    obtain ⟨cells, -, rfl⟩ := Array.mem_map.mp hrow
    exact List.length_map _

theorem rows_byName (t : MemoryTable) : t.byName.rows.toList = t.rows.toList.map t.reread :=
  Array.toList_map

theorem byName_eq_of_nodup (hnodup : (t.columns.map Column.key).Nodup) : t.byName = t := by
  apply eq_of_parts
  · rfl
  · rfl
  rw [rows_byName]
  refine (List.map_congr_left fun cells hcells => ?_).trans (List.map_id _)
  obtain ⟨row, hrow, rfl⟩ := List.getElem_of_mem hcells
  rw [Array.length_toList] at hrow
  rw [Array.getElem_toList, id_eq]
  refine Eq.trans ?_ (map_cellOf_columns hnodup hrow)
  exact List.map_congr_left fun c _ => (cellOf_of_lt hrow c.key).symm

theorem readRow_eq {s : Table} (h : s.ReadsAs t) (hrow : row < t.rows.size) :
    readRow s row = .ok (t.reread t.rows[row]) := by
  unfold readRow
  rw [h.columns_eq]
  apply traverse_ok
  intro c hc
  rw [h.value_of_lt hrow (List.mem_map_of_mem hc)]
  exact congrArg Except.ok (cellOf_of_lt hrow c.key)

theorem readRows_eq {s : Table} (h : s.ReadsAs t) {count : Nat} (hname : u.name = t.name)
    (hcolumns : u.columns = t.columns)
    (hrows : u.rows.toList = (t.rows.toList.take row).map t.reread)
    (hcount : row + count = t.rows.size) : readRows s u row count = .ok t.byName := by
  -- The copy holds the rows before `row`, and each step adds the next one.
  induction count generalizing u row with
  | zero =>
    have hall : t.rows.toList.take row = t.rows.toList :=
      List.take_of_length_le (by rw [Array.length_toList]; omega)
    rw [hall, ← rows_byName] at hrows
    rw [eq_of_parts (u := t.byName) hname hcolumns hrows]
    rfl
  | succ count ih =>
    have hrow : row < t.rows.size := by omega
    have hwidth : (t.reread t.rows[row]).length = u.columns.length := by
      rw [hcolumns]
      exact List.length_map _
    obtain ⟨v, hpush, hname', hcolumns', hrows'⟩ := push_of_length_eq hwidth
    unfold readRows
    rw [readRow_eq h hrow]
    dsimp only
    rw [hpush]
    refine ih (hname'.trans hname) (hcolumns'.trans hcolumns) ?_ (by omega)
    rw [hrows', hrows, List.take_succ_eq_append_getElem (by rw [Array.length_toList]; exact hrow),
      Array.getElem_toList, List.map_append, List.map_singleton]

/-- The copy of a table shows what its names show. -/
theorem materialize_eq_byName {s : Table} (h : s.ReadsAs t) : materialize s = .ok t.byName := by
  unfold materialize
  rw [h.rowCount_eq]
  exact readRows_eq h h.name_eq h.columns_eq rfl (by omega)

/-- The copy of a table that reads as one of distinct keys is that table. -/
theorem materialize_eq {s : Table} (h : s.ReadsAs t) (hnodup : (t.columns.map Column.key).Nodup) :
    materialize s = .ok t := by
  rw [materialize_eq_byName h, byName_eq_of_nodup hnodup]

end TableDiff.MemoryTable
