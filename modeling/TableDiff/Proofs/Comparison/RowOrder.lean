import TableDiff.Proofs.Comparison.Agreement
import TableDiff.Proofs.Loading
import TableDiff.Proofs.Table.Sorting

/-!
# Comparison without regard to the order of rows

The cells of a column are of one kind where a table was loaded. The rows of such a table are ordered
by the ranks of their cells, so the ranks of the sorted rows depend on the rows alone and not on the
order they had. Equality asks for no more than the ranks.
-/

namespace TableDiff

/-! ## Tables of one kind per column -/

/-- The cells of each column are of one kind, which is the datatype of the column unless that is
unknown. -/
structure MemoryTable.OfKinds (t : MemoryTable) (kinds : List Datatype) : Prop where
  declared : List.Forall₂ (fun c kind => c.datatype = .unknown ∨ c.datatype = kind) t.columns kinds
  cells : ∀ row ∈ t.rows.toList, List.Forall₂ Cell.IsOf kinds row

theorem Files.CellsOf.isOf {columns : List Column} {texts : List String} {cells : List Cell}
    (h : CellsOf columns texts cells) (hwidth : texts.length = columns.length) :
    List.Forall₂ Cell.IsOf (columns.map (·.datatype.kind)) cells := by
  have hcolumns : columns.map (·.datatype.kind) =
      (columns.zip texts).map fun p => p.1.datatype.kind := by
    conv_lhs => rw [← List.map_fst_zip (le_of_eq hwidth.symm), List.map_map]
    rfl
  rw [hcolumns, List.forall₂_map_left_iff]
  exact List.Forall₂.imp (fun _ _ hread => Cell.isOf_of_read hread) h

/-- Tables of records are of one kind per column. -/
theorem ofKinds_addRecords {path name : String} {e : Encoding} {columns : List Column} {line : Nat}
    {records : List Csv.Record} {t : MemoryTable}
    (h : Files.addRecords path e (.empty name columns) line records = .ok t) :
    t.OfKinds (columns.map (·.datatype.kind)) := by
  obtain ⟨-, hcolumns, texts, rows, htexts, hrows, hadded⟩ := Files.addRecords_eq_ok_iff.mp h
  constructor
  · rw [hcolumns, List.forall₂_map_right_iff]
    exact List.forall₂_same.mpr fun c _ => c.datatype.eq_unknown_or_eq_kind
  · intro row hrow
    rw [hadded] at hrow
    obtain ⟨i, hi, rfl⟩ := List.getElem_of_mem (show row ∈ rows from hrow)
    have htext : i < texts.length := hrows.length_eq ▸ hi
    have hwidth := (htexts.get (htexts.length_eq ▸ htext) htext).2
    exact (hrows.get htext hi).isOf hwidth

/-! ## Ranks of rows -/

/-- Lists of cells of the same kinds are compared as the lists of their ranks. -/
theorem compareCells_compares {kinds : List Datatype} {as bs : List Cell}
    (ha : List.Forall₂ Cell.IsOf kinds as) (hb : List.Forall₂ Cell.IsOf kinds bs) :
    (compareCells as bs).Compares (as.map Cell.rank) (bs.map Cell.rank) := by
  induction ha generalizing bs with
  | nil =>
    cases hb
    exact rfl
  | cons hc _ ih =>
    obtain ⟨d, ds, hd, hds, rfl⟩ := List.forall₂_cons_left_iff.mp hb
    exact compares_cons (Cell.compares_rank hc hd) (ih hds)

namespace MemoryTable

variable {t u : MemoryTable} {kinds : List Datatype}

theorem keyCells_all (hnodup : (t.columns.map Column.key).Nodup) {row : Nat}
    (hrow : row < t.rows.size) : t.keyCells (t.columns.map (·.name)) row = t.rows[row] := by
  unfold keyCells
  rw [List.map_map]
  exact map_cellOf_columns hnodup hrow

/-- The ranks of the rows of a table that is sorted by all columns are the sorted ranks. -/
theorem map_rank_sortOrder (hnodup : (t.columns.map Column.key).Nodup) (hkinds : t.OfKinds kinds) :
    (t.arrange (t.sortOrder (t.columns.map (·.name)))).rows.toList.map (·.map Cell.rank) =
      ascending (t.rows.toList.map (·.map Cell.rank)) := by
  change ((t.sortOrder _).map (t.rows[·])).map _ = _
  rw [toList_rows_eq t, List.map_map, List.map_map]
  refine map_insertionSort_eq_ascending fun r _ s _ => ?_
  have hcells : ∀ r : Fin t.rows.size, List.Forall₂ Cell.IsOf kinds t.rows[r] := fun r =>
    hkinds.cells _ (Array.getElem_mem_toList r.isLt)
  rw [keyCells_all hnodup r.isLt, keyCells_all hnodup s.isLt, beq_iff_eq]
  exact (compareCells_compares (hcells r) (hcells s)).eq_lt

theorem OfKinds.of_subset (h : t.OfKinds kinds) (hcolumns : u.columns = t.columns)
    (hrows : u.rows.toList ⊆ t.rows.toList) : u.OfKinds kinds :=
  ⟨hcolumns ▸ h.declared, fun row hrow => h.cells row (hrows hrow)⟩

theorem OfKinds.length_eq (h : t.OfKinds kinds) : t.columns.length = kinds.length :=
  h.declared.length_eq

theorem OfKinds.isOf_getElem (h : t.OfKinds kinds) {row i : Nat} (hrow : row < t.rows.size)
    (hi : i < kinds.length) (hcell : i < t.rows[row].length) :
    Cell.IsOf kinds[i] t.rows[row][i] :=
  (h.cells _ (Array.getElem_mem_toList hrow)).get hi hcell

theorem OfKinds.arrange (h : t.OfKinds kinds) (order : List (Fin t.rows.size)) :
    (t.arrange order).OfKinds kinds := by
  refine h.of_subset rfl fun row hrow => ?_
  obtain ⟨r, -, rfl⟩ := List.mem_map.mp (show row ∈ order.map (t.rows[·]) from hrow)
  exact Array.getElem_mem_toList r.isLt

end MemoryTable

/-! ## Comparison -/

/-- Equality accepts the cells of rows that have the same ranks. -/
theorem accepts_of_ranks {e a : MemoryTable} {kinds : List Datatype} (he : e.OfKinds kinds)
    (ha : a.OfKinds kinds) (hcolumns : a.columns = e.columns)
    (hnodup : (e.columns.map Column.key).Nodup)
    (hranks : e.rows.toList.map (·.map Cell.rank) = a.rows.toList.map (·.map Cell.rank))
    {row : Nat} (hrow : row < e.rows.size) {c : Column} (hc : c ∈ e.columns) :
    Comparator.equality.accepts c.datatype (e.cellOf row c.key) (a.cellOf row c.key) = true := by
  have hsize : e.rows.size = a.rows.size := by
    simpa using congrArg List.length hranks
  obtain ⟨i, hi, rfl⟩ := List.getElem_of_mem hc
  have hi' : i < a.columns.length := hcolumns ▸ hi
  have hrow' : row < a.rows.size := hsize ▸ hrow
  have hwidth : i < e.rows[row].length := by
    rw [e.width _ (Array.getElem_mem hrow)]
    exact hi
  have hwidth' : i < a.rows[row].length := by
    rw [a.width _ (Array.getElem_mem hrow')]
    exact hi'
  have hcolumn : a.columns[i] = e.columns[i] := by simp only [hcolumns]
  have hkinds : i < kinds.length := he.length_eq ▸ hi
  have hrows : e.rows[row].map Cell.rank = a.rows[row].map Cell.rank := by
    simpa [hrow, hrow'] using congrArg (·[row]?) hranks
  have hrank : e.rows[row][i].rank = a.rows[row][i].rank := by
    simpa [hwidth, hwidth'] using congrArg (·[i]?) hrows
  have hdeclared : e.columns[i].datatype = .unknown ∨ e.columns[i].datatype = kinds[i] :=
    he.declared.get hi hkinds
  have hcell' : a.cellOf row e.columns[i].key = a.rows[row][i] := by
    rw [← hcolumn]
    exact MemoryTable.cellOf_column (hcolumns ▸ hnodup) hrow' hi' hwidth'
  rw [MemoryTable.cellOf_column hnodup hrow hi hwidth, hcell', equality_accepts_iff hdeclared
    (he.isOf_getElem hrow hkinds hwidth) (ha.isOf_getElem hrow' hkinds hwidth')]
  exact hrank

/-- Tables of the same rows in any order are compared without a failure once they are sorted by all
columns. -/
theorem collectTables_sortByAll {t u : MemoryTable} {kinds : List Datatype}
    (hnodup : (t.columns.map Column.key).Nodup) (hkinds : t.OfKinds kinds)
    (hcolumns : u.columns = t.columns) (hrows : u.rows.toList.Perm t.rows.toList) :
    ∃ expected actual,
      SortedTable.sortByAll t.toTable = .ok expected ∧
      SortedTable.sortByAll u.toTable = .ok actual ∧
      Assertion.default.collectTables (.distinct expected.toTable actual.toTable) = .ok [] := by
  have hkeys : ∀ v : MemoryTable, ∀ key ∈ v.columns.map (·.name),
      nameKey key ∈ v.columns.map Column.key := by
    intro v key hkey
    obtain ⟨c, hc, rfl⟩ := List.mem_map.mp hkey
    exact List.mem_map_of_mem hc
  have hkinds' : u.OfKinds kinds := hkinds.of_subset hcolumns hrows.subset
  have hnodup' : (u.columns.map Column.key).Nodup := hcolumns ▸ hnodup
  -- The ranks of the rows are permuted as the rows are, and sorting them forgets the order.
  have hranks :
      (t.arrange (t.sortOrder (t.columns.map (·.name)))).rows.toList.map (·.map Cell.rank) =
        (u.arrange (u.sortOrder (u.columns.map (·.name)))).rows.toList.map (·.map Cell.rank) := by
    rw [MemoryTable.map_rank_sortOrder hnodup hkinds,
      MemoryTable.map_rank_sortOrder hnodup' hkinds']
    exact ascending_congr (hrows.symm.map _)
  have hsize : (t.arrange (t.sortOrder (t.columns.map (·.name)))).rows.size =
      (u.arrange (u.sortOrder (u.columns.map (·.name)))).rows.size := by
    simpa using hrows.length_eq.symm
  refine ⟨_, _, MemoryTable.sort_eq (hkeys t), MemoryTable.sort_eq (hkeys u), ?_⟩
  exact (collectTables_same_columns_iff (MemoryTable.toTable_readsAs_arrange _)
    (MemoryTable.toTable_readsAs_arrange _) hcolumns hsize).mpr fun row hrow c hc =>
      accepts_of_ranks (hkinds.arrange _) (hkinds'.arrange _) hcolumns hnodup hranks hrow hc

/-- Rows with empty cells, a repeated row, and two rows that are the same but for trailing zeros. -/
theorem collectTables_sortByAll_zeros :
    let columns : List Column := [⟨"A", .unknown, true⟩, ⟨"B", .integer, true⟩]
    let short : Value := .decimal ⟨false, 10, 1, by decide, by decide⟩
    let long : Value := .decimal ⟨false, 100, 2, by decide, by decide⟩
    let t : MemoryTable := ⟨"t", columns, #[[some short, some (.integer 2)], [none, none],
      [some long, some (.integer 2)], [none, none], [some short, some (.integer (-1))]], by decide⟩
    let u : MemoryTable := ⟨"u", columns, #[[some long, some (.integer 2)],
      [some short, some (.integer (-1))], [none, none], [none, none],
      [some short, some (.integer 2)]], by decide⟩
    (t.columns.map Column.key).Nodup ∧ t.OfKinds [.decimal, .integer] ∧ u.columns = t.columns ∧
    u.rows.toList.Perm t.rows.toList ∧
    ∃ expected actual,
      SortedTable.sortByAll t.toTable = .ok expected ∧
      SortedTable.sortByAll u.toTable = .ok actual ∧
      Assertion.default.collectTables (.distinct expected.toTable actual.toTable) = .ok [] := by
  intro columns short long t u
  have hnodup : (t.columns.map Column.key).Nodup := by decide
  have hkinds : t.OfKinds [.decimal, .integer] :=
    ⟨by simp [t, columns], by simp [t, short, long, Cell.IsOf, Value.datatype]⟩
  have hrows : u.rows.toList.Perm t.rows.toList := by decide
  exact ⟨hnodup, hkinds, rfl, hrows, collectTables_sortByAll hnodup hkinds rfl hrows⟩

end TableDiff
