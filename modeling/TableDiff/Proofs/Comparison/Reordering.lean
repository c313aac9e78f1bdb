import TableDiff.Proofs.Comparison.Datasets

/-!
# Columns and tables in another order

Columns and tables are paired by their keys, and cells are looked up by name. Where no key comes
twice, a comparison therefore finds the same, in the same order, in whatever order the columns of a
table or the tables of a dataset stand.
-/

namespace TableDiff

/-- A table has the columns of another one in some order, and in each row the same cells under
them. -/
structure MemoryTable.Reordered (t u : MemoryTable) : Prop where
  name_eq : u.name = t.name
  columns_perm : u.columns.Perm t.columns
  rows_perm : List.Forall₂ (fun row row' => (u.columns.zip row').Perm (t.columns.zip row))
    t.rows.toList u.rows.toList

namespace MemoryTable.Reordered

variable {t u : MemoryTable}

theorem size_eq (h : t.Reordered u) : u.rows.size = t.rows.size := by
  simpa using h.rows_perm.length_eq.symm

theorem sorted_eq (h : t.Reordered u) (hnodup : (t.columns.map Column.key).Nodup) :
    Column.sorted u.columns = Column.sorted t.columns :=
  mergeSort_key_eq_of_perm hnodup h.columns_perm

theorem mem_keys_iff (h : t.Reordered u) (key : String) :
    key ∈ u.columns.map Column.key ↔ key ∈ t.columns.map Column.key :=
  (h.columns_perm.map Column.key).mem_iff

/-- Under a key each row has the cell that it had. -/
theorem cellOf_eq (h : t.Reordered u) (hnodup : (t.columns.map Column.key).Nodup) {row : Nat}
    (hrow : row < t.rows.size) (key : String) : u.cellOf row key = t.cellOf row key := by
  have hrow' : row < u.rows.size := h.size_eq ▸ hrow
  have hperm : (u.columns.zip u.rows[row]).Perm (t.columns.zip t.rows[row]) := by
    simpa using (List.forall₂_iff_get.mp h.rows_perm).2 row (by simpa using hrow)
      (by simpa using hrow')
  have hwidth : t.rows[row].length = t.columns.length := t.width _ (Array.getElem_mem hrow)
  -- A row is as wide as its table, so the keys of its cells are those of the columns, all distinct.
  have hcolumns : (t.columns.zip t.rows[row]).map (·.1.key) = t.columns.map Column.key := by
    have hfirst : (t.columns.zip t.rows[row]).map Prod.fst = t.columns :=
      List.map_fst_zip hwidth.ge
    rw [← congrArg (List.map Column.key) hfirst, List.map_map]
    rfl
  unfold cellOf
  rw [Array.getElem?_eq_getElem hrow, Array.getElem?_eq_getElem hrow', Option.getD_some,
    Option.getD_some, find?_key_eq_of_perm (hcolumns ▸ hnodup) hperm]

/-- Lookups by name do not see the order of the columns, and fail alike. -/
theorem value_eq (h : t.Reordered u) (hnodup : (t.columns.map Column.key).Nodup) (row : Nat)
    (name : String) : u.value row name = t.value row name := by
  by_cases hname : nameKey name ∈ t.columns.map Column.key
  · have hname' := (h.mem_keys_iff (nameKey name)).mpr hname
    by_cases hrow : row < t.rows.size
    · rw [value_of_lt hrow hname, value_of_lt (h.size_eq ▸ hrow) hname', h.cellOf_eq hnodup hrow]
    · have hbeyond : t.rows.size ≤ row := Nat.le_of_not_lt hrow
      rw [value_of_le hbeyond hname, value_of_le (h.size_eq ▸ hbeyond) hname', h.name_eq]
  · have hname' := (h.mem_keys_iff (nameKey name)).not.mpr hname
    rw [value_of_not_mem hname, value_of_not_mem hname', h.name_eq]

end MemoryTable.Reordered

/-! ## Comparisons -/

section Tables

variable {e e' a a' : MemoryTable}

theorem cellDifference?_reordered (he : e.Reordered e') (ha : a.Reordered a')
    (hekeys : (e.columns.map Column.key).Nodup) (hakeys : (a.columns.map Column.key).Nodup)
    (comparators : ColumnComparators) (additional : List String) {row : Nat}
    (hrow : row < e.rows.size) (hrow' : row < a.rows.size) (p : Column × Column) :
    cellDifference? comparators additional e' a' row p =
      cellDifference? comparators additional e a row p := by
  have hadditional : RowWalk.additionalColumns e'.toTable a'.toTable row additional =
      RowWalk.additionalColumns e.toTable a.toTable row additional := by
    unfold RowWalk.additionalColumns
    apply List.map_congr_left
    intro name _
    show Message.AdditionalColumn.mk name (RowWalk.renderLookup (e'.value row name))
      (RowWalk.renderLookup (a'.value row name)) = _
    rw [he.value_eq hekeys, ha.value_eq hakeys]
    rfl
  unfold cellDifference?
  rw [he.cellOf_eq hekeys hrow, ha.cellOf_eq hakeys hrow', hadditional, he.name_eq]

/-- The differences of two tables do not depend on the order of the columns. -/
theorem tableDifferences_reordered (he : e.Reordered e') (ha : a.Reordered a')
    (hekeys : (e.columns.map Column.key).Nodup) (hakeys : (a.columns.map Column.key).Nodup)
    (comparators : ColumnComparators) (options : CompareOptions) :
    tableDifferences comparators options e' a' = tableDifferences comparators options e a := by
  unfold tableDifferences structureOr
  dsimp only
  rw [he.sorted_eq hekeys, ha.sorted_eq hakeys, he.name_eq, he.size_eq, ha.size_eq,
    he.columns_perm.length_eq, ha.columns_perm.length_eq]
  split_ifs with hrows hempty
  · rfl
  · rfl
  · rfl
  · rfl
  · rfl
  · -- The same pairs of columns are compared, in the same rows.
    unfold pairDifferences
    rw [he.name_eq, he.size_eq]
    congr 1
    apply List.flatMap_congr
    intro row hmem
    have hrow : row < e.rows.size := List.mem_range.mp hmem
    apply List.filterMap_congr
    intro p _
    exact cellDifference?_reordered he ha hekeys hakeys comparators options.additional hrow
      (not_not.mp hrows ▸ hrow) p

end Tables

section Datasets

variable {d d' : MemoryDataset} {caseSensitive : Bool}

theorem sortedTables_eq_of_perm (h : d'.tables.Perm d.tables)
    (hkeys : (d.tables.map (·.tableKey caseSensitive)).Nodup) :
    d'.sortedTables caseSensitive = d.sortedTables caseSensitive :=
  mergeSort_key_eq_of_perm hkeys h

/-- A table has the same partner in whatever order the other tables stand. -/
theorem partnerDifferences_eq_of_perm {options : CompareOptions} (h : d'.tables.Perm d.tables)
    (hkeys : (d.tables.map (·.tableKey options.caseSensitiveTables)).Nodup)
    (source : ComparatorSource) :
    partnerDifferences source options d'.tables = partnerDifferences source options d.tables := by
  funext t
  unfold partnerDifferences
  rw [find?_key_eq_of_perm hkeys h]

end Datasets

/-- What is collected does not depend on the order of the columns of a table, or on the order of
the tables of a dataset. -/
theorem collect_reordered (source : ComparatorSource) (options : CompareOptions) :
    (∀ e e' a a' : MemoryTable, (e.columns.map Column.key).Nodup →
      (a.columns.map Column.key).Nodup → e.Reordered e' → a.Reordered a' →
      Reporter.Run.collect
          (compareTable (.distinct e'.toTable a'.toTable) (source e'.name) options) =
        Reporter.Run.collect
          (compareTable (.distinct e.toTable a.toTable) (source e.name) options)) ∧
    (∀ e e' d d' : MemoryDataset,
      (e.tables.map (·.tableKey options.caseSensitiveTables)).Nodup →
      (d.tables.map (·.tableKey options.caseSensitiveTables)).Nodup →
      e'.tables.Perm e.tables → d'.tables.Perm d.tables →
      Reporter.Run.collect (compareDatasets (.distinct e'.toDataset d'.toDataset) source options) =
        Reporter.Run.collect
          (compareDatasets (.distinct e.toDataset d.toDataset) source options)) := by
  constructor
  · intro e e' a a' hekeys hakeys he ha
    rw [Reporter.collect_compareTable (compareTable_eq e' a' _ options),
      Reporter.collect_compareTable (compareTable_eq e a _ options), he.name_eq,
      tableDifferences_reordered he ha hekeys hakeys]
  · intro e e' d d' hekeys hdkeys he hd
    rw [Reporter.collect_compareDatasets (compareDatasets_eq (e := e') source options),
      Reporter.collect_compareDatasets (compareDatasets_eq source options),
      sortedTables_eq_of_perm he hekeys, sortedTables_eq_of_perm hd hdkeys,
      partnerDifferences_eq_of_perm hd hdkeys]

/-- A table with its two columns the other way round, alone and as one of two tables. -/
theorem collect_reordered_two_columns :
    let e : MemoryTable :=
      ⟨"T", [.untyped "A", .untyped "B"], #[[some (.text "1"), none]], by simp⟩
    let e' : MemoryTable :=
      ⟨"T", [.untyped "B", .untyped "A"], #[[none, some (.text "1")]], by simp⟩
    let a : MemoryTable :=
      ⟨"T", [.untyped "b", .untyped "a"], #[[none, some (.text "2")]], by simp⟩
    let s : MemoryTable := .empty "s" [.untyped "A"]
    let d : MemoryDataset := .ofTables false [e, s] (by decide)
    let d' : MemoryDataset := .ofTables false [s, e] (by decide)
    let source := TableComparators.empty.source
    ((e.columns.map Column.key).Nodup ∧ (a.columns.map Column.key).Nodup ∧ e.Reordered e' ∧
      a.Reordered a ∧
      Reporter.Run.collect (compareTable (.distinct e'.toTable a.toTable) (source "T") .default) =
        Reporter.Run.collect
          (compareTable (.distinct e.toTable a.toTable) (source "T") .default)) ∧
    ((d.tables.map (·.tableKey false)).Nodup ∧ d'.tables.Perm d.tables ∧
      Reporter.Run.collect (compareDatasets (.distinct d'.toDataset d.toDataset) source .default) =
        Reporter.Run.collect
          (compareDatasets (.distinct d.toDataset d.toDataset) source .default)) := by
  intro e e' a s d d' source
  have hkeys : (e.columns.map Column.key).Nodup := by decide
  have hakeys : (a.columns.map Column.key).Nodup := by decide
  have he : e.Reordered e' := ⟨rfl, .swap _ _ _, .cons (.swap _ _ _) .nil⟩
  have ha : a.Reordered a := ⟨rfl, .refl _, .cons (.refl _) .nil⟩
  have hdkeys : (d.tables.map (·.tableKey false)).Nodup := by decide
  have hd : d'.tables.Perm d.tables := .swap _ _ _
  have hboth := collect_reordered source .default
  exact ⟨⟨hkeys, hakeys, he, ha, hboth.1 e e' a a hkeys hakeys he ha⟩,
    hdkeys, hd, hboth.2 d d' d d hdkeys hdkeys hd (.refl _)⟩

end TableDiff
