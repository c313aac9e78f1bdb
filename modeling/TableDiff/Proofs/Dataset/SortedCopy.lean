import TableDiff.Proofs.Dataset.Additions
import TableDiff.Proofs.Table.Copying
import TableDiff.Proofs.Table.SortedView

/-!
# Sorted copies of datasets

A dataset is sorted table by table, each one by those of the keys that it has. A sorted table keeps
its name, so it can be added wherever its original could, and the sorted dataset has the tables of
the original one in their places.
-/

namespace TableDiff

/-! ## Sorted copies of tables -/

namespace MemoryTable

variable {t u : MemoryTable} {keys : List String}

/-- In each column the cells are of one kind, as far as they are not empty. -/
def OneKindEach (t : MemoryTable) : Prop :=
  ∃ kinds, ∀ row ∈ t.rows.toList, List.Forall₂ Cell.IsOf kinds row

/-- Those of the keys that name a column of the table. -/
def ownKeys (t : MemoryTable) (keys : List String) : List String :=
  keys.filter fun key => (t.toTable.column? key).isSome

/-- A table shows the rows of another one in the order of their key cells. -/
structure IsSortedCopy (t : MemoryTable) (keys : List String) (u : MemoryTable) : Prop where
  name_eq : u.name = t.name
  columns_eq : u.columns = t.columns
  size_eq : u.rows.size = t.rows.size
  ordered : ∀ r s, r < s → s < u.rows.size →
    compareCells (u.toTable.keyCells keys r) (u.toTable.keyCells keys s) ≠ .gt
  shows : ∃ order : List Nat, order.Perm (List.range t.rows.size) ∧
    ∀ r, (hr : r < order.length) → ∀ name, u.value r name = t.value order[r] name

theorem nameKey_mem_of_mem_ownKeys :
    ∀ key ∈ t.ownKeys keys, nameKey key ∈ t.columns.map Column.key := by
  intro key hkey
  exact column?_isSome_iff.mp (List.mem_filter.mp hkey).2

theorem isOf_join {kinds : List Datatype} {cells : List Cell}
    (h : List.Forall₂ Cell.IsOf kinds cells) (i : Nat) :
    Cell.IsOf (kinds[i]?.getD .unknown) (cells[i]?).join := by
  by_cases hi : i < cells.length
  · have hkind : i < kinds.length := h.length_eq ▸ hi
    rw [List.getElem?_eq_getElem hi, List.getElem?_eq_getElem hkind, Option.join_some,
      Option.getD_some]
    exact h.get hkind hi
  · rw [List.getElem?_eq_none (l := cells) (Nat.le_of_not_lt hi), Option.join_none]
    exact Cell.isOf_none _

/-- A table of one kind per column can be sorted by any keys that it has. -/
theorem OneKindEach.sortable (h : t.OneKindEach)
    (hkeys : ∀ key ∈ keys, nameKey key ∈ t.columns.map Column.key) :
    t.toTable.Sortable keys t.rows.size where
  toHasKeys := t.toTable_readsAs.hasRows.hasKeys rfl fun key hkey =>
    column?_isSome_iff.mpr (hkeys key hkey)
  one_kind key hkey := by
    obtain ⟨kinds, hkinds⟩ := h
    obtain ⟨i, hi, -⟩ := columnIndex_of_mem (hkeys key hkey)
    refine ⟨kinds[i]?.getD .unknown, fun row hrow => ?_⟩
    rw [cellAt_keyName (hkeys key hkey) hrow, cellOf_of_lt hrow, hi, Option.bind_some]
    exact isOf_join (hkinds _ (Array.getElem_mem_toList hrow)) i

theorem cellOf_byName {row : Nat} (hrow : row < t.rows.size) (key : String) :
    t.byName.cellOf row key = t.cellOf row key := by
  have hrow' : row < t.byName.rows.size := by
    rw [← Array.length_toList, rows_byName, List.length_map, Array.length_toList]
    exact hrow
  have hcells : t.byName.rows[row] = t.reread t.rows[row] := Array.getElem_map ..
  rw [cellOf_of_lt hrow', hcells, cellOf_of_lt hrow]
  show ((t.columns.findIdx? (·.key == key)).bind _).join = _
  cases hfind : t.columns.findIdx? (·.key == key) with
  | none => rfl
  | some i =>
    -- The first column of the key holds the cell that its name shows.
    obtain ⟨hi, hkey, -⟩ := List.findIdx?_eq_some_iff_getElem.mp hfind
    rw [Option.bind_some, getElem?_reread hi, beq_iff_eq.mp hkey, Option.join_some]
    unfold firstCell
    rw [hfind]

/-- A name shows the same cells in a copy that was made by names. -/
theorem value_byName (t : MemoryTable) (row : Nat) (name : String) :
    t.byName.value row name = t.value row name := by
  by_cases hname : nameKey name ∈ t.columns.map Column.key
  · have hsize : t.byName.rows.size = t.rows.size := Array.size_map
    by_cases hrow : row < t.rows.size
    · rw [value_of_lt (t := t.byName) (hsize.symm ▸ hrow) hname, value_of_lt hrow hname,
        cellOf_byName hrow]
    · have hle : t.rows.size ≤ row := Nat.le_of_not_lt hrow
      rw [value_of_le (t := t.byName) (hsize.symm ▸ hle) hname, value_of_le hle hname]
      rfl
  · rw [value_of_not_mem (t := t.byName) hname, value_of_not_mem hname]
    rfl

theorem isSortedCopy_nil (t : MemoryTable) : t.IsSortedCopy [] t where
  name_eq := rfl
  columns_eq := rfl
  size_eq := rfl
  ordered _ _ _ _ h := by cases h
  shows := by
    refine ⟨List.range t.rows.size, List.Perm.refl _, fun r hr name => ?_⟩
    rw [List.getElem_range]

/-- The order of the row numbers that sorting gives. -/
theorem OneKindEach.pairwise_sortOrder (h : t.OneKindEach)
    (hkeys : ∀ key ∈ keys, nameKey key ∈ t.columns.map Column.key) :
    (t.sortOrder keys).Pairwise fun (a b : Fin t.rows.size) =>
      compareCells (t.toTable.keyCells keys a) (t.toTable.keyCells keys b) ≠ .gt := by
  obtain ⟨s, hs, hsorts⟩ := (h.sortable hkeys).sorts
  obtain rfl := Except.ok.inj ((sort_eq hkeys).symm.trans hs)
  exact List.pairwise_map.mp hsorts.ordered

/-- A table of one kind per column is sorted by any keys that it has. -/
theorem OneKindEach.isSortedCopy (h : t.OneKindEach)
    (hkeys : ∀ key ∈ keys, nameKey key ∈ t.columns.map Column.key) :
    t.IsSortedCopy keys (t.arrange (t.sortOrder keys)).byName := by
  have hsize : (t.arrange (t.sortOrder keys)).byName.rows.size = (t.sortOrder keys).length :=
    Array.size_map.trans size_arrange
  have hvalue : ∀ r, (hr : r < (t.sortOrder keys).length) → ∀ name,
      (t.arrange (t.sortOrder keys)).byName.value r name =
        t.value (t.sortOrder keys)[r] name := by
    intro r hr name
    rw [value_byName, value_arrange hr]
  have hcells : ∀ r, (hr : r < (t.sortOrder keys).length) →
      (t.arrange (t.sortOrder keys)).byName.toTable.keyCells keys r =
        t.toTable.keyCells keys (t.sortOrder keys)[r] := by
    intro r hr
    apply List.map_congr_left
    intro key _
    have hcell : (t.arrange (t.sortOrder keys)).byName.toTable.value r (t.toTable.keyName key) =
        t.toTable.value (t.sortOrder keys)[r] (t.toTable.keyName key) := hvalue r hr _
    show Table.cellAt _ r (t.toTable.keyName key) = _
    unfold Table.cellAt
    rw [hcell]
  refine ⟨rfl, rfl, hsize.trans (t.length_sortOrder keys), fun r s hrs hs => ?_, ?_⟩
  · rw [hsize] at hs
    rw [hcells r (hrs.trans hs), hcells s hs]
    exact List.pairwise_iff_getElem.mp (h.pairwise_sortOrder hkeys) r s (hrs.trans hs) hs hrs
  · refine ⟨(t.sortOrder keys).map Fin.val, ?_, fun r hr name => ?_⟩
    · rw [← List.map_coe_finRange_eq_range]
      exact (t.sortOrder_perm keys).map _
    · rw [List.getElem_map]
      exact hvalue r (by simpa using hr) name

/-- Sorting a table by those of the keys that it has. -/
theorem OneKindEach.exists_sortByOwn (h : t.OneKindEach) (keys : List String) :
    ∃ u, t.sortByOwn keys = .ok u ∧ t.IsSortedCopy (t.ownKeys keys) u ∧
      (t.ownKeys keys = [] → u = t) := by
  have hkeys : ∀ key ∈ t.ownKeys keys, nameKey key ∈ t.columns.map Column.key :=
    nameKey_mem_of_mem_ownKeys
  by_cases hne : t.ownKeys keys = []
  · refine ⟨t, if_pos hne, ?_, fun _ => rfl⟩
    rw [hne]
    exact t.isSortedCopy_nil
  · exact ⟨_, sortBy_eq_byName hne hkeys, h.isSortedCopy hkeys, fun h => absurd h hne⟩

end MemoryTable

/-! ## Sorted copies of datasets -/

namespace MemoryDataset

variable {d : MemoryDataset} {keys : List String} {related : MemoryTable → MemoryTable → Prop}

/-- Tables that are sorted without a failure are added behind those that are there, if no key comes
twice among all of them. -/
theorem addSorted_of_sorts {ts : List MemoryTable}
    (hnodup : ((d.tables ++ ts).map (·.tableKey d.caseSensitive)).Nodup)
    (hsorts : ∀ t ∈ ts, ∃ u, t.sortByOwn keys = .ok u ∧ u.name = t.name ∧ related t u) :
    ∃ e us, d.addSorted keys ts = .ok e ∧ e.caseSensitive = d.caseSensitive ∧
      e.tables = d.tables ++ us ∧
      List.Forall₂ (fun t u => u.name = t.name ∧ related t u) ts us := by
  induction ts generalizing d with
  | nil => exact ⟨d, [], rfl, rfl, (List.append_nil _).symm, .nil⟩
  | cons t ts ih =>
    obtain ⟨⟨u, hu, hname, hrelated⟩, hrest⟩ := List.forall_mem_cons.mp hsorts
    have hkey : ∀ caseSensitive, u.tableKey caseSensitive = t.tableKey caseSensitive := by
      intro caseSensitive
      unfold MemoryTable.tableKey
      rw [hname]
    -- The sorted table has the key of its original, which none of those before it has.
    have hnew : ∀ v ∈ d.tables, v.tableKey d.caseSensitive ≠ u.tableKey d.caseSensitive := by
      intro v hv
      rw [List.map_append, List.nodup_append] at hnodup
      rw [hkey]
      exact hnodup.2.2 _ (List.mem_map_of_mem hv) _ (List.mem_map_of_mem List.mem_cons_self)
    obtain ⟨d', hd', hcase, htables⟩ := add_of_new hnew
    have hnodup' : ((d'.tables ++ ts).map (·.tableKey d'.caseSensitive)).Nodup := by
      rw [hcase, htables]
      simpa [hkey] using hnodup
    obtain ⟨e, us, he, hcase', htables', hall⟩ := ih hnodup' hrest
    refine ⟨e, u :: us, ?_, hcase'.trans hcase, ?_, .cons ⟨hname, hrelated⟩ hall⟩
    · unfold addSorted
      rw [hu]
      dsimp only
      rw [hd']
      exact he
    · rw [htables', htables, List.append_assoc]
      rfl

/-- A dataset whose tables are of one kind per column is sorted by any keys, also if some or all of
its tables lack them. The sorted dataset has the same tables in the same places, each one sorted by
those of the keys that it has, and unchanged if it has none. -/
theorem sortBy_sorts_each (hkinds : ∀ t ∈ d.tables, t.OneKindEach) (keys : List String) :
    ∃ e, d.sortBy keys = .ok e ∧ e.caseSensitive = d.caseSensitive ∧
      e.tableNames = d.tableNames ∧
      List.Forall₂ (fun t u => t.IsSortedCopy (t.ownKeys keys) u ∧ (t.ownKeys keys = [] → u = t))
        d.tables e.tables := by
  by_cases hne : keys = []
  · subst hne
    refine ⟨d, if_pos rfl, rfl, rfl, List.forall₂_same.mpr fun t _ => ?_⟩
    exact ⟨t.isSortedCopy_nil, fun _ => rfl⟩
  · have hsorts : ∀ t ∈ d.tables, ∃ u, t.sortByOwn keys = .ok u ∧ u.name = t.name ∧
        (t.IsSortedCopy (t.ownKeys keys) u ∧ (t.ownKeys keys = [] → u = t)) := by
      intro t ht
      obtain ⟨u, hu, hcopy, hsame⟩ := (hkinds t ht).exists_sortByOwn keys
      exact ⟨u, hu, hcopy.name_eq, hcopy, hsame⟩
    obtain ⟨e, us, he, hcase, htables, hall⟩ :=
      addSorted_of_sorts (d := .empty d.caseSensitive) d.nodup_keys hsorts
    obtain rfl : e.tables = us := htables
    refine ⟨e, ?_, hcase, ?_, hall.imp fun _ _ h => h.2⟩
    · unfold sortBy
      rw [if_neg hne]
      exact he
    · have hnames : List.Forall₂ (fun t u : MemoryTable => t.name = u.name) d.tables e.tables :=
        hall.imp fun _ _ h => h.1.symm
      unfold TableStore.tableNames
      rw [← List.forall₂_map_right_iff, ← List.forall₂_map_left_iff,
        List.forall₂_eq_eq_eq] at hnames
      exact hnames.symm

/-- A table with an empty key cell, one that lacks the keys, and a key that no table has. -/
theorem sortBy_sorts_each_partly :
    let t : MemoryTable := ⟨"T", [⟨"A", .integer, true⟩, .untyped "B"],
      #[[some (.integer 2), some (.text "x")], [none, some (.text "y")],
        [some (.integer 1), none]], by decide⟩
    let u : MemoryTable := ⟨"U", [.untyped "B"], #[[some (.text "z")], [some (.text "a")]],
      by decide⟩
    let d : MemoryDataset := .ofTables true [t, u] (by decide)
    (∀ t ∈ d.tables, t.OneKindEach) ∧
    ∃ e, d.sortBy ["a", "Z"] = .ok e ∧ e.caseSensitive = true ∧ e.tableNames = ["T", "U"] ∧
      List.Forall₂ (fun t u => t.IsSortedCopy (t.ownKeys ["a", "Z"]) u ∧
        (t.ownKeys ["a", "Z"] = [] → u = t)) d.tables e.tables := by
  intro t u d
  have ht : t.OneKindEach := ⟨[.integer, .string], by simp [t, Cell.IsOf, Value.datatype]⟩
  have hu : u.OneKindEach := ⟨[.string], by simp [u, Cell.IsOf, Value.datatype]⟩
  have hkinds : ∀ t ∈ d.tables, t.OneKindEach := by
    simpa [d] using And.intro ht hu
  exact ⟨hkinds, sortBy_sorts_each hkinds ["a", "Z"]⟩

end MemoryDataset

end TableDiff
