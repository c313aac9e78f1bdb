import TableDiff.Proofs.Loading
import TableDiff.Proofs.Table.Sorting

/-!
# Copies and sorted copies

A copy of a table holds every row, but reads its cells by name, and a name finds the first column
of its key. So the copy is the table exactly if columns of one key hold the same cells. A sorted
table is a copy of its sorted view, and keeps the rows under the same condition.
-/

namespace TableDiff

/-- A function that may be applied again without effect permutes a list only if it leaves the
elements as they are. -/
theorem map_perm_iff_of_idempotent {α : Type} {f : α → α} (hf : ∀ a, f (f a) = f a) {xs : List α} :
    (xs.map f).Perm xs ↔ ∀ x ∈ xs, f x = x := by
  constructor
  · intro hperm x hx
    obtain ⟨y, -, rfl⟩ := List.mem_map.mp (hperm.mem_iff.mpr hx)
    exact hf y
  · intro h
    rw [List.map_congr_left h, List.map_id']

namespace MemoryTable

variable {t u : MemoryTable} {cells : List Cell} {keys : List String}

/-! ## Rows that their names show as they are -/

/-- In every row columns of one key hold the same cell. -/
def AgreesByKey (t : MemoryTable) : Prop :=
  ∀ row ∈ t.rows.toList, ∀ i j, (hi : i < t.columns.length) → (hj : j < t.columns.length) →
    t.columns[i].key = t.columns[j].key → row[i]? = row[j]?

theorem exists_firstCell_eq {i : Nat} (hi : i < t.columns.length) :
    ∃ k, ∃ hk : k < t.columns.length, t.columns[k].key = t.columns[i].key ∧
      ∀ cells, t.firstCell cells t.columns[i].key = cells[k]?.join := by
  have hmem : t.columns[i] ∈ t.columns := List.getElem_mem hi
  have hsome : (t.columns.findIdx? (·.key == t.columns[i].key)).isSome := by
    rw [List.findIdx?_isSome, List.any_eq_true]
    exact ⟨_, hmem, beq_self_eq_true _⟩
  obtain ⟨k, hk⟩ := Option.isSome_iff_exists.mp hsome
  obtain ⟨hlt, hkey, -⟩ := List.findIdx?_eq_some_iff_getElem.mp hk
  refine ⟨k, hlt, beq_iff_eq.mp hkey, fun cells => ?_⟩
  unfold firstCell
  rw [hk, Option.bind_some]

theorem getElem?_reread {i : Nat} (hi : i < t.columns.length) :
    (t.reread cells)[i]? = some (t.firstCell cells t.columns[i].key) := by
  unfold reread
  rw [List.getElem?_map, List.getElem?_eq_getElem hi, Option.map_some]

/-- What the names show is not changed by reading it once more. -/
theorem reread_reread (t : MemoryTable) (cells : List Cell) :
    t.reread (t.reread cells) = t.reread cells := by
  unfold reread
  apply List.map_congr_left
  intro c hc
  obtain ⟨i, hi, rfl⟩ := List.getElem_of_mem hc
  -- The first column of the key holds its own cell after the first reading.
  obtain ⟨k, hk, hkey, hfirst⟩ := exists_firstCell_eq hi
  rw [hfirst]
  show (t.reread cells)[k]?.join = _
  rw [getElem?_reread hk, Option.join_some, hkey]

theorem reread_eq_self_iff (hwidth : cells.length = t.columns.length) :
    t.reread cells = cells ↔ ∀ i j, (hi : i < t.columns.length) → (hj : j < t.columns.length) →
      t.columns[i].key = t.columns[j].key → cells[i]? = cells[j]? := by
  constructor
  · intro h i j hi hj hkey
    rw [← h, getElem?_reread hi, getElem?_reread hj, hkey]
  · intro h
    apply List.ext_getElem?
    intro i
    by_cases hi : i < t.columns.length
    · obtain ⟨k, hk, hkey, hfirst⟩ := exists_firstCell_eq hi
      have hcell : cells[i]? = some cells[i] := List.getElem?_eq_getElem (hwidth ▸ hi)
      rw [getElem?_reread hi, hfirst, h k i hk hi hkey, hcell, Option.join_some]
    · rw [List.getElem?_eq_none (by simp [reread]; omega), List.getElem?_eq_none (by omega)]

theorem agreesByKey_iff : t.AgreesByKey ↔ ∀ row ∈ t.rows.toList, t.reread row = row := by
  unfold AgreesByKey
  apply forall₂_congr
  intro row hrow
  exact (reread_eq_self_iff (t.width row (Array.mem_toList_iff.mp hrow))).symm

/-! ## Copies -/

theorem byName_eq_self_iff : t.byName = t ↔ t.AgreesByKey := by
  rw [agreesByKey_iff]
  constructor
  · intro h row hrow
    have hrows : t.rows.toList.map t.reread = t.rows.toList.map id := by
      rw [← rows_byName, h, List.map_id]
    exact List.map_inj_left.mp hrows row hrow
  · intro h
    apply eq_of_parts
    · rfl
    · rfl
    rw [rows_byName, List.map_congr_left h, List.map_id']

theorem rows_byName_perm_iff : t.byName.rows.toList.Perm t.rows.toList ↔ t.AgreesByKey := by
  rw [rows_byName, map_perm_iff_of_idempotent t.reread_reread, agreesByKey_iff]

/-! ## Sorted copies -/

theorem exists_of_mem_of_traverse {ε α β : Type} {f : α → Except ε β} {as : List α} {bs : List β}
    (h : traverse f as = .ok bs) : ∀ a ∈ as, ∃ b, f a = .ok b := by
  have hall := traverse_eq_ok_iff.mp h
  induction hall with
  | nil => simp
  | cons hab hrest ih =>
    exact List.forall_mem_cons.mpr ⟨⟨_, hab⟩, ih (traverse_eq_ok_iff.mpr hrest)⟩

/-- A table is only sorted by columns that it has. -/
theorem mem_keys_of_sort {s : SortedTable} (h : SortedTable.sort t.toTable keys = .ok s) :
    ∀ key ∈ keys, nameKey key ∈ t.columns.map Column.key := by
  intro key hkey
  change (traverse (SortedTable.resolveKey t.toTable) keys >>= _) = _ at h
  cases hnames : traverse (SortedTable.resolveKey t.toTable) keys with
  | error e =>
    rw [hnames] at h
    cases h
  | ok names =>
    obtain ⟨name, hname⟩ := exists_of_mem_of_traverse hnames key hkey
    rw [← column?_isSome_iff]
    unfold SortedTable.resolveKey at hname
    split at hname
    · rename_i c hc
      rw [hc]
      rfl
    · cases hname

theorem rows_arrange_perm (t : MemoryTable) (keys : List String) :
    (t.arrange (t.sortOrder keys)).rows.toList.Perm t.rows.toList := by
  rw [toList_rows_eq t]
  exact (t.sortOrder_perm keys).map _

/-- A sorted table is the copy of the table with its rows arranged. -/
theorem sortBy_eq_byName (hne : keys ≠ [])
    (hkeys : ∀ key ∈ keys, nameKey key ∈ t.columns.map Column.key) :
    t.sortBy keys = .ok (t.arrange (t.sortOrder keys)).byName := by
  unfold sortBy
  rw [if_neg hne, sort_eq hkeys]
  exact materialize_eq_byName (toTable_readsAs_arrange _)

/-- What is kept by sorting a table, where that succeeds. -/
theorem kept_of_sortBy (h : t.sortBy keys = .ok u) :
    u.name = t.name ∧ u.columns = t.columns ∧
      (u.rows.toList.Perm t.rows.toList ↔ keys = [] ∨ t.AgreesByKey) := by
  by_cases hne : keys = []
  · have hsame : t.sortBy keys = .ok t := if_pos hne
    obtain rfl : t = u := Except.ok.inj (hsame.symm.trans h)
    exact ⟨rfl, rfl, iff_of_true (List.Perm.refl _) (Or.inl hne)⟩
  · have hkeys : ∀ key ∈ keys, nameKey key ∈ t.columns.map Column.key := by
      unfold sortBy at h
      rw [if_neg hne] at h
      cases hsort : SortedTable.sort t.toTable keys with
      | error e =>
        rw [hsort] at h
        cases h
      | ok s => exact mem_keys_of_sort hsort
    obtain rfl := Except.ok.inj ((sortBy_eq_byName hne hkeys).symm.trans h)
    refine ⟨rfl, rfl, ?_⟩
    -- The rows are read again in their new order, which is a permutation either way.
    have hperm : (t.arrange (t.sortOrder keys)).byName.rows.toList.Perm t.byName.rows.toList := by
      rw [rows_byName, rows_byName]
      exact (t.rows_arrange_perm keys).map t.reread
    rw [or_iff_right hne, ← rows_byName_perm_iff]
    exact ⟨hperm.symm.trans, hperm.trans⟩

theorem exists_sortByOwn (t : MemoryTable) (keys : List String) :
    ∃ u, t.sortByOwn keys = .ok u := by
  unfold sortByOwn
  by_cases hne : (keys.filter fun key => (t.toTable.column? key).isSome) = []
  · exact ⟨t, if_pos hne⟩
  · apply Exists.intro
    apply sortBy_eq_byName hne
    intro key hkey
    exact column?_isSome_iff.mp (List.mem_filter.mp hkey).2

/-- A copy of a table, and a sorted one, keeps the name and the columns. It keeps the cells exactly
if columns of one key hold the same cells, unless there is nothing to sort by. -/
theorem copy_keeps_rows_iff (t : MemoryTable) :
    (∃ c, materialize t.toTable = .ok c ∧ c.name = t.name ∧ c.columns = t.columns ∧
      (c = t ↔ t.AgreesByKey)) ∧
    (∀ keys u, t.sortBy keys = .ok u → u.name = t.name ∧ u.columns = t.columns ∧
      (u.rows.toList.Perm t.rows.toList ↔ keys = [] ∨ t.AgreesByKey)) ∧
    ∀ keys, ∃ u, t.sortByOwn keys = .ok u ∧ u.name = t.name ∧ u.columns = t.columns ∧
      (u.rows.toList.Perm t.rows.toList ↔
        (∀ key ∈ keys, t.toTable.column? key = none) ∨ t.AgreesByKey) := by
  refine ⟨?_, fun keys u h => kept_of_sortBy h, fun keys => ?_⟩
  · exact ⟨t.byName, materialize_eq_byName t.toTable_readsAs, rfl, rfl, byName_eq_self_iff⟩
  · obtain ⟨u, hu⟩ := t.exists_sortByOwn keys
    obtain ⟨hname, hcolumns, hrows⟩ := kept_of_sortBy hu
    rw [List.filter_eq_nil_iff] at hrows
    simp only [Option.not_isSome_iff_eq_none] at hrows
    exact ⟨u, hu, hname, hcolumns, hrows⟩

/-- Columns `A` and `a` have one key and the same cells, so the rows are kept. -/
theorem copy_keeps_rows_alike :
    let t : MemoryTable := ⟨"T", [.untyped "A", .untyped "a", .untyped "B"],
      #[[some (.text "1"), some (.text "1"), some (.text "y")],
        [none, none, some (.text "x")]], by simp⟩
    materialize t.toTable = .ok t ∧
      ∃ u, t.sortBy ["b"] = .ok u ∧ u.rows.toList.Perm t.rows.toList := by
  intro t
  have hagrees : t.AgreesByKey := by
    rw [agreesByKey_iff]
    decide +kernel
  obtain ⟨⟨c, hcopy, -, -, hsame⟩, hsort, -⟩ := copy_keeps_rows_iff t
  rw [hsame.mpr hagrees] at hcopy
  have hsorted : t.sortBy ["b"] = .ok (t.arrange (t.sortOrder ["b"])).byName :=
    sortBy_eq_byName (by decide) (by decide +kernel)
  exact ⟨hcopy, _, hsorted, (hsort _ _ hsorted).2.2.mpr (Or.inr hagrees)⟩

/-- Columns `A` and `a` have one key, and a copy shows the first of them twice. -/
theorem copy_loses_cells :
    let t : MemoryTable := ⟨"T", [.untyped "A", .untyped "a"],
      #[[some (.text "1"), some (.text "2")]], by simp⟩
    materialize t.toTable ≠ .ok t ∧
      ∃ u, t.sortBy ["A"] = .ok u ∧ ¬u.rows.toList.Perm t.rows.toList := by
  intro t
  have hnot : ¬t.AgreesByKey := by
    rw [agreesByKey_iff]
    decide +kernel
  have hsorted : t.sortBy ["A"] = .ok (t.arrange (t.sortOrder ["A"])).byName :=
    sortBy_eq_byName (by decide) (by decide +kernel)
  refine ⟨fun hcopy => ?_, _, hsorted, fun hperm => ?_⟩
  · rw [materialize_eq_byName t.toTable_readsAs, Except.ok.injEq, byName_eq_self_iff] at hcopy
    exact hnot hcopy
  · rcases (kept_of_sortBy hsorted).2.2.mp hperm with hkeys | hagrees
    · cases hkeys
    · exact hnot hagrees

end MemoryTable

end TableDiff
