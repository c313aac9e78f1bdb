import TableDiff.Dataset.Sorted
import TableDiff.Proofs.Table.Rows

/-!
# Sorted tables in memory

A table is sorted by numbering its rows and sorting the numbers by the key cells of the rows
(`Table.HasKeys.sort_eq`). So a table in memory is sorted by arranging its rows in an order of their
numbers (`MemoryTable.sortOrder`). The sorted view of the table reads as the arranged one, and so
does its copy.
-/

namespace TableDiff

/-! ## Sorting lists -/

section Sorting

variable {α β : Type}

theorem insertDescending_eq (less : α → α → Bool) (x : α) (xs : List α) :
    insertDescending less x xs = xs.orderedInsert (fun a b => ¬ less a b) x := by
  induction xs with
  | nil => rfl
  | cons y rest ih =>
    unfold insertDescending
    rw [List.orderedInsert_cons, ih]
    by_cases h : less x y <;> simp [h]

/-- Sorting by insertion from first to last is sorting the reversed list downward and reading the
result backward. -/
theorem insertionSort_eq (less : α → α → Bool) (xs : List α) :
    insertionSort less xs = (xs.reverse.insertionSort fun a b => ¬ less a b).reverse := by
  unfold insertionSort List.insertionSort
  rw [List.foldr_reverse]
  congr 2
  funext sorted x
  exact insertDescending_eq less x sorted

theorem insertionSort_perm (less : α → α → Bool) (xs : List α) :
    (insertionSort less xs).Perm xs := by
  rw [insertionSort_eq]
  exact (List.reverse_perm _).trans
    ((List.perm_insertionSort _ _).trans (List.reverse_perm xs))

/-- A function that respects the order on the elements of a list takes the sorted list to the
sorted images. -/
theorem map_insertionSort {less : α → α → Bool} {below : β → β → Bool} {f : α → β} {xs : List α}
    (h : ∀ a ∈ xs, ∀ b ∈ xs, less a b = below (f a) (f b)) :
    (insertionSort less xs).map f = insertionSort below (xs.map f) := by
  rw [insertionSort_eq, insertionSort_eq, List.map_reverse, ← List.map_reverse (l := xs)]
  congr 1
  apply List.map_insertionSort
  intro a ha b hb
  rw [h a (List.mem_reverse.mp ha) b (List.mem_reverse.mp hb)]

theorem insertionSort_map (less : β → β → Bool) (f : α → β) (xs : List α) :
    insertionSort less (xs.map f) = (insertionSort (fun a b => less (f a) (f b)) xs).map f :=
  (map_insertionSort (f := f) fun _ _ _ _ => rfl).symm

variable [LinearOrder β]

/-- The elements of a list from the least to the greatest. -/
def ascending (xs : List β) : List β := insertionSort (fun a b => decide (a < b)) xs

theorem pairwise_ascending (xs : List β) : (ascending xs).Pairwise (· ≤ ·) := by
  have htotal : Std.Total fun a b : β => ¬ decide (a < b) = true := ⟨fun a b => by
    simpa using le_total b a⟩
  have htrans : IsTrans β fun a b => ¬ decide (a < b) = true := ⟨fun a b c hab hbc => by
    simp only [decide_eq_true_eq, not_lt] at hab hbc ⊢
    exact hbc.trans hab⟩
  unfold ascending
  rw [insertionSort_eq, List.pairwise_reverse]
  refine (List.pairwise_insertionSort _ _).imp fun h => ?_
  simpa using h

/-- Sorting by the images of the elements sorts the images. -/
theorem map_insertionSort_eq_ascending {less : α → α → Bool} {f : α → β} {xs : List α}
    (h : ∀ a ∈ xs, ∀ b ∈ xs, less a b = true ↔ f a < f b) :
    (insertionSort less xs).map f = ascending (xs.map f) :=
  map_insertionSort fun a ha b hb =>
    Bool.eq_iff_iff.mpr ((h a ha b hb).trans decide_eq_true_iff.symm)

/-- The sorted list depends only on the elements. -/
theorem ascending_congr {xs ys : List β} (h : xs.Perm ys) : ascending xs = ascending ys :=
  List.Perm.eq_of_pairwise (fun _ _ _ _ => le_antisymm) (pairwise_ascending xs)
    (pairwise_ascending ys)
    ((insertionSort_perm _ xs).trans (h.trans (insertionSort_perm _ ys).symm))

end Sorting

/-! ## Tables with keys -/

namespace Table

/-- The name of the column that a key names. -/
def keyName (t : Table) (key : String) : String := ((t.column? key).map (·.name)).getD key

/-- The cells of a row under the columns that keys name. -/
def keyCells (t : Table) (keys : List String) (row : Nat) : List Cell :=
  keys.map fun key => t.cellAt row (t.keyName key)

/-- The rows with their key cells, in the order of the table. -/
def keyedRows (t : Table) (keys : List String) (n : Nat) : List (Nat × List Cell) :=
  (List.range n).map fun row => (row, t.keyCells keys row)

/-- A table counts `n` rows, and every key names a column of it whose cells can be read. -/
structure HasKeys (t : Table) (keys : List String) (n : Nat) : Prop where
  rowCount_eq : t.rowCount = some n
  found : ∀ key ∈ keys, (t.column? key).isSome = true
  read : ∀ key ∈ keys, ∀ row < n, ∃ cell, t.value row (t.keyName key) = .ok cell

variable {t : Table} {keys : List String} {n : Nat}

theorem resolveKey_eq {key : String} (h : (t.column? key).isSome = true) :
    SortedTable.resolveKey t key = .ok (t.keyName key) := by
  obtain ⟨c, hc⟩ := Option.isSome_iff_exists.mp h
  unfold SortedTable.resolveKey keyName
  rw [hc]
  rfl

/-- In a table of a number of rows the cells under a key can be read. -/
theorem HasRows.hasKeys (h : t.HasRows n) (hcount : t.rowCount = some n)
    (hfound : ∀ key ∈ keys, (t.column? key).isSome = true) : t.HasKeys keys n where
  rowCount_eq := hcount
  found := hfound
  read key hkey row hrow := by
    obtain ⟨c, hc⟩ := Option.isSome_iff_exists.mp (hfound key hkey)
    have hname : t.keyName key = c.name := by
      unfold keyName
      rw [hc]
      rfl
    have hmem : c ∈ t.columns := List.mem_of_find?_eq_some hc
    rw [hname]
    exact ⟨_, h.value_eq hrow (List.mem_map_of_mem hmem)⟩

theorem HasKeys.keyedRow_eq (h : t.HasKeys keys n) {row : Nat} (hrow : row < n) :
    SortedTable.keyedRow t (keys.map t.keyName) row = .ok (row, t.keyCells keys row) := by
  have hcells : traverse (t.value row) (keys.map t.keyName) =
      .ok ((keys.map t.keyName).map (t.cellAt row)) := by
    apply traverse_ok
    intro name hname
    obtain ⟨key, hkey, rfl⟩ := List.mem_map.mp hname
    obtain ⟨cell, hcell⟩ := h.read key hkey row hrow
    unfold cellAt
    rw [hcell]
  unfold SortedTable.keyedRow
  rw [hcells, List.map_map]
  rfl

/-- A table can be sorted by keys that it has. -/
theorem HasKeys.sort_eq (h : t.HasKeys keys n) :
    SortedTable.sort t keys =
      .ok ⟨t, ((insertionSort SortedTable.precedes (t.keyedRows keys n)).map (·.1)).toArray⟩ := by
  have hnames : traverse (SortedTable.resolveKey t) keys = .ok (keys.map t.keyName) :=
    traverse_ok fun key hkey => resolveKey_eq (h.found key hkey)
  have hkeyed : traverse (SortedTable.keyedRow t (keys.map t.keyName)) (List.range n) =
      .ok (t.keyedRows keys n) :=
    traverse_ok fun row hrow => h.keyedRow_eq (List.mem_range.mp hrow)
  unfold SortedTable.sort
  rw [h.rowCount_eq]
  -- With the count known, the keys are resolved and then the rows are read.
  show (traverse (SortedTable.resolveKey t) keys >>= _) = _
  rw [hnames]
  show (traverse (SortedTable.keyedRow t (keys.map t.keyName)) (List.range n) >>= _) = _
  rw [hkeyed]
  rfl

end Table

/-! ## Orders of rows -/

namespace MemoryTable

/-- The cells of a row under the columns that `keys` name. -/
def keyCells (t : MemoryTable) (keys : List String) (row : Nat) : List Cell :=
  keys.map fun key => t.cellOf row (nameKey key)

/-- The numbers of the rows in the order of their key cells. -/
def sortOrder (t : MemoryTable) (keys : List String) : List (Fin t.rows.size) :=
  insertionSort (fun r s => compareCells (t.keyCells keys r) (t.keyCells keys s) == .lt)
    (List.finRange t.rows.size)

theorem sortOrder_perm (t : MemoryTable) (keys : List String) :
    (t.sortOrder keys).Perm (List.finRange t.rows.size) :=
  insertionSort_perm _ _

@[simp] theorem length_sortOrder (t : MemoryTable) (keys : List String) :
    (t.sortOrder keys).length = t.rows.size :=
  (t.sortOrder_perm keys).length_eq.trans List.length_finRange

/-- The table with its rows in another order. -/
def arrange (t : MemoryTable) (order : List (Fin t.rows.size)) : MemoryTable where
  name := t.name
  columns := t.columns
  rows := (order.map (t.rows[·])).toArray
  width := by
    intro row hrow
    obtain ⟨r, -, rfl⟩ := List.mem_map.mp (List.mem_toArray.mp hrow)
    exact t.width _ (Array.getElem_mem r.isLt)

theorem toList_rows_eq (t : MemoryTable) :
    t.rows.toList = (List.finRange t.rows.size).map (t.rows[·]) := by
  apply List.ext_getElem <;> simp

variable {t : MemoryTable} {order : List (Fin t.rows.size)}

@[simp] theorem size_arrange : (t.arrange order).rows.size = order.length := by
  simp [arrange]

theorem rows_arrange_getElem {row : Nat} (h : row < order.length)
    (hrow : row < (t.arrange order).rows.size) :
    (t.arrange order).rows[row] = t.rows[order[row]] := by
  simp [arrange]

theorem cellOf_arrange {row : Nat} (h : row < order.length) (key : String) :
    (t.arrange order).cellOf row key = t.cellOf order[row] key := by
  have hrow : row < (t.arrange order).rows.size := size_arrange.symm ▸ h
  rw [cellOf_of_lt hrow, cellOf_of_lt order[row].isLt, rows_arrange_getElem h hrow]
  rfl

theorem value_arrange {row : Nat} (h : row < order.length) (name : String) :
    (t.arrange order).value row name = t.value order[row] name := by
  have hsize : row < (t.arrange order).rows.size := size_arrange.symm ▸ h
  have hrow : (t.arrange order).rows[row]? = some t.rows[order[row]] := by
    rw [Array.getElem?_eq_getElem hsize, rows_arrange_getElem h hsize]
  have hsource : t.rows[(order[row] : Nat)]? = some t.rows[order[row]] :=
    Array.getElem?_eq_getElem order[row].isLt
  unfold value
  rw [hrow, hsource]
  rfl

/-- The sorted view of a table shows the rows in the order of their numbers. -/
theorem toTable_readsAs_arrange (order : List (Fin t.rows.size)) :
    (SortedTable.toTable ⟨t.toTable, (order.map Fin.val).toArray⟩).ReadsAs (t.arrange order) where
  name_eq := rfl
  columns_eq := rfl
  rowCount_eq := by simp [SortedTable.toTable]
  value_eq row hrow name := by
    have hrow : row < order.length := size_arrange ▸ hrow
    have hsource : (order.map Fin.val).toArray[row]? = some (order[row] : Nat) := by
      simp [hrow]
    rw [value_arrange hrow]
    change SortedTable.value _ row name = _
    unfold SortedTable.value
    dsimp only
    rw [hsource]
    rfl
  value_beyond_eq row hrow name _ := by
    have hrow : order.length ≤ row := size_arrange ▸ hrow
    have hsource : (order.map Fin.val).toArray[row]? = none := by
      simp [hrow]
    change SortedTable.value _ row name = _
    unfold SortedTable.value
    dsimp only
    rw [hsource]
    rfl

/-! ## Sorting tables -/

/-- The name of the column that a key names. -/
def resolvedName (t : MemoryTable) (key : String) : String :=
  ((t.toTable.column? key).map (·.name)).getD key

@[simp] theorem nameKey_resolvedName (t : MemoryTable) (key : String) :
    nameKey (t.resolvedName key) = nameKey key := by
  unfold resolvedName
  cases hfind : t.toTable.column? key with
  | none => rfl
  | some c =>
    have hfirst : t.columns.find? (fun c : Column => c.isNamed key) = some c := hfind
    have hnamed : c.isNamed key = true := by simpa using List.find?_some hfirst
    exact (c.isNamed_iff key).mp hnamed

variable {keys : List String}

theorem column?_isSome_iff {key : String} :
    (t.toTable.column? key).isSome = true ↔ nameKey key ∈ t.columns.map Column.key := by
  show (t.columns.find? (·.isNamed key)).isSome = true ↔ _
  rw [List.find?_isSome, List.mem_map]
  simp only [Column.isNamed_iff]

/-- The cell under the column that a key names. -/
theorem cellAt_keyName {key : String} (hkey : nameKey key ∈ t.columns.map Column.key) {row : Nat}
    (hrow : row < t.rows.size) :
    t.toTable.cellAt row (t.toTable.keyName key) = t.cellOf row (nameKey key) := by
  show t.toTable.cellAt row (t.resolvedName key) = _
  have hname : nameKey (t.resolvedName key) ∈ t.columns.map Column.key := by
    rw [nameKey_resolvedName]
    exact hkey
  have hvalue : t.toTable.value row (t.resolvedName key) = .ok (t.cellOf row (nameKey key)) := by
    rw [← nameKey_resolvedName t key]
    exact value_of_lt hrow hname
  unfold Table.cellAt
  rw [hvalue]

/-- The key cells of a table in memory, as any table has them. -/
theorem keyCells_toTable (hkeys : ∀ key ∈ keys, nameKey key ∈ t.columns.map Column.key) {row : Nat}
    (hrow : row < t.rows.size) : t.toTable.keyCells keys row = t.keyCells keys row := by
  unfold Table.keyCells keyCells
  apply List.map_congr_left
  intro key hkey
  exact cellAt_keyName (hkeys key hkey) hrow

/-- A table in memory can be sorted by columns that it has. -/
theorem sort_eq (hkeys : ∀ key ∈ keys, nameKey key ∈ t.columns.map Column.key) :
    SortedTable.sort t.toTable keys =
      .ok ⟨t.toTable, ((t.sortOrder keys).map Fin.val).toArray⟩ := by
  have hkeyed : t.toTable.keyedRows keys t.rows.size =
      (List.range t.rows.size).map fun row => (row, t.keyCells keys row) := by
    apply List.map_congr_left
    intro row hrow
    rw [keyCells_toTable hkeys (List.mem_range.mp hrow)]
  have horder : (insertionSort SortedTable.precedes
      ((List.range t.rows.size).map fun row => (row, t.keyCells keys row))).map Prod.fst =
      (t.sortOrder keys).map Fin.val := by
    unfold sortOrder
    rw [← List.map_coe_finRange_eq_range, List.map_map, insertionSort_map, List.map_map]
    rfl
  have hfound : ∀ key ∈ keys, (t.toTable.column? key).isSome = true := fun key hkey =>
    column?_isSome_iff.mpr (hkeys key hkey)
  have hsort := (t.toTable_readsAs.hasRows.hasKeys rfl hfound).sort_eq
  rw [hkeyed, horder] at hsort
  exact hsort

/-- A table of distinct keys is sorted by arranging its rows. -/
theorem sortBy_eq (hnodup : (t.columns.map Column.key).Nodup) (hne : keys ≠ [])
    (hkeys : ∀ key ∈ keys, nameKey key ∈ t.columns.map Column.key) :
    t.sortBy keys = .ok (t.arrange (t.sortOrder keys)) := by
  unfold sortBy
  rw [if_neg hne, sort_eq hkeys]
  exact materialize_eq (toTable_readsAs_arrange _) hnodup

end MemoryTable

end TableDiff
