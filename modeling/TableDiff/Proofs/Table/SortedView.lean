import TableDiff.Proofs.Comparison.RowOrder

/-!
# Sorted views

The sorted view of a table shows its rows in the order of their key cells, and rows of equal key
cells in the order they had. So the rows are ordered by their key cells and their numbers together,
and that order is strict: a view that is sorted again stays as it is.
-/

namespace TableDiff

/-! ## Sorting numbered elements -/

section Numbered

variable {α β : Type} {less below : α → α → Bool} {xs : List α}

theorem insertDescending_congr {x : α} {ys : List α} (h : ∀ y ∈ ys, less x y = below x y) :
    insertDescending less x ys = insertDescending below x ys := by
  induction ys with
  | nil => rfl
  | cons y ys ih =>
    unfold insertDescending
    rw [h y List.mem_cons_self, ih fun z hz => h z (List.mem_cons_of_mem y hz)]

theorem insertionSort_concat (less : α → α → Bool) (xs : List α) (x : α) :
    insertionSort less (xs ++ [x]) =
      (insertDescending less x (insertionSort less xs).reverse).reverse := by
  unfold insertionSort
  rw [List.foldl_append, List.reverse_reverse]
  rfl

/-- An element is only compared with those that stand before it. -/
theorem insertionSort_congr (h : xs.Pairwise fun a b => less b a = below b a) :
    insertionSort less xs = insertionSort below xs := by
  induction xs using List.reverseRecOn with
  | nil => rfl
  | append_singleton xs x ih =>
    rw [List.pairwise_append] at h
    rw [insertionSort_concat, insertionSort_concat, ih h.1]
    congr 1
    apply insertDescending_congr
    intro y hy
    have hmem : y ∈ xs := (insertionSort_perm below xs).mem_iff.mp (List.mem_reverse.mp hy)
    exact h.2.2 y hmem x (List.mem_singleton_self x)

variable [LinearOrder β] {rank : α → β} {number : α → Nat}

theorem ascending_eq_self {ys : List β} (h : ys.Pairwise (· ≤ ·)) : ascending ys = ys :=
  List.Perm.eq_of_pairwise (fun _ _ _ _ => le_antisymm) (pairwise_ascending ys) h
    (insertionSort_perm _ ys)

/-- Numbered elements are sorted by rank and number, although only the ranks are compared. -/
theorem map_insertionSort_numbered (hnumber : xs.Pairwise fun a b => number a < number b)
    (hrank : ∀ a ∈ xs, ∀ b ∈ xs, less a b = true ↔ rank a < rank b) :
    (insertionSort less xs).map (fun a => toLex (rank a, number a)) =
      ascending (xs.map fun a => toLex (rank a, number a)) := by
  have hsame : insertionSort less xs = insertionSort
      (fun a b => decide (toLex (rank a, number a) < toLex (rank b, number b))) xs := by
    apply insertionSort_congr
    apply List.Pairwise.imp_of_mem _ hnumber
    intro a b ha hb hab
    rw [Bool.eq_iff_iff, hrank b hb a ha, decide_eq_true_iff, Prod.Lex.toLex_lt_toLex]
    -- The later element has the greater number, which does not bring it forward.
    constructor
    · exact Or.inl
    · rintro (h | ⟨-, h⟩)
      · exact h
      · omega
  rw [hsame]
  exact map_insertionSort_eq_ascending fun _ _ _ _ => decide_eq_true_iff

theorem pairwise_insertionSort_numbered (hnumber : xs.Pairwise fun a b => number a < number b)
    (hrank : ∀ a ∈ xs, ∀ b ∈ xs, less a b = true ↔ rank a < rank b) :
    (insertionSort less xs).Pairwise fun a b =>
      rank a < rank b ∨ rank a = rank b ∧ number a < number b := by
  have hmap := map_insertionSort_numbered hnumber hrank
  have hle := pairwise_ascending (xs.map fun a => toLex (rank a, number a))
  have hne : (ascending (xs.map fun a => toLex (rank a, number a))).Nodup := by
    apply (insertionSort_perm _ _).nodup_iff.mpr
    apply List.pairwise_map.mpr
    apply hnumber.imp
    intro a b hab heq
    have hnumbers : number a = number b := congrArg (fun p => (ofLex p).2) heq
    omega
  rw [← hmap] at hle hne
  apply (List.pairwise_map.mp (hle.and hne)).imp
  intro a b h
  exact Prod.Lex.toLex_lt_toLex.mp (lt_of_le_of_ne h.1 h.2)

end Numbered

/-! ## Tables that can be sorted -/

theorem traverse_eq_error {ε α β : Type} {f : α → Except ε β} {before after : List α} {a : α}
    {e : ε} (hbefore : ∀ b ∈ before, ∃ c, f b = .ok c) (ha : f a = .error e) :
    traverse f (before ++ a :: after) = .error e := by
  induction before with
  | nil =>
    rw [List.nil_append, traverse, ha]
  | cons b before ih =>
    obtain ⟨c, hc⟩ := hbefore b List.mem_cons_self
    rw [List.cons_append, traverse, hc, ih fun d hd => hbefore d (List.mem_cons_of_mem b hd)]

namespace Table

/-- A table has the keys, and the cells under each of them are of one kind, as far as they are not
empty. -/
structure Sortable (t : Table) (keys : List String) (n : Nat) : Prop extends t.HasKeys keys n where
  one_kind : ∀ key ∈ keys, ∃ kind, ∀ row < n, Cell.IsOf kind (t.cellAt row (t.keyName key))

variable {t : Table} {keys : List String} {n : Nat}

theorem eq_of_parts {t u : Table} (hname : t.name = u.name) (hcolumns : t.columns = u.columns)
    (hcount : t.rowCount = u.rowCount) (hvalue : t.value = u.value) (hextent : t.extent = u.extent)
    (hidentity : t.identity = u.identity) : t = u := by
  cases t
  cases u
  cases hname
  cases hcolumns
  cases hcount
  cases hvalue
  cases hextent
  cases hidentity
  rfl

/-! ## The order of the rows -/

/-- The key cells of a row are of the same kinds in every row. -/
theorem Sortable.exists_kinds (h : t.Sortable keys n) :
    ∃ kinds, ∀ row < n, List.Forall₂ Cell.IsOf kinds (t.keyCells keys row) := by
  have hkinds : ∀ key, ∃ kind, key ∈ keys →
      ∀ row < n, Cell.IsOf kind (t.cellAt row (t.keyName key)) := by
    intro key
    by_cases hkey : key ∈ keys
    · obtain ⟨kind, hkind⟩ := h.one_kind key hkey
      exact ⟨kind, fun _ => hkind⟩
    · exact ⟨.unknown, fun hmem => absurd hmem hkey⟩
  choose kindOf hkindOf using hkinds
  refine ⟨keys.map kindOf, fun row hrow => ?_⟩
  unfold keyCells
  rw [List.forall₂_map_left_iff, List.forall₂_map_right_iff]
  exact List.forall₂_same.mpr fun key hkey => hkindOf key hkey row hrow

theorem Sortable.compares_keyCells (h : t.Sortable keys n) {r s : Nat} (hr : r < n) (hs : s < n) :
    (compareCells (t.keyCells keys r) (t.keyCells keys s)).Compares
      ((t.keyCells keys r).map Cell.rank) ((t.keyCells keys s).map Cell.rank) := by
  obtain ⟨kinds, hkinds⟩ := h.exists_kinds
  exact compareCells_compares (hkinds r hr) (hkinds s hs)

theorem mem_keyedRows {p : Nat × List Cell} (hp : p ∈ t.keyedRows keys n) :
    p.1 < n ∧ p.2 = t.keyCells keys p.1 := by
  obtain ⟨row, hrow, rfl⟩ := List.mem_map.mp hp
  exact ⟨List.mem_range.mp hrow, rfl⟩

theorem pairwise_keyedRows (t : Table) (keys : List String) (n : Nat) :
    (t.keyedRows keys n).Pairwise fun a b => a.1 < b.1 :=
  List.pairwise_map.mpr List.pairwise_lt_range

theorem Sortable.precedes_iff (h : t.Sortable keys n) :
    ∀ a ∈ t.keyedRows keys n, ∀ b ∈ t.keyedRows keys n,
      SortedTable.precedes a b = true ↔ a.2.map Cell.rank < b.2.map Cell.rank := by
  intro a ha b hb
  obtain ⟨har, hacells⟩ := mem_keyedRows ha
  obtain ⟨hbr, hbcells⟩ := mem_keyedRows hb
  unfold SortedTable.precedes
  rw [beq_iff_eq, hacells, hbcells]
  exact (h.compares_keyCells har hbr).eq_lt

/-- A view shows the rows of a table in the order of their key cells, and rows with equal key cells
in the order of the table. -/
structure Sorts (t : Table) (keys : List String) (n : Nat) (s : SortedTable) : Prop where
  inner_eq : s.inner = t
  perm : s.order.toList.Perm (List.range n)
  ordered : s.order.toList.Pairwise fun a b =>
    compareCells (t.keyCells keys a) (t.keyCells keys b) ≠ .gt
  stable : s.order.toList.Pairwise fun a b =>
    compareCells (t.keyCells keys a) (t.keyCells keys b) = .eq → a < b

theorem map_fst_keyedRows (t : Table) (keys : List String) (n : Nat) :
    (t.keyedRows keys n).map (·.1) = List.range n := by
  unfold keyedRows
  rw [List.map_map]
  exact List.map_id _

theorem Sortable.sorts (h : t.Sortable keys n) :
    ∃ s, SortedTable.sort t keys = .ok s ∧ t.Sorts keys n s := by
  have hperm := insertionSort_perm SortedTable.precedes (t.keyedRows keys n)
  have hpairwise := pairwise_insertionSort_numbered (pairwise_keyedRows t keys n) h.precedes_iff
  have hrows : ((insertionSort SortedTable.precedes (t.keyedRows keys n)).map (·.1)).Pairwise
      fun a b => compareCells (t.keyCells keys a) (t.keyCells keys b) ≠ .gt ∧
        (compareCells (t.keyCells keys a) (t.keyCells keys b) = .eq → a < b) := by
    rw [List.pairwise_map]
    apply hpairwise.imp_of_mem
    intro a b ha hb hab
    obtain ⟨har, hacells⟩ := mem_keyedRows (hperm.mem_iff.mp ha)
    obtain ⟨hbr, hbcells⟩ := mem_keyedRows (hperm.mem_iff.mp hb)
    have hcompares := h.compares_keyCells har hbr
    -- The row before has the lesser rank, or the same rank and the lesser number.
    rw [hacells, hbcells] at hab
    rw [hcompares.ne_gt, hcompares.eq_eq]
    rcases hab with hlt | ⟨heq, hnumber⟩
    · exact ⟨hlt.le, fun heq => absurd heq hlt.ne⟩
    · exact ⟨heq.le, fun _ => hnumber⟩
  refine ⟨_, h.sort_eq, rfl, ?_, hrows.imp And.left, hrows.imp And.right⟩
  rw [List.toList_toArray, ← map_fst_keyedRows t keys n]
  exact hperm.map _

/-! ## Sorting again -/

namespace Sorts

variable {s : SortedTable}

theorem size_order (h : t.Sorts keys n s) : s.order.size = n := by
  have hlength := h.perm.length_eq
  rwa [Array.length_toList, List.length_range] at hlength

theorem order_lt (h : t.Sorts keys n s) {row : Nat} (hrow : row < s.order.size) :
    s.order[row] < n :=
  List.mem_range.mp (h.perm.mem_iff.mp (Array.getElem_mem_toList hrow))

theorem value_eq (h : t.Sorts keys n s) {row : Nat} (hrow : row < s.order.size) (name : String) :
    s.toTable.value row name = t.value s.order[row] name := by
  show SortedTable.value s row name = _
  unfold SortedTable.value
  rw [Array.getElem?_eq_getElem hrow]
  dsimp only
  rw [h.inner_eq]

theorem column?_eq (h : t.Sorts keys n s) (key : String) :
    s.toTable.column? key = t.column? key := by
  show s.inner.column? key = _
  rw [h.inner_eq]

theorem keyName_eq (h : t.Sorts keys n s) (key : String) :
    s.toTable.keyName key = t.keyName key := by
  unfold keyName
  rw [h.column?_eq]

theorem cellAt_eq (h : t.Sorts keys n s) {row : Nat} (hrow : row < s.order.size) (name : String) :
    s.toTable.cellAt row name = t.cellAt s.order[row] name := by
  unfold cellAt
  rw [h.value_eq hrow]

theorem keyCells_eq (h : t.Sorts keys n s) {row : Nat} (hrow : row < s.order.size) :
    s.toTable.keyCells keys row = t.keyCells keys s.order[row] := by
  unfold keyCells
  apply List.map_congr_left
  intro key _
  rw [h.keyName_eq, h.cellAt_eq hrow]

theorem sortable (h : t.Sorts keys n s) (ht : t.Sortable keys n) : s.toTable.Sortable keys n where
  rowCount_eq := congrArg some h.size_order
  found key hkey := by
    rw [h.column?_eq]
    exact ht.found key hkey
  read key hkey row hrow := by
    have hrow : row < s.order.size := h.size_order.symm ▸ hrow
    rw [h.keyName_eq, h.value_eq hrow]
    exact ht.read key hkey _ (h.order_lt hrow)
  one_kind key hkey := by
    obtain ⟨kind, hkind⟩ := ht.one_kind key hkey
    refine ⟨kind, fun row hrow => ?_⟩
    have hrow : row < s.order.size := h.size_order.symm ▸ hrow
    rw [h.keyName_eq, h.cellAt_eq hrow]
    exact hkind _ (h.order_lt hrow)

/-- The rows of the view are in the order that sorting it would give them. -/
theorem insertionSort_keyedRows (h : t.Sorts keys n s) (ht : t.Sortable keys n) :
    (insertionSort SortedTable.precedes (s.toTable.keyedRows keys n)).map (·.1) = List.range n := by
  have hmap := map_insertionSort_numbered (pairwise_keyedRows s.toTable keys n)
    (h.sortable ht).precedes_iff
  -- The ranks do not decrease along the view, and the numbers of its rows increase.
  have hsorted : ((s.toTable.keyedRows keys n).map fun a =>
      toLex (a.2.map Cell.rank, a.1)).Pairwise (· ≤ ·) := by
    rw [List.pairwise_map]
    apply (pairwise_keyedRows s.toTable keys n).imp_of_mem
    intro a b ha hb hab
    obtain ⟨har, hacells⟩ := mem_keyedRows ha
    obtain ⟨hbr, hbcells⟩ := mem_keyedRows hb
    have har : a.1 < s.order.size := h.size_order.symm ▸ har
    have hbr : b.1 < s.order.size := h.size_order.symm ▸ hbr
    have horder := List.pairwise_iff_getElem.mp h.ordered a.1 b.1 har hbr hab
    rw [Array.getElem_toList, Array.getElem_toList,
      (ht.compares_keyCells (h.order_lt har) (h.order_lt hbr)).ne_gt] at horder
    rw [hacells, hbcells, h.keyCells_eq har, h.keyCells_eq hbr, Prod.Lex.toLex_le_toLex]
    rcases horder.lt_or_eq with hlt | heq
    · exact Or.inl hlt
    · exact Or.inr ⟨heq, hab.le⟩
  rw [ascending_eq_self hsorted] at hmap
  have hnumbers := congrArg (List.map fun p => (ofLex p).2) hmap
  rw [List.map_map, List.map_map] at hnumbers
  exact hnumbers.trans (map_fst_keyedRows s.toTable keys n)

/-- A view in the order of its own rows is the table that it shows. -/
theorem toTable_range (s : SortedTable) :
    SortedTable.toTable ⟨s.toTable, (List.range s.order.size).toArray⟩ = s.toTable := by
  apply eq_of_parts
  · rfl
  · rfl
  · simp [SortedTable.toTable]
  · funext row name
    show SortedTable.value _ row name = s.value row name
    unfold SortedTable.value
    dsimp only
    by_cases hrow : row < s.order.size
    · have hsource : (List.range s.order.size).toArray[row]? = some row := by simp [hrow]
      rw [hsource]
      rfl
    · have hsource : (List.range s.order.size).toArray[row]? = none := by simp; omega
      rw [hsource, Array.getElem?_eq_none (by omega)]
      rfl
  · simp [SortedTable.toTable]
  · rfl

theorem sort_again (h : t.Sorts keys n s) (ht : t.Sortable keys n) :
    ∃ again, SortedTable.sort s.toTable keys = .ok again ∧ again.order.toList = List.range n ∧
      again.toTable = s.toTable := by
  refine ⟨_, (h.sortable ht).sort_eq, ?_, ?_⟩
  · exact h.insertionSort_keyedRows ht
  · rw [h.insertionSort_keyedRows ht, ← h.size_order]
    exact toTable_range s

end Sorts

end Table

/-! ## Sorted views -/

namespace SortedTable

theorem sort_uncounted {t : Table} (h : t.rowCount = none) (keys : List String) :
    sort t keys = .error (.notComparable t.name) := by
  unfold sort
  rw [h]
  rfl

theorem sort_noSuchColumn {t : Table} {before after : List String} {key : String}
    (hcount : t.rowCount ≠ none) (hbefore : ∀ k ∈ before, (t.column? k).isSome = true)
    (hkey : t.column? key = none) :
    sort t (before ++ key :: after) = .error (.noSuchColumn t.name key) := by
  obtain ⟨n, hn⟩ := Option.ne_none_iff_exists'.mp hcount
  have hresolve : resolveKey t key = .error (.noSuchColumn t.name key) := by
    unfold resolveKey
    rw [hkey]
  have hnames : traverse (resolveKey t) (before ++ key :: after) =
      .error (.noSuchColumn t.name key) :=
    traverse_eq_error (fun k hk => ⟨_, Table.resolveKey_eq (hbefore k hk)⟩) hresolve
  unfold sort
  rw [hn]
  show (traverse (resolveKey t) (before ++ key :: after) >>= _) = _
  rw [hnames]
  rfl

/-- A table whose key columns are of one kind each has a sorted view: its rows are those of the
table in the order of their key cells, rows with equal key cells stay in their order, and sorting
the view again changes nothing. A table that does not count its rows has none, and otherwise the
first key that names no column is reported. -/
theorem sort_stable (t : Table) (keys : List String) :
    (t.rowCount = none → sort t keys = .error (.notComparable t.name)) ∧
    (∀ before key after, t.rowCount ≠ none → keys = before ++ key :: after →
      (∀ k ∈ before, (t.column? k).isSome = true) → t.column? key = none →
        sort t keys = .error (.noSuchColumn t.name key)) ∧
    ∀ n, t.Sortable keys n → ∃ s, sort t keys = .ok s ∧ t.Sorts keys n s ∧
      (∀ row (hrow : row < s.order.size) name,
        s.toTable.value row name = t.value s.order[row] name) ∧
      ∃ again, sort s.toTable keys = .ok again ∧ again.order.toList = List.range n ∧
        again.toTable = s.toTable := by
  refine ⟨fun h => sort_uncounted h keys, ?_, ?_⟩
  · rintro before key after hcount rfl hbefore hkey
    exact sort_noSuchColumn hcount hbefore hkey
  · intro n ht
    obtain ⟨s, hs, hsorts⟩ := ht.sorts
    exact ⟨s, hs, hsorts, fun row hrow name => hsorts.value_eq hrow name, hsorts.sort_again ht⟩

/-- Two rows with equal keys, a row with an empty one, and a key that is given twice. -/
theorem sort_stable_ties :
    let t : MemoryTable := ⟨"t", [⟨"A", .integer, true⟩],
      #[[some (.integer 3)], [none], [some (.integer 3)], [some (.integer 1)]], by decide⟩
    t.toTable.Sortable ["a", "A"] 4 ∧
    (∃ s, sort t.toTable ["a", "A"] = .ok s ∧ t.toTable.Sorts ["a", "A"] 4 s) ∧
    (sort t.toTable ["a", "A"]).map (·.order.toList) = .ok [1, 3, 0, 2] ∧
    sort t.toTable ["a", "B", "C"] = .error (.noSuchColumn "t" "B") ∧
    sort (t.toTable.withRowCount none) ["B"] = .error (.notComparable "t") := by
  intro t
  have hcells : ∀ key ∈ ["a", "A"], ∀ row < 4, t.toTable.cellAt row (t.toTable.keyName key) ∈
      [some (.integer 3), none, some (.integer 1)] := by
    decide +kernel
  have ht : t.toTable.Sortable ["a", "A"] 4 := by
    refine ⟨t.toTable_readsAs.hasRows.hasKeys rfl (by decide +kernel), fun key hkey => ?_⟩
    refine ⟨.integer, fun row hrow v hv => ?_⟩
    have hcell := hcells key hkey row hrow
    rw [Option.mem_def.mp hv] at hcell
    simp only [List.mem_cons, Option.some.injEq, reduceCtorEq, List.not_mem_nil, or_false,
      false_or] at hcell
    rcases hcell with rfl | rfl <;> rfl
  obtain ⟨s, hs, hsorts, -⟩ := (sort_stable t.toTable ["a", "A"]).2.2 4 ht
  refine ⟨ht, ⟨s, hs, hsorts⟩, by decide +kernel, ?_, ?_⟩
  · exact (sort_stable t.toTable ["a", "B", "C"]).2.1 ["a"] "B" ["C"] (by decide) rfl
      (by decide +kernel) (by decide +kernel)
  · exact (sort_stable (t.toTable.withRowCount none) ["B"]).1 rfl

end SortedTable

end TableDiff
