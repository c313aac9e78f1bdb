import TableDiff.Proofs.Comparison.Tables
import TableDiff.Proofs.Reporter

/-!
# Tables with distinct column keys

If no key comes twice among the columns of a table, every column has at most one partner in another
table, the column of its key. The differences of two such tables can be told by partners, and no
two of them concern the same cell.
-/

namespace TableDiff

/-! ## Partners -/

/-- The columns of `es` that are kept, each with the first column of `others` that has its key. -/
def partners (keep : Column → Bool) (es others : List Column) : List (Column × Column) :=
  (es.filter keep).filterMap fun c => (others.find? (·.key == c.key)).map (c, ·)

/-- A partial choice of images picks from the images. -/
theorem filterMap_sublist_map {α β : Type} {g : α → Option β} {f : α → β}
    (hg : ∀ x y, g x = some y → y = f x) (xs : List α) : (xs.filterMap g).Sublist (xs.map f) := by
  induction xs with
  | nil => exact .slnil
  | cons x xs ih =>
    rw [List.filterMap_cons, List.map_cons]
    cases hx : g x with
    | none => exact ih.cons (f x)
    | some y =>
      rw [hg x y hx]
      exact ih.cons_cons (f x)

theorem partners_keys_sublist (keep : Column → Bool) (es others : List Column) :
    ((partners keep es others).map (·.1.key)).Sublist (es.map Column.key) := by
  unfold partners
  rw [List.map_filterMap]
  have hfst : ∀ c key, ((others.find? (·.key == c.key)).map (c, ·)).map (·.1.key) = some key →
      key = Column.key c := by
    intro c key h
    obtain ⟨p, hp, rfl⟩ := Option.map_eq_some_iff.mp h
    obtain ⟨partner, -, rfl⟩ := Option.map_eq_some_iff.mp hp
    rfl
  exact (filterMap_sublist_map hfst _).trans (List.filter_sublist.map Column.key)

/-! ## Places -/

/-- The row and the key of the column in which cells differ. -/
def Difference.place? : Difference → Option (Nat × String)
  | .value _ row column _ _ _ _ => some (row, nameKey column)
  | _ => none

theorem place?_of_cellDifference? {comparators : ColumnComparators} {additional : List String}
    {e a : MemoryTable} {row : Nat} {p : Column × Column} {d : Difference}
    (h : cellDifference? comparators additional e a row p = some d) :
    d.place? = some (row, p.1.key) := by
  obtain ⟨mismatch, -, rfl⟩ := Option.map_eq_some_iff.mp h
  rfl

theorem place?_of_datatypeDifference? {table : String} {p : Column × Column} {d : Difference}
    (h : Alignment.datatypeDifference? table p = some d) : d.place? = none := by
  unfold Alignment.datatypeDifference? at h
  split at h
  · cases h
    rfl
  · cases h

/-- In pairs of columns with distinct keys no place comes twice. -/
theorem nodup_place?_pairDifferences (comparators : ColumnComparators) (additional : List String)
    (e a : MemoryTable) {pairs : List (Column × Column)} (hnodup : (pairs.map (·.1.key)).Nodup) :
    ((pairDifferences comparators additional e a pairs).filterMap Difference.place?).Nodup := by
  have hstructure : (pairs.filterMap (Alignment.datatypeDifference? e.name)).filterMap
      Difference.place? = [] := by
    rw [List.filterMap_eq_nil_iff]
    intro d hd
    obtain ⟨p, -, hp⟩ := List.mem_filterMap.mp hd
    exact place?_of_datatypeDifference? hp
  -- Every row differs in places of its own, each with the key of one of the pairs.
  have hrow : ∀ row, ((pairs.filterMap (cellDifference? comparators additional e a row)).filterMap
      Difference.place?).Sublist ((pairs.map (·.1.key)).map (Prod.mk row)) := by
    intro row
    rw [List.filterMap_filterMap, List.map_map]
    refine filterMap_sublist_map ?_ pairs
    intro p place h
    obtain ⟨d, hd, hplace⟩ := Option.bind_eq_some_iff.mp h
    rw [place?_of_cellDifference? hd] at hplace
    exact (Option.some.inj hplace).symm
  have hproduct : ((List.range e.rows.size).flatMap fun row =>
      (pairs.map (·.1.key)).map (Prod.mk row)).Nodup := List.nodup_range.product hnodup
  unfold pairDifferences
  rw [List.filterMap_append, hstructure, List.nil_append, List.filterMap_flatMap]
  exact hproduct.sublist (List.Sublist.flatMap_right _ fun row _ => hrow row)

theorem place?_structureOr_sublist (e a : MemoryTable) (es as : List Column)
    (cells : List Difference) :
    ((structureOr e a es as cells).filterMap Difference.place?).Sublist
      (cells.filterMap Difference.place?) := by
  unfold structureOr
  split
  · exact List.nil_sublist _
  split
  · exact List.nil_sublist _
  split
  · exact List.nil_sublist _
  split
  · exact List.nil_sublist _
  · exact List.Sublist.refl _

/-! ## Differences by partners -/

/-- The columns that two tables of the same keys share side by side are partners. -/
theorem tableDifferences_eq_partners (comparators : ColumnComparators) (options : CompareOptions)
    {e a : MemoryTable} (ha : (a.columns.map Column.key).Nodup)
    (hfilter : ∀ c d : Column, c.key = d.key →
      options.filter e.name c = options.filter e.name d) :
    tableDifferences comparators options e a =
      structureOr e a (Column.sorted e.columns) (Column.sorted a.columns)
        (pairDifferences comparators options.additional e a
          (partners (options.filter e.name) (Column.sorted e.columns) a.columns)) := by
  unfold tableDifferences
  dsimp only
  by_cases hkeys : (Column.sorted e.columns).map Column.key =
      (Column.sorted a.columns).map Column.key
  · have hkept := map_key_filter_eq (p := options.filter e.name) hfilter hkeys
    have hpartners := zip_eq_filterMap_find? hkept (fun c hc => mem_of_mem_kept hc) ha
    rw [if_neg (not_not.mpr hkept), hpartners]
    rfl
  · unfold structureOr
    rw [if_pos hkeys, if_pos hkeys]

/-- The failures of a comparison of tables without repeated keys: one for the first difference in
structure, or else one for each pair of partners that conflict, and then, by rows and in a row by
the keys of the columns, one for each cell that its comparator does not accept. -/
theorem collectTables_of_distinct_keys (assertion : Assertion) (e a : MemoryTable)
    (he : (e.columns.map Column.key).Nodup) (ha : (a.columns.map Column.key).Nodup)
    (hfilter : ∀ c d : Column, c.key = d.key →
      assertion.options.filter e.name c = assertion.options.filter e.name d) :
    ∃ es as differences,
      InKeyOrder Column.key e.columns es ∧ InKeyOrder Column.key a.columns as ∧
      differences = structureOr e a es as
        (pairDifferences (assertion.comparators.source e.name) assertion.options.additional e a
          (partners (assertion.options.filter e.name) es a.columns)) ∧
      assertion.collectTables (.distinct e.toTable a.toTable) =
        .ok (differences.map Difference.toFailure) ∧
      (differences.filterMap Difference.place?).Nodup := by
  refine ⟨Column.sorted e.columns, Column.sorted a.columns, _, inKeyOrder_mergeSort he,
    inKeyOrder_mergeSort ha, rfl, ?_, ?_⟩
  · rw [← tableDifferences_eq_partners _ _ ha hfilter]
    exact Assertion.collectTables_of_findings (compareTable_eq e a _ assertion.options)
  · have hsorted : ((Column.sorted e.columns).map Column.key).Nodup :=
      ((List.mergeSort_perm e.columns _).map Column.key).nodup_iff.mpr he
    exact (nodup_place?_pairDifferences _ _ e a
      (hsorted.sublist (partners_keys_sublist _ _ _))).sublist (place?_structureOr_sublist ..)

/-- Two columns that are written in another order and in another case. -/
theorem collectTables_of_distinct_keys_two_columns :
    let e : MemoryTable :=
      ⟨"T", [.untyped "B", .untyped "a"], #[[some (.text "1"), none]], by simp⟩
    let a : MemoryTable :=
      ⟨"T", [.untyped "A", .untyped "b"], #[[some (.text "2"), some (.text "1")]], by simp⟩
    (e.columns.map Column.key).Nodup ∧ (a.columns.map Column.key).Nodup ∧
    ∃ es as differences,
      InKeyOrder Column.key e.columns es ∧ InKeyOrder Column.key a.columns as ∧
      differences = structureOr e a es as
        (pairDifferences (Assertion.default.comparators.source "T") [] e a
          (partners (fun _ => true) es a.columns)) ∧
      Assertion.default.collectTables (.distinct e.toTable a.toTable) =
        .ok (differences.map Difference.toFailure) ∧
      (differences.filterMap Difference.place?).Nodup :=
  ⟨by decide, by decide,
    collectTables_of_distinct_keys .default _ _ (by decide) (by decide) fun _ _ _ => rfl⟩

end TableDiff
