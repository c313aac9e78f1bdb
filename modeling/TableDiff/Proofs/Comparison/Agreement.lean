import TableDiff.Proofs.Comparison.Tables
import TableDiff.Proofs.KeyOrder
import TableDiff.Proofs.Reporter

/-!
# Tables that agree

Two tables whose columns have the same keys in the same order are compared position by position,
although both lists of columns are sorted first: a stable sort by key moves equal positions to
equal places. Under equality everywhere nothing is found of them exactly if the cells of every row
agree at every position.
-/

namespace TableDiff

/-! ## Positions -/

/-- Sorting two lists of columns of the same keys sorts the pairs of columns by position. -/
theorem zip_sorted_eq {es as : List Column} (hkeys : es.map Column.key = as.map Column.key) :
    (Column.sorted es).zip (Column.sorted as) =
      (es.zip as).mergeSort fun p q => decide (p.1.key ≤ q.1.key) := by
  have hlength : es.length = as.length := by
    simpa using congrArg List.length hkeys
  have hfst : ((es.zip as).mergeSort fun p q => decide (p.1.key ≤ q.1.key)).map Prod.fst =
      Column.sorted es := by
    rw [List.map_mergeSort (s := fun a b : Column => decide (a.key ≤ b.key)) (fun p _ q _ => rfl),
      List.map_fst_zip (le_of_eq hlength)]
    rfl
  have hsnd : ((es.zip as).mergeSort fun p q => decide (p.1.key ≤ q.1.key)).map Prod.snd =
      Column.sorted as := by
    -- The keys of a pair are the same, so the pairs are sorted by the other column as well.
    rw [List.map_mergeSort (s := fun a b : Column => decide (a.key ≤ b.key)),
      List.map_snd_zip (le_of_eq hlength.symm)]
    · rfl
    · intro p hp q hq
      rw [key_eq_of_mem_zip hkeys hp, key_eq_of_mem_zip hkeys hq]
  rw [← hfst, ← hsnd, List.zip_map']
  exact List.map_id' _

theorem mem_zip_sorted_iff {es as : List Column} (hkeys : es.map Column.key = as.map Column.key)
    {p : Column × Column} :
    p ∈ (Column.sorted es).zip (Column.sorted as) ↔ p ∈ es.zip as := by
  rw [zip_sorted_eq hkeys, List.mem_mergeSort]

theorem map_key_sorted_eq {es as : List Column} (hkeys : es.map Column.key = as.map Column.key) :
    (Column.sorted es).map Column.key = (Column.sorted as).map Column.key :=
  map_key_mergeSort_eq_iff.mpr (hkeys ▸ List.Perm.refl _)

/-! ## Agreement -/

/-- The cells of a row in two columns agree: the datatypes of the columns do not conflict, and
equality accepts the cells under the datatype that prevails. -/
structure AgreeAt (e a : MemoryTable) (row : Nat) (p : Column × Column) : Prop where
  compatible : ¬ p.1.datatype.Conflicting p.2.datatype
  accepted : Comparator.equality.accepts (p.1.datatype.effective p.2.datatype)
    (e.cellOf row p.1.key) (a.cellOf row p.2.key) = true

instance (e a : MemoryTable) (row : Nat) (p : Column × Column) : Decidable (AgreeAt e a row p) :=
  decidable_of_iff (¬ p.1.datatype.Conflicting p.2.datatype ∧
      Comparator.equality.accepts (p.1.datatype.effective p.2.datatype) (e.cellOf row p.1.key)
        (a.cellOf row p.2.key) = true)
    ⟨fun h => ⟨h.1, h.2⟩, fun h => ⟨h.compatible, h.accepted⟩⟩

/-- A column of both tables cannot conflict with itself. -/
theorem agreeAt_self_iff {e a : MemoryTable} {row : Nat} {c : Column} :
    AgreeAt e a row (c, c) ↔
      Comparator.equality.accepts c.datatype (e.cellOf row c.key) (a.cellOf row c.key) = true := by
  constructor
  · intro h
    simpa [Datatype.effective_self] using h.accepted
  · intro h
    exact ⟨fun hconflict => hconflict.2.2 rfl, by simpa [Datatype.effective_self] using h⟩

theorem forall_agreeAt_iff {e a : MemoryTable} (hcolumns : a.columns = e.columns) {row : Nat} :
    (∀ p ∈ e.columns.zip a.columns, AgreeAt e a row p) ↔ ∀ c ∈ e.columns,
      Comparator.equality.accepts c.datatype (e.cellOf row c.key) (a.cellOf row c.key) = true := by
  have hzip : e.columns.zip e.columns = e.columns.map fun c => (c, c) := by
    rw [← List.zip_map', List.map_id']
  rw [hcolumns, hzip]
  simp only [List.forall_mem_map, agreeAt_self_iff]

theorem datatypeDifference?_eq_none_iff (table : String) (p : Column × Column) :
    Alignment.datatypeDifference? table p = none ↔
      ¬ p.1.datatype.Conflicting p.2.datatype := by
  unfold Alignment.datatypeDifference?
  split
  · exact iff_of_false (Option.some_ne_none _) (not_not.mpr ‹_›)
  · exact iff_of_true rfl ‹_›

theorem cellDifference?_default_eq_none_iff (e a : MemoryTable) (row : Nat) (p : Column × Column) :
    cellDifference? (Assertion.default.comparators.source e.name) [] e a row p = none ↔
      Comparator.equality.accepts (p.1.datatype.effective p.2.datatype) (e.cellOf row p.1.key)
        (a.cellOf row p.2.key) = true := by
  unfold cellDifference? Comparator.accepts
  dsimp only
  rw [Option.map_eq_none_iff, Option.isNone_iff_eq_none]
  rfl

/-- Under equality and the default options two tables with the same keys and equally many rows do
not differ exactly if they agree in every row and at every position. -/
theorem tableDifferences_default_eq_nil_iff {e a : MemoryTable}
    (hkeys : e.columns.map Column.key = a.columns.map Column.key)
    (hrows : e.rows.size = a.rows.size) :
    tableDifferences (Assertion.default.comparators.source e.name) .default e a = [] ↔
      ∀ row < e.rows.size, ∀ p ∈ e.columns.zip a.columns, AgreeAt e a row p := by
  have hlength : e.columns.length = a.columns.length := by
    simpa using congrArg List.length hkeys
  have hkept : ∀ columns : List Column,
      columns.filter (CompareOptions.default.filter e.name) = columns := fun columns =>
    List.filter_true columns
  unfold tableDifferences structureOr
  dsimp only
  rw [hkept, hkept, if_neg (not_not.mpr hrows), if_neg (not_not.mpr hlength),
    if_neg (not_not.mpr (map_key_sorted_eq hkeys)), if_neg (not_not.mpr (map_key_sorted_eq hkeys))]
  by_cases hempty : e.rows.size = 0
  · rw [if_pos hempty]
    exact iff_of_true rfl fun row hrow => absurd hrow (by omega)
  · rw [if_neg hempty]
    unfold pairDifferences
    rw [List.append_eq_nil_iff, List.filterMap_eq_nil_iff, List.flatMap_eq_nil_iff]
    simp only [mem_zip_sorted_iff hkeys, List.mem_range, List.filterMap_eq_nil_iff,
      datatypeDifference?_eq_none_iff]
    constructor
    · rintro ⟨hcompatible, hcells⟩ row hrow p hp
      exact ⟨hcompatible p hp, (cellDifference?_default_eq_none_iff ..).mp (hcells row hrow p hp)⟩
    · intro hagree
      refine ⟨fun p hp => (hagree 0 (by omega) p hp).compatible, fun row hrow p hp => ?_⟩
      exact (cellDifference?_default_eq_none_iff ..).mpr (hagree row hrow p hp).accepted

/-- Such tables, or others that read as they do, are compared without a failure exactly if they
agree. -/
theorem collectTables_default_eq_nil_iff {s t : Table} {e a : MemoryTable} (hs : s.ReadsAs e)
    (ht : t.ReadsAs a) (hkeys : e.columns.map Column.key = a.columns.map Column.key)
    (hrows : e.rows.size = a.rows.size) :
    Assertion.default.collectTables (.distinct s t) = .ok [] ↔
      ∀ row < e.rows.size, ∀ p ∈ e.columns.zip a.columns, AgreeAt e a row p := by
  have hfindings : (Assertion.default.compareTables (.distinct s t) : Findings Unit) =
      ⟨tableDifferences (Assertion.default.comparators.source s.name) .default e a, .ok ()⟩ :=
    compareTable_of_readsAs hs ht _ _
  rw [Assertion.collectTables_of_findings hfindings, hs.name_eq, Except.ok.injEq,
    List.map_eq_nil_iff]
  exact tableDifferences_default_eq_nil_iff hkeys hrows

/-- With the same columns they do if equality accepts the cells of every row under every column. -/
theorem collectTables_same_columns_iff {s t : Table} {e a : MemoryTable} (hs : s.ReadsAs e)
    (ht : t.ReadsAs a) (hcolumns : a.columns = e.columns) (hrows : e.rows.size = a.rows.size) :
    Assertion.default.collectTables (.distinct s t) = .ok [] ↔
      ∀ row < e.rows.size, ∀ c ∈ e.columns,
        Comparator.equality.accepts c.datatype (e.cellOf row c.key) (a.cellOf row c.key) =
          true := by
  have hkeys : e.columns.map Column.key = a.columns.map Column.key := by
    rw [hcolumns]
  rw [collectTables_default_eq_nil_iff hs ht hkeys hrows]
  simp only [forall_agreeAt_iff hcolumns]

end TableDiff
