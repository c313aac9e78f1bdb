import TableDiff.Proofs.Comparison.Tables
import TableDiff.Proofs.Dataset.Additions
import TableDiff.Proofs.Reporter

/-!
# What a comparison of datasets in memory finds

Two datasets are compared by the names of their tables, and then by their tables, each with the
first one that has its key in the other dataset. The keys are those of the options; the datasets
look their tables up by keys of their own.
-/

namespace TableDiff

/-- The name of a table with its key. -/
def MemoryTable.tableName (caseSensitive : Bool) (t : MemoryTable) : TableName :=
  ⟨t.tableKey caseSensitive, t.name⟩

/-! ## Lookups -/

/-- A dataset finds each of its tables by its name. -/
theorem MemoryDataset.table_of_mem {d : MemoryDataset} {t : MemoryTable} (ht : t ∈ d.tables) :
    d.toDataset.table t.name = .ok t.toTable := by
  -- These are the dataset's own keys, not those of a comparison.
  have hfound : d.table t.name = .ok t := MemoryDataset.table_eq_ok_iff.mpr ⟨ht, rfl⟩
  change (d.table t.name).map (·.toTable) = .ok t.toTable
  rw [hfound]
  rfl

/-- Datasets in memory have their tables for themselves, so no two of them share one. -/
theorem Sides.ofTables_toTable (t u : MemoryTable) :
    Sides.ofTables t.toTable u.toTable = .distinct t.toTable u.toTable := rfl

/-- The tables in the order of their keys; tables of one key keep their order. -/
def MemoryDataset.sortedTables (d : MemoryDataset) (caseSensitive : Bool) : List MemoryTable :=
  d.tables.mergeSort fun t u => decide (t.tableKey caseSensitive ≤ u.tableKey caseSensitive)

theorem sortedTableNames_eq (d : MemoryDataset) (caseSensitive : Bool) :
    sortedTableNames d.toDataset caseSensitive =
      (d.sortedTables caseSensitive).map (·.tableName caseSensitive) := by
  have hnames : d.toDataset.tableNames.map
      (fun name => (⟨TableDiff.tableKey caseSensitive name, name⟩ : TableName)) =
      d.tables.map (·.tableName caseSensitive) := List.map_map
  unfold sortedTableNames MemoryDataset.sortedTables
  rw [hnames]
  symm
  apply List.map_mergeSort
  intro t _ u _
  rfl

/-! ## What is found -/

theorem compareTableNames_eq (es as : List TableName) :
    (compareTableNames es as : Findings Unit) =
      ⟨(if es.length ≠ as.length then [.tableCount es.length as.length] else []) ++
        (if es.map (·.key) ≠ as.map (·.key) then [.tables (es.map (·.key)) (as.map (·.key))]
        else []), .ok ()⟩ := by
  unfold compareTableNames
  by_cases hcount : es.length ≠ as.length <;> by_cases hkeys : es.map (·.key) ≠ as.map (·.key)
  · rw [if_pos hcount, if_pos hkeys, if_pos hcount, if_pos hkeys]
    rfl
  · rw [if_pos hcount, if_neg hkeys, if_pos hcount, if_neg hkeys]
    rfl
  · rw [if_neg hcount, if_pos hkeys, if_neg hcount, if_pos hkeys]
    rfl
  · rw [if_neg hcount, if_neg hkeys, if_neg hcount, if_neg hkeys]
    rfl

/-- The differences of a table and its partner of the same key, if it has one. -/
def partnerDifferences (source : ComparatorSource) (options : CompareOptions)
    (others : List MemoryTable) (t : MemoryTable) : List Difference :=
  match others.find? (·.tableKey options.caseSensitiveTables ==
      t.tableKey options.caseSensitiveTables) with
  | some u => tableDifferences (source t.name) options t u
  | none => []

/-- The table that is found for a name is the partner of its table. -/
theorem actualTable_eq {d : MemoryDataset} {caseSensitive : Bool} (t : MemoryTable) :
    actualTable d.toDataset ((d.sortedTables caseSensitive).map (·.tableName caseSensitive))
        (t.tableName caseSensitive) =
      match d.tables.find? (·.tableKey caseSensitive == t.tableKey caseSensitive) with
      | some u => .ok u.toTable
      | none => .error (.noSuchTable t.name) := by
  have hfind : ((d.sortedTables caseSensitive).map (·.tableName caseSensitive)).find?
      (·.key == (t.tableName caseSensitive).key) =
      (d.tables.find? (·.tableKey caseSensitive == t.tableKey caseSensitive)).map
        (·.tableName caseSensitive) := by
    rw [← find?_mergeSort_key d.tables, List.find?_map]
    rfl
  unfold actualTable
  rw [hfind]
  cases hu : d.tables.find? (·.tableKey caseSensitive == t.tableKey caseSensitive) with
  | none => rfl
  | some u => exact MemoryDataset.table_of_mem (List.mem_of_find?_eq_some hu)

/-- The tables in turn. A table without a partner is passed over, which needs the names to
differ. -/
theorem compareTablesOf_eq {e d : MemoryDataset} {source : ComparatorSource}
    {options : CompareOptions} {namesDiffer : Bool} (es : List MemoryTable)
    (hes : ∀ t ∈ es, t ∈ e.tables)
    (hdiffer : ∀ t ∈ es, d.tables.find? (·.tableKey options.caseSensitiveTables ==
      t.tableKey options.caseSensitiveTables) = none → namesDiffer = true) :
    (compareTablesOf e.toDataset d.toDataset
        ((d.sortedTables options.caseSensitiveTables).map (·.tableName options.caseSensitiveTables))
        namesDiffer source options (es.map (·.tableName options.caseSensitiveTables)) :
      Findings Unit) =
      ⟨es.flatMap (partnerDifferences source options d.tables), .ok ()⟩ := by
  induction es with
  | nil => rfl
  | cons t es ih =>
    have hrest := ih (fun u hu => hes u (List.mem_cons_of_mem t hu))
      (fun u hu => hdiffer u (List.mem_cons_of_mem t hu))
    rw [List.map_cons, List.flatMap_cons]
    unfold compareTablesOf
    rw [actualTable_eq]
    cases hu : d.tables.find? (·.tableKey options.caseSensitiveTables ==
        t.tableKey options.caseSensitiveTables) with
    | none =>
      -- The names differ where a partner is missing, so the table is passed over.
      have hhere : partnerDifferences source options d.tables t = [] := by
        unfold partnerDifferences
        rw [hu]
      have hmissing := hdiffer t List.mem_cons_self hu
      subst hmissing
      dsimp only
      rw [hrest, hhere, List.nil_append]
    | some u =>
      have hhere : partnerDifferences source options d.tables t =
          tableDifferences (source t.name) options t u := by
        unfold partnerDifferences
        rw [hu]
      have htable : e.toDataset.table (t.tableName options.caseSensitiveTables).name =
          .ok t.toTable := MemoryDataset.table_of_mem (hes t List.mem_cons_self)
      have hname : (t.tableName options.caseSensitiveTables).name = t.name := rfl
      dsimp only
      rw [htable, hname, Findings.ofExcept_eq, Findings.ok_bind, Sides.ofTables_toTable,
        compareTable_eq, Findings.ok_bind, hrest, hhere, List.nil_append]

/-- The differences between the names of two lists of tables. -/
def nameDifferences (caseSensitive : Bool) (es ds : List MemoryTable) : List Difference :=
  (if es.length ≠ ds.length then [.tableCount es.length ds.length] else []) ++
    (if es.map (·.tableKey caseSensitive) ≠ ds.map (·.tableKey caseSensitive) then
      [.tables (es.map (·.tableKey caseSensitive)) (ds.map (·.tableKey caseSensitive))]
    else [])

/-- A comparison of datasets comes to its end with the differences of the names and those of the
tables. -/
theorem compareDatasets_eq {e d : MemoryDataset} (source : ComparatorSource)
    (options : CompareOptions) :
    (compareDatasets (.distinct e.toDataset d.toDataset) source options : Findings Unit) =
      ⟨nameDifferences options.caseSensitiveTables (e.sortedTables options.caseSensitiveTables)
          (d.sortedTables options.caseSensitiveTables) ++
        (e.sortedTables options.caseSensitiveTables).flatMap
          (partnerDifferences source options d.tables), .ok ()⟩ := by
  generalize hmode : options.caseSensitiveTables = mode
  have hkeys : ∀ ts : List MemoryTable,
      (ts.map (·.tableName mode)).map (·.key) = ts.map (·.tableKey mode) := fun ts => List.map_map
  -- A table without a partner has a key that is not among those of the other dataset.
  have hdiffer : ∀ t ∈ e.sortedTables mode,
      d.tables.find? (·.tableKey mode == t.tableKey mode) = none →
      ((e.sortedTables mode).map (·.tableKey mode) != (d.sortedTables mode).map (·.tableKey mode)) =
        true := by
    intro t ht hnone
    rw [bne_iff_ne]
    intro heq
    have hkey : t.tableKey mode ∈ (d.sortedTables mode).map (·.tableKey mode) :=
      heq ▸ List.mem_map_of_mem ht
    obtain ⟨u, hu, hut⟩ := List.mem_map.mp hkey
    have hmem : u ∈ d.tables := (List.mergeSort_perm d.tables _).mem_iff.mp hu
    exact List.find?_eq_none.mp hnone u hmem (beq_iff_eq.mpr hut)
  have hmem : ∀ t ∈ e.sortedTables mode, t ∈ e.tables := fun t ht =>
    (List.mergeSort_perm e.tables _).mem_iff.mp ht
  subst hmode
  unfold compareDatasets
  dsimp only
  rw [sortedTableNames_eq, sortedTableNames_eq, compareTableNames_eq, hkeys, hkeys,
    compareTablesOf_eq _ hmem hdiffer, Findings.ok_bind, List.length_map, List.length_map]
  rfl

/-- The failures of a comparison of datasets are those of the numbers and the keys of their tables,
and then, for each expected table with a partner, in the order of the keys, those of a comparison
of the two tables. -/
theorem collectDatasets_eq_append (assertion : Assertion) (e d : MemoryDataset)
    (he : (e.tables.map (·.tableKey assertion.options.caseSensitiveTables)).Nodup)
    (hd : (d.tables.map (·.tableKey assertion.options.caseSensitiveTables)).Nodup) :
    ∃ (es ds : List MemoryTable) (failuresOf : MemoryTable → MemoryTable → List Failure),
      InKeyOrder (·.tableKey assertion.options.caseSensitiveTables) e.tables es ∧
      InKeyOrder (·.tableKey assertion.options.caseSensitiveTables) d.tables ds ∧
      (∀ t u, assertion.collectTables (.distinct t.toTable u.toTable) = .ok (failuresOf t u)) ∧
      assertion.collectDatasets (.distinct e.toDataset d.toDataset) = .ok
        ((nameDifferences assertion.options.caseSensitiveTables es ds).map Difference.toFailure ++
          es.flatMap fun t =>
            match d.tables.find? (·.tableKey assertion.options.caseSensitiveTables ==
                t.tableKey assertion.options.caseSensitiveTables) with
            | some u => failuresOf t u
            | none => []) := by
  refine ⟨_, _, fun t u => (tableDifferences (assertion.comparators.source t.name)
    assertion.options t u).map Difference.toFailure, inKeyOrder_mergeSort he,
    inKeyOrder_mergeSort hd, ?_, ?_⟩
  · intro t u
    exact Assertion.collectTables_of_findings (compareTable_eq t u _ assertion.options)
  · have hfindings : (assertion.compareDatasets (.distinct e.toDataset d.toDataset) :
        Findings Unit) = _ :=
      compareDatasets_eq assertion.comparators.source assertion.options
    have hpartner : ∀ t, (partnerDifferences assertion.comparators.source assertion.options d.tables
        t).map Difference.toFailure =
        match d.tables.find? (·.tableKey assertion.options.caseSensitiveTables ==
            t.tableKey assertion.options.caseSensitiveTables) with
        | some u => (tableDifferences (assertion.comparators.source t.name) assertion.options t
            u).map Difference.toFailure
        | none => [] := by
      intro t
      unfold partnerDifferences
      split <;> rfl
    rw [Assertion.collectDatasets_of_findings hfindings, List.map_append, List.map_flatMap]
    simp only [hpartner]
    rfl

/-- Two datasets that share one of their tables, in another case. -/
theorem collectDatasets_eq_append_shared :
    let e : MemoryDataset := .ofTables false [⟨"T", [.untyped "A"], #[[some (.text "1")]], by simp⟩,
      .empty "s" [.untyped "A"]] (by decide)
    let d : MemoryDataset := .ofTables true [.empty "u" [.untyped "A"],
      ⟨"t", [.untyped "a"], #[[some (.text "2")]], by simp⟩] (by decide)
    (e.tables.map (·.tableKey false)).Nodup ∧ (d.tables.map (·.tableKey false)).Nodup ∧
    ∃ (es ds : List MemoryTable) (failuresOf : MemoryTable → MemoryTable → List Failure),
      InKeyOrder (·.tableKey false) e.tables es ∧ InKeyOrder (·.tableKey false) d.tables ds ∧
      (∀ t u, Assertion.default.collectTables (.distinct t.toTable u.toTable) =
        .ok (failuresOf t u)) ∧
      Assertion.default.collectDatasets (.distinct e.toDataset d.toDataset) = .ok
        ((nameDifferences false es ds).map Difference.toFailure ++
          es.flatMap fun t =>
            match d.tables.find? (·.tableKey false == t.tableKey false) with
            | some u => failuresOf t u
            | none => []) :=
  ⟨by decide, by decide, collectDatasets_eq_append .default _ _ (by decide) (by decide)⟩

end TableDiff
