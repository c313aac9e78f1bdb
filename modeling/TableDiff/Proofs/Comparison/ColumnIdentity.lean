import TableDiff.Proofs.Comparison.Pairing
import TableDiff.Proofs.Resolution
import TableDiff.Proofs.Table.Lookup
import TableDiff.Schema

/-!
# One identity of columns

Names of columns are met in four places: tables and schemas look a column up by a name, two tables
are aligned column by column, and comparators are chosen for a column. Lookups try a comparison in
ASCII before they compare keys, alignments sort by keys, and comparators are kept under keys. All of
them take the same names for the same column: those of one key.
-/

namespace TableDiff

variable {a b : String}

/-- A column of the one name has the other name, too. -/
def SameColumn (a b : String) : Prop := (Column.untyped a).isNamed b = true

theorem sameColumn_iff : SameColumn a b ↔ nameKey a = nameKey b := (Column.untyped a).isNamed_iff b

theorem sameColumn_equivalence : Equivalence SameColumn where
  refl _ := sameColumn_iff.mpr rfl
  symm h := sameColumn_iff.mpr (sameColumn_iff.mp h).symm
  trans h h' := sameColumn_iff.mpr ((sameColumn_iff.mp h).trans (sameColumn_iff.mp h'))

/-! ## Lookups -/

theorem isNamed_congr (h : SameColumn a b) : (fun c : Column => c.isNamed a) = (·.isNamed b) := by
  funext c
  rw [Column.isNamed_eq, Column.isNamed_eq, sameColumn_iff.mp h]

/-- Tables read the same cells under two names if these are of one column, and only then: a table
of that column has a cell under the one name. -/
theorem sameColumn_iff_value :
    SameColumn a b ↔ ∀ (t : MemoryTable) row cell, t.value row a = .ok cell ↔
      t.value row b = .ok cell := by
  constructor
  · intro h t row cell
    unfold MemoryTable.value MemoryTable.columnIndex
    rw [isNamed_congr h]
    cases t.columns.findIdx? (·.isNamed b) <;> simp
  · intro h
    let t : MemoryTable := ⟨"", [.untyped a], #[[none]], by simp⟩
    have hown : t.value 0 a = .ok (t.cellOf 0 (nameKey a)) :=
      MemoryTable.value_of_lt Nat.one_pos List.mem_cons_self
    have hother := (h t 0 _).mp hown
    by_cases hkey : nameKey b ∈ t.columns.map Column.key
    · exact sameColumn_iff.mpr (List.mem_singleton.mp hkey).symm
    · rw [MemoryTable.value_of_not_mem hkey] at hother
      cases hother

theorem sameColumn_iff_column? :
    SameColumn a b ↔ ∀ s : Schema, s.column? a = s.column? b := by
  constructor
  · intro h s
    unfold Schema.column?
    rw [isNamed_congr h]
  · intro h
    have hown : Schema.column? ⟨none, [.untyped a]⟩ a = some (.untyped a) :=
      List.find?_cons_of_pos (sameColumn_equivalence.refl a)
    have hfound : [Column.untyped a].find? (·.isNamed b) = some (.untyped a) :=
      (h ⟨none, [.untyped a]⟩).symm.trans hown
    have hnamed := List.find?_some hfound
    exact hnamed

/-! ## Comparators -/

theorem ColumnComparators.select_withColumn (s : ColumnComparators) (a b : String)
    (c : CellComparator) :
    (s.withColumn a c).select b = if nameKey b = nameKey a then c else s.select b := by
  rw [select_eq, select_eq]
  unfold withColumn
  rw [Option.bind_some, NameMap.find?_insert]
  split
  · rfl
  · cases s.columns? <;> rfl

theorem sameColumn_iff_select :
    SameColumn a b ↔ ∀ (s : ColumnComparators) c, (s.withColumn a c).select b = c := by
  constructor
  · intro h s c
    rw [ColumnComparators.select_withColumn, if_pos (sameColumn_iff.mp h).symm]
  · intro h
    have hignored := h .none (.rule .ignore)
    rw [ColumnComparators.select_withColumn] at hignored
    split at hignored
    · rename_i hkey
      exact sameColumn_iff.mpr hkey.symm
    · cases hignored

/-! ## Pairs -/

section Pairs

variable {e a : Table} {filter : ColumnFilter} {policy : RowCountPolicy} {ds : List Difference}
  {rows : RowBound} {columns : List AlignedColumn}

theorem Alignment.pairs_of_align
    (h : (align (.distinct e a) filter policy : Findings Alignment) =
      ⟨ds, .ok (.aligned rows columns)⟩) : Pairs (filter e.name) e a columns := by
  rcases align_cases e a filter policy with ⟨-, -, hm⟩ | ⟨-, ds', found, hm, hends⟩
  · rw [h] at hm
    cases hm
  · rw [h] at hm
    cases hm
    cases hends with
    | aligned columns hpairs hrows => exact hpairs

/-- Columns that are paired are the same one. Where the actual table has no column twice, all kept
columns that are the same one are paired. -/
theorem paired_iff_sameColumn (hpairs : Alignment.Pairs (filter e.name) e a columns)
    (hnodup : (a.columns.map Column.key).Nodup) {c d : Column}
    (hc : c ∈ e.columns.filter (filter e.name)) (hd : d ∈ a.columns.filter (filter e.name)) :
    (∃ p ∈ columns, p.expected = c ∧ p.actual = d) ↔ SameColumn c.name d.name := by
  rw [sameColumn_iff]
  constructor
  · rintro ⟨p, hp, rfl, rfl⟩
    exact hpairs.key_eq p hp
  · intro hkey
    obtain ⟨p, hp, rfl⟩ := List.mem_map.mp (hpairs.expected_perm.mem_iff.mpr hc)
    -- The partner and `d` are columns of one key.
    have hpartner : p.actual.key = d.key := (hpairs.key_eq p hp).symm.trans hkey
    exact ⟨p, hp, rfl, List.inj_on_of_nodup_map hnodup (hpairs.actual_mem hp)
      (List.mem_of_mem_filter hd) hpartner⟩

end Pairs

/-- A name is that of a column if it has the column's key, and so names fall into classes. Lookups
in tables and in schemas, the choice of comparators and the pairing of columns all tell names apart
by these classes alone. -/
theorem isNamed_identifies :
    (∀ (c : Column) (name : String), c.isNamed name = true ↔ c.key = nameKey name) ∧
    Equivalence SameColumn ∧
    (∀ a b : String,
      (SameColumn a b ↔ ∀ (t : MemoryTable) row cell, t.value row a = .ok cell ↔
        t.value row b = .ok cell) ∧
      (SameColumn a b ↔ ∀ s : Schema, s.column? a = s.column? b) ∧
      (SameColumn a b ↔ ∀ (s : ColumnComparators) c, (s.withColumn a c).select b = c)) ∧
    ∀ (e a : Table) (filter : ColumnFilter) (policy : RowCountPolicy) ds rows columns,
      (Alignment.align (.distinct e a) filter policy : Findings Alignment) =
        ⟨ds, .ok (.aligned rows columns)⟩ →
      (∀ p ∈ columns, SameColumn p.expected.name p.actual.name) ∧
      ((a.columns.map Column.key).Nodup → ∀ c ∈ e.columns.filter (filter e.name),
        ∀ d ∈ a.columns.filter (filter e.name),
          ((∃ p ∈ columns, p.expected = c ∧ p.actual = d) ↔ SameColumn c.name d.name)) := by
  refine ⟨Column.isNamed_iff, sameColumn_equivalence, fun a b => ⟨sameColumn_iff_value,
    sameColumn_iff_column?, sameColumn_iff_select⟩, ?_⟩
  intro e a filter policy ds rows columns h
  have hpairs := Alignment.pairs_of_align h
  exact ⟨fun p hp => sameColumn_iff.mpr (hpairs.key_eq p hp),
    fun hnodup c hc d hd => paired_iff_sameColumn hpairs hnodup hc hd⟩

/-- The names `straße` and `Strasse` have one key, though they differ in their letters. -/
theorem isNamed_identifies_strasse :
    let e : MemoryTable := ⟨"T", [.untyped "id", .untyped "straße"], #[[none, none]], by simp⟩
    let a : MemoryTable := ⟨"T", [.untyped "ID", .untyped "Strasse"], #[[none, none]], by simp⟩
    (Column.untyped "straße").key = nameKey "Strasse" ∧
      (Column.untyped "straße").isNamed "Strasse" = true ∧
      ∃ ds rows columns,
        (Alignment.align (.distinct e.toTable a.toTable) .acceptAll .lenient :
          Findings Alignment) = ⟨ds, .ok (.aligned rows columns)⟩ ∧
        ∃ p ∈ columns, p.expected = .untyped "straße" ∧ p.actual = .untyped "Strasse" := by
  intro e a
  have hkey : (Column.untyped "straße").key = nameKey "Strasse" := by decide +kernel
  have hnamed := (isNamed_identifies.1 (.untyped "straße") "Strasse").mpr hkey
  have halign : (Alignment.align (.distinct e.toTable a.toTable) .acceptAll .lenient :
      Findings Alignment) = ⟨[], .ok (.aligned (.known 1)
        [⟨.untyped "id", .untyped "ID", .unknown⟩,
          ⟨.untyped "straße", .untyped "Strasse", .unknown⟩])⟩ := by
    have hes : Column.sorted e.toTable.columns = e.columns :=
      List.mergeSort_of_pairwise (by decide +kernel)
    have has : Column.sorted a.toTable.columns = a.columns :=
      List.mergeSort_of_pairwise (by decide +kernel)
    have hlength : e.toTable.columns.length = a.toTable.columns.length := rfl
    have hkeys : e.columns.map Column.key = a.columns.map Column.key := by decide +kernel
    change (Alignment.alignColumns e.toTable a.toTable .acceptAll (.known 1) :
      Findings Alignment) = _
    rw [Alignment.alignColumns_eq, hes, has, if_neg (not_not.mpr hlength),
      if_neg (not_not.mpr hkeys)]
    exact if_neg (not_not.mpr hkeys)
  have hpairs := (isNamed_identifies.2.2.2 _ _ _ _ _ _ _ halign).2 (by decide +kernel)
  exact ⟨hkey, hnamed, _, _, _, halign,
    (hpairs (.untyped "straße") (by decide) (.untyped "Strasse") (by decide)).mpr hnamed⟩

end TableDiff
