import TableDiff.Proofs.Comparison.RowCounts
import TableDiff.Proofs.Message

/-!
# What an alignment comes to

An alignment of two tables has three ends. It stops at one difference in structure, it finds that
both tables announce no rows, or it pairs the columns that the filter keeps, of each table all of
them and in the order of the keys. A difference is then reported for each pair whose columns declare
different datatypes.
-/

namespace TableDiff

/-! ## Reports on the structure -/

/-- The report of a difference in the number of rows, in the number of columns or in their keys. -/
def Failure.OfStructure (table : String) (f : Failure) : Prop :=
  f.message = Message.rowCount table ∨ (∃ n m, f.message = Message.columnCount table n m) ∨
    f.message = Message.columnMismatch table

theorem Failure.not_ofStructure_datatypes (table column name : String) (e a : Datatype) :
    ¬ (Difference.datatypes table column e a).toFailure.OfStructure name := by
  have hhead : (Difference.datatypes table column e a).toFailure.message.toList.head? = some 'I' :=
    Message.head?_incompatibleTypes table column
  rintro (h | ⟨n, m, h⟩ | h)
  · rw [h, Message.head?_rowCount] at hhead
    simp at hhead
  · rw [h, Message.head?_columnCount] at hhead
    simp at hhead
  · rw [h, Message.head?_columnMismatch] at hhead
    simp at hhead

namespace Alignment

/-! ## Pairs of columns -/

/-- The pairs of an alignment: columns of one key, in the order of the keys, on each side all that
the filter keeps. Their cells are compared under the datatype that is declared, and under none where
the declared datatypes conflict. -/
structure Pairs (keep : Column → Bool) (e a : Table) (columns : List AlignedColumn) : Prop where
  key_eq : ∀ c ∈ columns, c.expected.key = c.actual.key
  keys_sorted : columns.Pairwise fun c d => c.expected.key ≤ d.expected.key
  expected_perm : (columns.map (·.expected)).Perm (e.columns.filter keep)
  actual_perm : (columns.map (·.actual)).Perm (a.columns.filter keep)
  datatype_eq : ∀ c ∈ columns, c.datatype = c.expected.datatype.effective c.actual.datatype

section Pairs

variable {keep : Column → Bool} {e a : Table}

theorem Pairs.expected_mem {columns : List AlignedColumn} (h : Pairs keep e a columns)
    {c : AlignedColumn} (hc : c ∈ columns) : c.expected ∈ e.columns :=
  List.mem_of_mem_filter (h.expected_perm.mem_iff.mp (List.mem_map_of_mem hc))

theorem Pairs.actual_mem {columns : List AlignedColumn} (h : Pairs keep e a columns)
    {c : AlignedColumn} (hc : c ∈ columns) : c.actual ∈ a.columns :=
  List.mem_of_mem_filter (h.actual_perm.mem_iff.mp (List.mem_map_of_mem hc))

/-- Two lists of kept columns side by side, if they have the same keys. -/
theorem pairs_zip {es as : List Column} (hes : es = (Column.sorted e.columns).filter keep)
    (has : as = (Column.sorted a.columns).filter keep)
    (hkeys : es.map Column.key = as.map Column.key) :
    Pairs keep e a ((es.zip as).map alignedPair) := by
  have hlength : es.length = as.length := by
    have h := congrArg List.length hkeys
    rwa [List.length_map, List.length_map] at h
  -- Neither list is longer, so no column is lost.
  have hexpected : ((es.zip as).map alignedPair).map (·.expected) = es := by
    rw [List.map_map]
    exact List.map_fst_zip (le_of_eq hlength)
  have hactual : ((es.zip as).map alignedPair).map (·.actual) = as := by
    rw [List.map_map]
    exact List.map_snd_zip (le_of_eq hlength.symm)
  have hsorted : es.Pairwise fun c d => c.key ≤ d.key := by
    rw [hes]
    exact (pairwise_key_mergeSort e.columns).filter keep
  refine ⟨?_, ?_, ?_, ?_, ?_⟩
  · intro c hc
    obtain ⟨p, hp, rfl⟩ := List.mem_map.mp hc
    exact key_eq_of_mem_zip hkeys hp
  · rw [← hexpected, List.pairwise_map] at hsorted
    exact hsorted
  · rw [hexpected, hes]
    exact (List.mergeSort_perm e.columns _).filter keep
  · rw [hactual, has]
    exact (List.mergeSort_perm a.columns _).filter keep
  · intro c hc
    obtain ⟨p, -, rfl⟩ := List.mem_map.mp hc
    rfl

end Pairs

/-! ## Ends -/

/-- What an alignment may come to, with what it finds on the way. -/
inductive Ends (keep : Column → Bool) (e a : Table) : List Difference → Alignment → Prop where
  | identical (he : e.rowCount = some 0) (ha : a.rowCount = some 0) : Ends keep e a [] .identical
  | mismatched (d : Difference) (hd : d.toFailure.OfStructure e.name) :
    Ends keep e a [d] .mismatched
  | aligned (columns : List AlignedColumn) (hpairs : Pairs keep e a columns)
      (hrows : ¬ (e.rowCount = some 0 ∧ a.rowCount = some 0)) :
    Ends keep e a (columns.filterMap fun c => datatypeDifference? e.name (c.expected, c.actual))
      (.aligned (rowBound e a) columns)

section Ends

variable {e a : Table} {filter : ColumnFilter} {policy : RowCountPolicy}

theorem ends_alignColumns (hrows : ¬ (e.rowCount = some 0 ∧ a.rowCount = some 0)) :
    ∃ ds alignment,
      (alignColumns e a filter (rowBound e a) : Findings Alignment) = ⟨ds, .ok alignment⟩ ∧
        Ends (filter e.name) e a ds alignment := by
  rw [alignColumns_eq]
  dsimp only
  by_cases hlength : e.columns.length ≠ a.columns.length
  · rw [if_pos hlength]
    exact ⟨_, _, rfl, .mismatched _ (.inr (.inl ⟨_, _, rfl⟩))⟩
  rw [if_neg hlength]
  by_cases hkeys : (Column.sorted e.columns).map Column.key ≠
      (Column.sorted a.columns).map Column.key
  · rw [if_pos hkeys]
    exact ⟨_, _, rfl, .mismatched _ (.inr (.inr rfl))⟩
  rw [if_neg hkeys]
  by_cases hkept : ((Column.sorted e.columns).filter (filter e.name)).map Column.key ≠
      ((Column.sorted a.columns).filter (filter e.name)).map Column.key
  · rw [if_pos hkept]
    exact ⟨_, _, rfl, .mismatched _ (.inr (.inr rfl))⟩
  rw [if_neg hkept]
  refine ⟨_, _, rfl, ?_⟩
  have hends := Ends.aligned _ (pairs_zip rfl rfl (not_not.mp hkept)) hrows
  rw [List.filterMap_map] at hends
  exact hends

/-- A strict alignment is refused if a table does not announce its rows, and every other one comes
to one of its ends. -/
theorem align_cases (e a : Table) (filter : ColumnFilter) (policy : RowCountPolicy) :
    (policy = .strict ∧ ¬ BothCounted e a ∧
      (align (.distinct e a) filter policy : Findings Alignment) =
        ⟨[], .error (.notComparable e.name)⟩) ∨
    (¬ (policy = .strict ∧ ¬ BothCounted e a) ∧ ∃ ds alignment,
      (align (.distinct e a) filter policy : Findings Alignment) = ⟨ds, .ok alignment⟩ ∧
        Ends (filter e.name) e a ds alignment) := by
  by_cases hcounted : BothCounted e a
  · refine .inr ⟨fun h => h.2 hcounted, ?_⟩
    obtain ⟨n, hn⟩ := Option.isSome_iff_exists.mp hcounted.1
    obtain ⟨m, hm⟩ := Option.isSome_iff_exists.mp hcounted.2
    have hbound : rowBound e a = .known n := by
      unfold rowBound
      simp [hn]
    unfold align
    dsimp only
    rw [hn, hm]
    dsimp only
    by_cases hnm : n ≠ m
    · rw [if_pos hnm]
      exact ⟨_, _, rfl, .mismatched _ (.inl rfl)⟩
    rw [if_neg hnm]
    by_cases hzero : n = 0
    · have hm0 : m = 0 := by omega
      rw [if_pos hzero]
      exact ⟨_, _, rfl, .identical (hzero ▸ hn) (hm0 ▸ hm)⟩
    rw [if_neg hzero, ← hbound]
    apply ends_alignColumns
    rintro ⟨he, -⟩
    rw [hn, Option.some.injEq] at he
    exact hzero he
  · cases policy with
    | strict => exact .inl ⟨rfl, hcounted, align_strict_of_not_counted hcounted filter⟩
    | lenient =>
      refine .inr ⟨fun h => absurd h.1 (by decide), ?_⟩
      have hzero : ¬ (e.rowCount = some 0 ∧ a.rowCount = some 0) := by
        rintro ⟨he, ha⟩
        exact hcounted ⟨by simp [he], by simp [ha]⟩
      rw [align_lenient_of_not_counted hcounted]
      exact ends_alignColumns hzero

end Ends

/-- Under every reporter without refusals an alignment of two tables makes the same reports and has
the same outcome. It is mismatched exactly after one report, on the structure, and identical exactly
without a report and without rows on either side. Otherwise it pairs the kept columns and reports
the pairs whose datatypes conflict. It is refused exactly if it is strict and a number of rows is
not announced. -/
theorem align_invariants (e a : Table) (filter : ColumnFilter) (policy : RowCountPolicy) :
    ∃ (failures : List Failure) (outcome : Except CheckError Alignment),
      (∀ (σ : Type) (r : Reporter σ), r.Collecting → ∀ s,
        (align (.distinct e a) filter policy : Reporter.Run σ Alignment) r s =
          (r.hear s failures, outcome)) ∧
      (∀ alignment, outcome = .ok alignment →
        (alignment = .mismatched ↔ ∃ f, failures = [f] ∧ f.OfStructure e.name) ∧
        (alignment = .identical ↔ failures = [] ∧ e.rowCount = some 0 ∧ a.rowCount = some 0) ∧
        (alignment = .mismatched ∨ alignment = .identical ∨ ∃ columns,
          alignment = .aligned (rowBound e a) columns ∧ Pairs (filter e.name) e a columns ∧
            failures = (columns.filterMap fun c =>
              datatypeDifference? e.name (c.expected, c.actual)).map Difference.toFailure)) ∧
      (∀ x, outcome = .error x ↔ x = .notComparable e.name ∧ policy = .strict ∧
        (e.rowCount = none ∨ a.rowCount = none)) := by
  let m : Findings Alignment := align (.distinct e a) filter policy
  refine ⟨m.differences.map Difference.toFailure, m.outcome, ?_, ?_, ?_⟩
  · intro σ r hr s
    rw [← Reporter.told_align]
    exact Reporter.told_of_collecting hr m s
  · intro alignment hok
    rcases align_cases e a filter policy with ⟨-, -, hm⟩ | ⟨-, ds, found, hm, hends⟩
    · rw [show m = _ from hm] at hok
      simp at hok
    rw [show m = _ from hm] at hok ⊢
    obtain rfl : found = alignment := Except.ok.inj hok
    dsimp only
    cases hends with
    | identical he ha => simp [he, ha]
    | mismatched d hd => simp [hd]
    | aligned columns hpairs hrows =>
      refine ⟨⟨nofun, ?_⟩, ⟨nofun, fun h => absurd h.2 hrows⟩, .inr (.inr ⟨_, rfl, hpairs, rfl⟩)⟩
      rintro ⟨f, hf, hstructure⟩
      -- Each report is on a pair, and none of those reads as one on the structure.
      have hmem : f ∈ (columns.filterMap fun c =>
          datatypeDifference? e.name (c.expected, c.actual)).map Difference.toFailure := by
        rw [hf]
        exact List.mem_singleton_self f
      obtain ⟨d, hd, rfl⟩ := List.mem_map.mp hmem
      obtain ⟨c, -, hc⟩ := List.mem_filterMap.mp hd
      unfold datatypeDifference? at hc
      split at hc
      · obtain rfl := Option.some.inj hc
        exact absurd hstructure (Failure.not_ofStructure_datatypes _ _ _ _ _)
      · simp at hc
  · intro x
    rw [← not_bothCounted_iff]
    rcases align_cases e a filter policy with
      ⟨hstrict, hcounted, hm⟩ | ⟨haccepted, ds, found, hm, -⟩
    · rw [show m = _ from hm]
      simp [hstrict, hcounted, eq_comm]
    · rw [show m = _ from hm]
      simp only [reduceCtorEq, false_iff]
      rintro ⟨-, hrefused⟩
      exact haccepted hrefused

end Alignment

end TableDiff
