import TableDiff.Proofs.Comparison.RowCounts

/-!
# Leaving out columns

A filter takes the differences of the columns that it rejects out of what is found, and changes
nothing else. There is one exception. Rows are judged by the first column that is compared, so if no
column is left, the rows of tables that do not announce their number are not counted any more.
-/

namespace TableDiff

/-! ## What remains of the differences -/

/-- Whether a difference is still found if only the columns that `keep` accepts are compared.
Differences in the number of rows are found as long as the rows are counted. -/
def Difference.remains (keep : Column → Bool) (counted : Bool) : Difference → Bool
  | .rowCount _ _ _ => counted
  | .datatypes _ column _ _ => keep (.untyped column)
  | .value _ _ column _ _ _ _ => keep (.untyped column)
  | _ => true

section Remains

variable {keep : Column → Bool}

theorem filterMap_filter_eq {α β : Type} {p : α → Bool} {q : β → Bool} {g : α → Option β}
    (h : ∀ a b, g a = some b → q b = p a) (xs : List α) :
    (xs.filter p).filterMap g = (xs.filterMap g).filter q := by
  rw [List.filterMap_filter, List.filter_filterMap]
  apply List.filterMap_congr
  intro a _
  cases hg : g a with
  | none => simp
  | some b => rw [Option.filter_some, h a b hg]

theorem RespectsKeys.untyped (hkeep : RespectsKeys keep) (c : Column) :
    keep (.untyped c.name) = keep c := hkeep _ _ rfl

theorem remains_datatypeDifference? (hkeep : RespectsKeys keep) (counted : Bool) (table : String)
    (p : Column × Column) (d : Difference)
    (h : Alignment.datatypeDifference? table p = some d) :
    d.remains keep counted = keep p.1 := by
  unfold Alignment.datatypeDifference? at h
  split at h
  · cases h
    exact hkeep.untyped p.1
  · cases h

theorem remains_cellDifference? (hkeep : RespectsKeys keep) (counted : Bool) (w : RowWalk)
    (s t : Table) (row : Nat) (x y : AlignedColumn → Cell) (c : AlignedColumn) (d : Difference)
    (h : w.cellDifference? s t row c (x c) (y c) = some d) :
    d.remains keep counted = keep c.expected := by
  obtain ⟨mismatch, -, rfl⟩ := Option.map_eq_some_iff.mp h
  exact hkeep.untyped c.expected

end Remains

/-! ## Walks with fewer columns -/

namespace RowWalk

def keeping (w : RowWalk) (keep : Column → Bool) : RowWalk :=
  { w with columns := w.columns.filter fun c => keep c.expected }

theorem rowDifferences_keeping {keep : Column → Bool} (hkeep : RespectsKeys keep) (counted : Bool)
    (w : RowWalk) (s t : Table) (x y : Nat → AlignedColumn → Cell) (row : Nat) :
    (w.keeping keep).rowDifferences s t x y row =
      (w.rowDifferences s t x y row).filter (Difference.remains keep counted) := by
  apply filterMap_filter_eq
  intro c d hd
  exact remains_cellDifference? hkeep counted w s t row (x row) (y row) c d hd

theorem filter_endDifference? (keep : Column → Bool) (counted : Bool) (table : String)
    (rows : RowBound) (n m : Nat) :
    (endDifference? table rows n m).toList.filter (Difference.remains keep counted) =
      if counted then (endDifference? table rows n m).toList else [] := by
  -- Whatever the bound is, the end of a walk is a difference in the number of rows.
  have hrows : ∀ d, endDifference? table rows n m = some d → d.remains keep counted = counted := by
    intro d hd
    obtain ⟨e, a, rfl⟩ : ∃ e a, d = .rowCount table e a := by
      unfold endDifference? at hd
      cases rows with
      | known bound => grind
      | untilExhausted => grind
    rfl
  cases hd : endDifference? table rows n m with
  | none => simp
  | some d =>
    rw [Option.toList_some, List.filter_singleton, hrows d hd]
    cases counted <;> rfl

/-- A walk loses the cells of the columns that are left out. The end of the walk is lost if no
column is left. -/
theorem differences_keeping {keep : Column → Bool} (hkeep : RespectsKeys keep) {counted : Bool}
    (w : RowWalk) (s t : Table) (n m : Nat)
    (hend : counted = !(w.keeping keep).columns.isEmpty ∨
      endDifference? s.name w.rows n m = none) :
    (w.keeping keep).differences s t n m =
      (w.differences s t n m).filter (Difference.remains keep counted) := by
  unfold differences
  -- Without columns there is no walk, with or without the filter.
  by_cases hw : w.columns = []
  · have hkept : (w.keeping keep).columns = [] := by
      unfold keeping
      rw [hw]
      rfl
    rw [if_pos hkept, if_pos hw]
    rfl
  rw [if_neg hw, List.filter_append, List.filter_flatMap, filter_endDifference?]
  simp only [← rowDifferences_keeping hkeep counted]
  by_cases hkept : (w.keeping keep).columns = []
  · -- Nothing is kept: the rows are not walked, and their number is not looked at.
    have hlast : (if counted then (endDifference? s.name w.rows n m).toList else []) = [] := by
      rcases hend with hcounted | hnone
      · simp [hcounted, hkept]
      · simp [hnone]
    rw [if_pos hkept, hlast]
    unfold rowDifferences
    simp [hkept]
  · have hlast : (if counted then (endDifference? s.name w.rows n m).toList else []) =
        (endDifference? s.name w.rows n m).toList := by
      rcases hend with hcounted | hnone
      · simp [hcounted, hkept]
      · simp [hnone]
    rw [if_neg hkept, hlast]
    rfl

end RowWalk

/-! ## Comparisons with fewer columns -/

variable {s t : Table} {n m : Nat}

/-- A pair of columns is kept if and only if a column of the expected table is. -/
theorem isEmpty_filter_zip {keep : Column → Bool} {es as columns : List Column}
    (hlength : es.length ≤ as.length) (hperm : es.Perm columns) :
    ((es.zip as).filter fun p => keep p.1).isEmpty = !columns.any keep := by
  have hpairs : columns.any keep = (es.zip as).any fun p => keep p.1 := by
    calc columns.any keep = es.any keep := hperm.symm.any_eq
      _ = ((es.zip as).map Prod.fst).any keep := by rw [List.map_fst_zip hlength]
      _ = (es.zip as).any fun p => keep p.1 := List.any_map
  rw [hpairs, Bool.eq_iff_iff]
  simp [List.filter_eq_nil_iff]

theorem pairedDifferences_keeping {keep : Column → Bool} (hkeep : RespectsKeys keep)
    {counted : Bool} (comparators : ColumnComparators) (additional : List String)
    (pairs : List (Column × Column))
    (hend : counted = !(pairs.filter fun p => keep p.1).isEmpty ∨
      RowWalk.endDifference? s.name (rowBound s t) n m = none) :
    pairedDifferences comparators additional s t n m (pairs.filter fun p => keep p.1) =
      (pairedDifferences comparators additional s t n m pairs).filter
        (Difference.remains keep counted) := by
  let w : RowWalk := ⟨rowBound s t, pairs.map Alignment.alignedPair, comparators, additional⟩
  have hcolumns : (w.keeping keep).columns =
      (pairs.filter fun p => keep p.1).map Alignment.alignedPair := List.filter_map
  have hwalk : (w.keeping keep).differences s t n m =
      (w.differences s t n m).filter (Difference.remains keep counted) := by
    apply RowWalk.differences_keeping hkeep
    rw [hcolumns, List.isEmpty_map]
    exact hend
  have hkept : w.keeping keep = { w with columns := (w.keeping keep).columns } := rfl
  rw [hkept, hcolumns] at hwalk
  unfold pairedDifferences
  rw [List.filter_append, ← hwalk,
    filterMap_filter_eq (remains_datatypeDifference? hkeep counted s.name)]

/-- What remains of the differences if columns are left out. -/
theorem lenientDifferences_keeping (hs : s.HasRows n) {keep : Column → Bool}
    (hkeep : RespectsKeys keep) (comparators : ColumnComparators) (additional : List String) :
    lenientDifferences comparators additional s t n m keep =
      (lenientDifferences comparators additional s t n m fun _ => true).filter
        (Difference.remains keep (decide (BothCounted s t) || s.columns.any keep)) := by
  unfold lenientDifferences
  dsimp only
  split_ifs with hcount hempty hlength hkeys
  · rw [decide_eq_true hcount.1]
    rfl
  · rfl
  · rfl
  · rfl
  rw [List.filter_true]
  apply pairedDifferences_keeping hkeep
  by_cases hcounted : BothCounted s t
  · -- The announced numbers are equal, so no walk finds another one.
    have hnm : n = m := by
      by_contra hne
      exact hcount ⟨hcounted, hne⟩
    subst hnm
    exact Or.inr (endDifference?_of_counted hs hcounted)
  · have hle : (Column.sorted s.columns).length ≤ (Column.sorted t.columns).length := by
      unfold Column.sorted
      rw [List.length_mergeSort, List.length_mergeSort]
      omega
    have hkept : (((Column.sorted s.columns).zip (Column.sorted t.columns)).filter
        fun p => keep p.1).isEmpty = !s.columns.any keep :=
      isEmpty_filter_zip hle (List.mergeSort_perm s.columns _)
    rw [decide_eq_false hcounted, Bool.false_or, hkept, Bool.not_not]
    exact Or.inl rfl

/-- A lenient comparison under a filter that goes by keys collects what it collects of all columns,
without the failures of the columns that are left out. Rows are counted as long as both tables
announce their number or a column is kept. -/
theorem compareTable_excluding {sides : Sides Table} {n m : Nat}
    (hexpected : sides.expected.HasRows n) (hactual : sides.actual.HasRows m)
    (comparators : ColumnComparators) (options : CompareOptions)
    (hlenient : options.rowCount = .lenient)
    (hfilter : RespectsKeys (options.filter sides.expected.name)) :
    let keep := options.filter sides.expected.name
    let counted := decide (BothCounted sides.expected sides.actual) ||
      sides.expected.columns.any keep
    ∃ all : List Difference,
      (compareTable sides comparators { options with filter := .acceptAll } : Findings Unit) =
          ⟨all, .ok ()⟩ ∧
        Reporter.Run.collect (compareTable sides comparators
          { options with filter := .acceptAll }) = .ok (all.map Difference.toFailure) ∧
        Reporter.Run.collect (compareTable sides comparators options) =
          .ok ((all.filter (Difference.remains keep counted)).map Difference.toFailure) := by
  intro keep counted
  cases sides with
  | itself s => exact ⟨[], rfl, rfl, rfl⟩
  | distinct s t =>
    have hall := compareTable_lenient hexpected hactual comparators
      { options with filter := .acceptAll } hlenient fun _ _ _ => rfl
    have hkept := compareTable_lenient hexpected hactual comparators options hlenient hfilter
    rw [lenientDifferences_keeping hexpected hfilter] at hkept
    exact ⟨_, hall, Reporter.collect_compareTable hall, Reporter.collect_compareTable hkept⟩

section Uncounted

theorem lenientDifferences_uncountedTable (comparators : ColumnComparators)
    (column : String) (cells others : List String) (keep : Column → Bool) :
    lenientDifferences comparators [] (uncountedTable [column] cells)
        (uncountedTable [column] others) cells.length others.length keep =
      pairedDifferences comparators [] (uncountedTable [column] cells)
        (uncountedTable [column] others) cells.length others.length
        ([(.untyped column, .untyped column)].filter fun p => keep p.1) := by
  have hcolumns : ∀ cells, (uncountedTable [column] cells).columns = [.untyped column] :=
    fun _ => rfl
  have hsorted : Column.sorted [.untyped column] = [.untyped column] := List.mergeSort_singleton _
  have hcounted :
      ¬ BothCounted (uncountedTable [column] cells) (uncountedTable [column] others) := by
    simp [BothCounted, uncountedTable, Table.withRowCount]
  simp [lenientDifferences, hcounted, hcolumns, hsorted]

/-- Without any column, the rows of tables that do not announce their number are not counted. -/
theorem compareTable_excluding_all :
    let s := uncountedTable ["A"] ["1"]
    let t := uncountedTable ["A"] ["1", "2"]
    let comparators := TableComparators.empty.source "T"
    Reporter.Run.collect (compareTable (.distinct s t) comparators .default) =
        .ok [(Difference.rowCount "T" (.exactly 1) (.moreThan 1)).toFailure] ∧
      Reporter.Run.collect (compareTable (.distinct s t) comparators
        { CompareOptions.default with filter := fun _ _ => false }) = .ok [] := by
  intro s t comparators
  have hcollect (keep : Bool) : Reporter.Run.collect (compareTable (.distinct s t) comparators
      { CompareOptions.default with filter := fun _ _ => keep }) =
      .ok ((pairedDifferences comparators [] s t 1 2
        ([(.untyped "A", .untyped "A")].filter fun _ => keep)).map Difference.toFailure) := by
    have h := compareTable_lenient (uncountedTable_hasRows ["A"] ["1"])
      (uncountedTable_hasRows ["A"] ["1", "2"]) comparators
      { CompareOptions.default with filter := fun _ _ => keep } rfl fun _ _ _ => rfl
    rw [show CompareOptions.default.additional = [] from rfl,
      lenientDifferences_uncountedTable] at h
    exact Reporter.collect_compareTable h
  refine ⟨(hcollect true).trans ?_, hcollect false⟩
  decide

/-- One of two columns is left out, and the rows are counted by the other one. -/
theorem compareTable_excluding_one :
    let s := uncountedTable ["A", "B"] ["1", "2"]
    let t := uncountedTable ["A", "B"] ["3"]
    let comparators := TableComparators.empty.source "T"
    let keep := fun c : Column => c.key != "A"
    ∃ all : List Difference,
      (compareTable (.distinct s t) comparators .default : Findings Unit) = ⟨all, .ok ()⟩ ∧
        Reporter.Run.collect (compareTable (.distinct s t) comparators .default) =
          .ok (all.map Difference.toFailure) ∧
        Reporter.Run.collect (compareTable (.distinct s t) comparators
            { CompareOptions.default with filter := fun _ => keep }) =
          .ok ((all.filter (Difference.remains keep true)).map Difference.toFailure) := by
  intro s t comparators keep
  have hs : (Sides.distinct s t).expected.HasRows 2 :=
    uncountedTable_hasRows ["A", "B"] ["1", "2"]
  have ht : (Sides.distinct s t).actual.HasRows 1 := uncountedTable_hasRows ["A", "B"] ["3"]
  have hkeep : RespectsKeys keep := fun c d hkey => by simp only [keep, hkey]
  exact compareTable_excluding hs ht comparators
    { CompareOptions.default with filter := fun _ => keep } rfl hkeep

end Uncounted

end TableDiff
