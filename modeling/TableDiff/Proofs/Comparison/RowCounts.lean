import Mathlib
import TableDiff.Proofs.Comparison.Tables
import TableDiff.Proofs.Reporter

/-!
# Tables that may not announce their rows

A table may have rows without announcing their number. What a comparison finds of two such tables
is told by their numbers of rows, the bound that the walk takes from what is announced, and the
pairs of their columns. A strict comparison needs both numbers announced, and then it is a lenient
one.
-/

namespace TableDiff

/-! ## Filters that go by keys -/

/-- Two columns of one key are kept or left out together. -/
def RespectsKeys (keep : Column → Bool) : Prop := ∀ c d : Column, c.key = d.key → keep c = keep d

theorem RespectsKeys.zip_filter (hkeep : RespectsKeys keep) {es as : List Column}
    (hkeys : es.map Column.key = as.map Column.key) :
    (es.filter keep).zip (as.filter keep) = (es.zip as).filter fun p => keep p.1 := by
  induction es generalizing as with
  | nil => simp
  | cons e es ih =>
    cases as with
    | nil => simp at hkeys
    | cons a as =>
      simp only [List.map_cons, List.cons.injEq] at hkeys
      have hboth : keep e = keep a := hkeep e a hkeys.1
      have hrest := ih hkeys.2
      rw [List.zip_cons_cons, List.filter_cons, List.filter_cons, List.filter_cons, ← hboth]
      by_cases hkept : keep e = true
      · rw [if_pos hkept, if_pos hkept, if_pos hkept, List.zip_cons_cons, hrest]
      · rw [if_neg hkept, if_neg hkept, if_neg hkept, hrest]

/-! ## Walks -/

namespace RowWalk

/-- What a walk finds in tables with `n` and `m` rows. Without columns it does not start. -/
def differences (w : RowWalk) (s t : Table) (n m : Nat) : List Difference :=
  if w.columns = [] then []
  else
    (List.range (span w.rows n m)).flatMap (w.rowDifferences s t
      (fun row c => s.cellAt row c.expected.name) fun row c => t.cellAt row c.actual.name) ++
    (endDifference? s.name w.rows n m).toList

/-- A walk counts the cells that differ, not the difference at its end. -/
theorem compareRows_of_hasRows {w : RowWalk} {s t : Table} {n m : Nat} (hs : s.HasRows n)
    (ht : t.HasRows m)
    (hcolumns : ∀ c ∈ w.columns, c.expected.key ∈ s.columns.map Column.key ∧
      c.actual.key ∈ t.columns.map Column.key ∧ c.expected.key = c.actual.key) :
    (w.compareRows s t : Findings Nat) =
      ⟨w.differences s t n m,
        .ok ((List.range (span w.rows n m)).flatMap (w.rowDifferences s t
          (fun row c => s.cellAt row c.expected.name)
          fun row c => t.cellAt row c.actual.name)).length⟩ := by
  unfold differences
  cases hw : w.columns with
  | nil =>
    have hnone : ∀ x y, w.rowDifferences s t x y = fun _ => [] := by
      intro x y
      funext row
      simp [rowDifferences, hw]
    unfold compareRows
    rw [hw, if_pos rfl, hnone]
    simp
  | cons first rest =>
    have hfirst := hcolumns first (hw ▸ List.mem_cons_self)
    have hactual : nameKey first.name ∈ t.columns.map Column.key := by
      -- The expected name finds the rows of the actual table, too.
      change first.expected.key ∈ _
      rw [hfirst.2.2]
      exact hfirst.2.1
    rw [if_neg (List.cons_ne_nil first rest)]
    exact compareRows_of_hasRow hw (hs.hasRow_eq _ hfirst.1) (ht.hasRow_eq _ hactual)
      (fun row hrow c hc => hs.value_eq hrow (hcolumns c hc).1)
      (fun row hrow c hc => ht.value_eq hrow (hcolumns c hc).2.1)

end RowWalk

/-! ## Comparisons -/

/-- Whether both tables announce their numbers of rows. -/
def BothCounted (s t : Table) : Prop := s.rowCount.isSome ∧ t.rowCount.isSome

instance (s t : Table) : Decidable (BothCounted s t) :=
  inferInstanceAs (Decidable (s.rowCount.isSome ∧ t.rowCount.isSome))

theorem not_bothCounted_iff (s t : Table) :
    ¬ BothCounted s t ↔ s.rowCount = none ∨ t.rowCount = none := by
  unfold BothCounted
  cases s.rowCount <;> cases t.rowCount <;> simp

/-- The bound of a walk through two tables. -/
def rowBound (s t : Table) : RowBound :=
  match s.rowCount.or t.rowCount with
  | some n => .known n
  | none => .untilExhausted

/-- What is found in the pairs of columns that are kept, of tables with `n` and `m` rows. -/
def pairedDifferences (comparators : ColumnComparators) (additional : List String) (s t : Table)
    (n m : Nat) (pairs : List (Column × Column)) : List Difference :=
  pairs.filterMap (Alignment.datatypeDifference? s.name) ++
    RowWalk.differences ⟨rowBound s t, pairs.map Alignment.alignedPair, comparators, additional⟩
      s t n m

/-- What a lenient comparison finds of tables with `n` and `m` rows. -/
def lenientDifferences (comparators : ColumnComparators) (additional : List String) (s t : Table)
    (n m : Nat) (keep : Column → Bool) : List Difference :=
  let es := Column.sorted s.columns
  let as := Column.sorted t.columns
  if BothCounted s t ∧ n ≠ m then [.rowCount s.name (.exactly n) (.exactly m)]
  else if BothCounted s t ∧ n = 0 then []
  else if s.columns.length ≠ t.columns.length then [.columnCount s.name es as]
  else if es.map Column.key ≠ as.map Column.key then [.columns s.name es as]
  else pairedDifferences comparators additional s t n m ((es.zip as).filter fun p => keep p.1)

section Lenient

variable {s t : Table} {n m : Nat}

theorem rowBound_eq (hs : s.HasRows n) (ht : t.HasRows m) :
    rowBound s t = .untilExhausted ∨ rowBound s t = .known n ∨ rowBound s t = .known m := by
  unfold rowBound
  rcases hs.rowCount_eq with hn | hn <;> rcases ht.rowCount_eq with hm | hm <;> simp [hn, hm]

theorem align_lenient (hs : s.HasRows n) (ht : t.HasRows m) (filter : ColumnFilter) :
    (Alignment.align (.distinct s t) filter .lenient : Findings Alignment) =
      if BothCounted s t ∧ n ≠ m then
        ⟨[.rowCount s.name (.exactly n) (.exactly m)], .ok .mismatched⟩
      else if BothCounted s t ∧ n = 0 then ⟨[], .ok .identical⟩
      else Alignment.alignColumns s t filter (rowBound s t) := by
  unfold Alignment.align BothCounted rowBound
  rcases hs.rowCount_eq with hn | hn <;> rcases ht.rowCount_eq with hm | hm
  · simp [hn, hm]
  · simp [hn, hm]
  · simp [hn, hm]
  · simp [hn, hm]

theorem mem_columns_of_mem_pairs {keep : Column → Bool}
    (hkeys : (Column.sorted s.columns).map Column.key = (Column.sorted t.columns).map Column.key)
    {c : AlignedColumn}
    (hc : c ∈ (((Column.sorted s.columns).zip (Column.sorted t.columns)).filter
      fun p => keep p.1).map Alignment.alignedPair) :
    c.expected.key ∈ s.columns.map Column.key ∧ c.actual.key ∈ t.columns.map Column.key ∧
      c.expected.key = c.actual.key := by
  obtain ⟨p, hp, rfl⟩ := List.mem_map.mp hc
  have hzip := List.mem_of_mem_filter hp
  obtain ⟨he, ha⟩ := List.of_mem_zip hzip
  refine ⟨List.mem_map_of_mem ?_, List.mem_map_of_mem ?_, key_eq_of_mem_zip hkeys hzip⟩
  · exact (List.mergeSort_perm s.columns _).mem_iff.mp he
  · exact (List.mergeSort_perm t.columns _).mem_iff.mp ha

/-- A lenient comparison comes to its end if the filter goes by keys. -/
theorem compareTable_lenient (hs : s.HasRows n) (ht : t.HasRows m) (comparators : ColumnComparators)
    (options : CompareOptions) (hlenient : options.rowCount = .lenient)
    (hfilter : RespectsKeys (options.filter s.name)) :
    (compareTable (.distinct s t) comparators options : Findings Unit) =
      ⟨lenientDifferences comparators options.additional s t n m (options.filter s.name),
        .ok ()⟩ := by
  have halign := align_lenient hs ht options.filter
  rw [← hlenient] at halign
  unfold lenientDifferences
  dsimp only
  by_cases hcount : BothCounted s t ∧ n ≠ m
  · unfold compareTable
    rw [halign, if_pos hcount, if_pos hcount]
    rfl
  by_cases hempty : BothCounted s t ∧ n = 0
  · unfold compareTable
    rw [halign, if_neg hcount, if_pos hempty, if_neg hcount, if_pos hempty]
    rfl
  rw [if_neg hcount, if_neg hempty] at halign
  rw [compareTable_of_align halign, if_neg hcount, if_neg hempty]
  dsimp only
  split_ifs with hlength hkeys hkept
  · rfl
  · rfl
  · -- The filter keeps both columns of a pair or none, so it finds no other structure.
    exact absurd (map_key_filter_eq hfilter (not_not.mp hkeys)) hkept
  · let pairs := ((Column.sorted s.columns).zip (Column.sorted t.columns)).filter
      fun p => options.filter s.name p.1
    let w : RowWalk :=
      ⟨rowBound s t, pairs.map Alignment.alignedPair, comparators, options.additional⟩
    have hwalk := RowWalk.compareRows_of_hasRows (w := w) hs ht fun c hc =>
      mem_columns_of_mem_pairs (not_not.mp hkeys) hc
    rw [hfilter.zip_filter (not_not.mp hkeys), hwalk]
    simp [pairedDifferences, w, pairs]

theorem align_of_counted (h : BothCounted s t) (filter : ColumnFilter) (policy : RowCountPolicy) :
    (Alignment.align (.distinct s t) filter policy : Findings Alignment) =
      Alignment.align (.distinct s t) filter .lenient := by
  obtain ⟨k, hk⟩ := Option.isSome_iff_exists.mp h.1
  obtain ⟨l, hl⟩ := Option.isSome_iff_exists.mp h.2
  unfold Alignment.align
  dsimp only
  rw [hk, hl]

theorem align_strict_of_not_counted (h : ¬ BothCounted s t) (filter : ColumnFilter) :
    (Alignment.align (.distinct s t) filter .strict : Findings Alignment) =
      ⟨[], .error (.notComparable s.name)⟩ := by
  unfold Alignment.align
  dsimp only
  cases hs : s.rowCount with
  | none => rfl
  | some k =>
    cases ht : t.rowCount with
    | none => rfl
    | some l => exact absurd ⟨by simp [hs], by simp [ht]⟩ h

theorem align_lenient_of_not_counted (h : ¬ BothCounted s t) (filter : ColumnFilter) :
    (Alignment.align (.distinct s t) filter .lenient : Findings Alignment) =
      Alignment.alignColumns s t filter (rowBound s t) := by
  unfold Alignment.align rowBound
  rcases (not_bothCounted_iff s t).mp h with hnone | hnone
  · cases ht : t.rowCount <;> simp [ht, hnone]
  · cases hs : s.rowCount <;> simp [hs, hnone]

/-- Under either policy: a strict comparison is refused if a table does not announce its rows, and
every other one is as a lenient one. -/
theorem compareTable_of_hasRows (hs : s.HasRows n) (ht : t.HasRows m)
    (comparators : ColumnComparators) (options : CompareOptions)
    (hfilter : RespectsKeys (options.filter s.name)) :
    (compareTable (.distinct s t) comparators options : Findings Unit) =
      if options.rowCount = .strict ∧ ¬ BothCounted s t then ⟨[], .error (.notComparable s.name)⟩
      else ⟨lenientDifferences comparators options.additional s t n m (options.filter s.name),
        .ok ()⟩ := by
  have hlenient := compareTable_lenient hs ht comparators
    { options with rowCount := .lenient } rfl hfilter
  split_ifs with hrefused
  · unfold compareTable
    rw [hrefused.1, align_strict_of_not_counted hrefused.2]
    rfl
  · rw [← hlenient]
    unfold compareTable
    dsimp only
    cases hpolicy : options.rowCount with
    | lenient => rfl
    | strict =>
      have hcounted : BothCounted s t := not_not.mp fun h => hrefused ⟨hpolicy, h⟩
      rw [align_of_counted hcounted]

/-- What is collected of tables with rows. -/
theorem Assertion.collectTables_of_hasRows (assertion : Assertion) (hs : s.HasRows n)
    (ht : t.HasRows m) (hfilter : RespectsKeys (assertion.options.filter s.name)) :
    assertion.collectTables (.distinct s t) =
      if assertion.options.rowCount = .strict ∧ ¬ BothCounted s t then
        .error (.notComparable s.name)
      else .ok ((lenientDifferences (assertion.comparators.source s.name)
        assertion.options.additional s t n m (assertion.options.filter s.name)).map
          Difference.toFailure) := by
  have hcollect : assertion.collectTables (.distinct s t) = _ := Reporter.collect_carryOut
    (.tables (.distinct s t) (assertion.comparators.source s.name) assertion.options)
  have hfound := compareTable_of_hasRows hs ht (assertion.comparators.source s.name)
    assertion.options hfilter
  rw [hcollect]
  unfold Comparison.carryOut
  dsimp only
  rw [hfound]
  split_ifs <;> rfl

theorem endDifference?_of_counted (hs : s.HasRows n) (h : BothCounted s t) :
    RowWalk.endDifference? s.name (rowBound s t) n n = none := by
  have hbound : rowBound s t = .known n := by
    unfold rowBound
    rcases hs.rowCount_eq with hnone | hn
    · simp [BothCounted, hnone] at h
    · simp [hn]
  simp [hbound, RowWalk.endDifference?]

end Lenient

/-! ## Tables that do not announce their rows -/

/-- A table of the given columns with the same cell in all columns of a row. -/
def MemoryTable.ofCells (columns cells : List String) : MemoryTable :=
  ⟨"T", columns.map Column.untyped,
    (cells.map fun text => columns.map fun _ => some (.text text)).toArray, by simp⟩

def uncountedTable (columns cells : List String) : Table :=
  (MemoryTable.ofCells columns cells).toTable.withRowCount none

theorem uncountedTable_hasRows (columns cells : List String) :
    (uncountedTable columns cells).HasRows cells.length := by
  have hsize : (MemoryTable.ofCells columns cells).rows.size = cells.length := by
    simp [MemoryTable.ofCells]
  exact hsize ▸ (MemoryTable.ofCells columns cells).toTable_readsAs.hasRows.uncounted

end TableDiff
