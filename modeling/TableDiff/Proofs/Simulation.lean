import TableDiff.Comparison
import TableDiff.Proofs.Message

/-!
# One comparison in two ways of taking reports

A comparison is written once, for every way of taking reports. So what it does in two of them is
related as soon as their parts are: results to themselves, errors to themselves, steps in turn to
steps in turn, and each report to the report that answers it. The additional columns may differ
between the two sides, because nothing that is done depends on them. They only show in reports.
-/

namespace TableDiff

/-! ## Simulations -/

/-- A relation between runs in two ways of taking reports. A report on the one side is answered by
one on the other side if their differences are `reported` together. -/
structure Reporting.Simulation (m n : Type → Type) [Reporting m] [Reporting n] where
  rel : {α : Type} → m α → n α → Prop
  reported : Difference → Difference → Prop
  rel_pure : ∀ {α : Type} (a : α), rel (pure a : m α) (pure a)
  rel_bind : ∀ {α β : Type} {x : m α} {y : n α} {f : α → m β} {g : α → n β},
    rel x y → (∀ a, rel (f a) (g a)) → rel (x >>= f) (y >>= g)
  rel_report : ∀ {d d' : Difference}, reported d d' → rel (report d : m Unit) (report d')
  rel_fail : ∀ {α : Type} (e : CheckError), rel (fail e : m α) (fail e)

def RowWalk.showing (w : RowWalk) (names : List String) : RowWalk := { w with additional := names }

def CompareOptions.showing (options : CompareOptions) (names : List String) : CompareOptions :=
  { options with additional := names }

namespace Reporting.Simulation

variable {m n : Type → Type} [Reporting m] [Reporting n]

/-- The additional columns `names` on the one side are answered by `others` on the other side, and
whatever else is reported by itself. -/
structure Shows (S : Simulation m n) (names others : List String) : Prop where
  value : ∀ (e a : Table) (table : String) (row : Nat) (column : String) (mismatch : Mismatch)
    (x y : Cell), S.reported
      (.value table row column (RowWalk.additionalColumns e a row names) mismatch x y)
      (.value table row column (RowWalk.additionalColumns e a row others) mismatch x y)
  other : ∀ d : Difference, ¬ d.OfCell → S.reported d d

variable {S : Simulation m n} {names others : List String} {α : Type}

theorem rel_ofExcept (S : Simulation m n) (x : Except CheckError α) :
    S.rel (ofExcept x) (ofExcept x) := by
  cases x with
  | error e => exact S.rel_fail e
  | ok a => exact S.rel_pure a

/-- A report on which nothing else follows. -/
theorem rel_report_pure (S : Simulation m n) {d d' : Difference} (h : S.reported d d') (a : α) :
    S.rel (report d >>= fun _ => pure a) (report d' >>= fun _ => pure a) :=
  S.rel_bind (S.rel_report h) fun _ => S.rel_pure a

theorem Shows.rel_report_pure (hS : S.Shows names others) {d : Difference} (h : ¬ d.OfCell)
    (a : α) : S.rel (report d >>= fun _ => pure a) (report d >>= fun _ => pure a) :=
  S.rel_report_pure (hS.other d h) a

/-! ## Structure -/

theorem rel_pair (hS : S.Shows names others) (table : String) (e a : Column) :
    S.rel (Alignment.pair table e a) (Alignment.pair table e a) := by
  unfold Alignment.pair
  split
  · exact S.rel_pure _
  · apply hS.rel_report_pure
    exact id

theorem rel_pairAll (hS : S.Shows names others) (table : String) (es as : List Column) :
    S.rel (Alignment.pairAll table es as) (Alignment.pairAll table es as) := by
  induction es generalizing as with
  | nil => exact S.rel_pure _
  | cons e es ih =>
    cases as with
    | nil => exact S.rel_pure _
    | cons a as =>
      unfold Alignment.pairAll
      apply S.rel_bind (rel_pair hS table e a)
      intro c
      apply S.rel_bind (ih as)
      intro rest
      exact S.rel_pure _

theorem rel_alignColumns (hS : S.Shows names others) (e a : Table) (filter : ColumnFilter)
    (rows : RowBound) :
    S.rel (Alignment.alignColumns e a filter rows) (Alignment.alignColumns e a filter rows) := by
  simp only [Alignment.alignColumns]
  split
  · apply hS.rel_report_pure
    exact id
  · split
    · apply hS.rel_report_pure
      exact id
    · split
      · apply hS.rel_report_pure
        exact id
      · apply S.rel_bind (rel_pairAll hS _ _ _)
        intro columns
        exact S.rel_pure _

theorem rel_align (hS : S.Shows names others) (sides : Sides Table) (filter : ColumnFilter)
    (policy : RowCountPolicy) :
    S.rel (Alignment.align sides filter policy) (Alignment.align sides filter policy) := by
  unfold Alignment.align
  cases sides with
  | itself t => exact S.rel_pure _
  | distinct e a =>
    dsimp only
    split
    · split
      · apply hS.rel_report_pure
        exact id
      · split
        · exact S.rel_pure _
        · exact rel_alignColumns hS _ _ _ _
    · split
      · exact S.rel_fail _
      · exact rel_alignColumns hS _ _ _ _

/-! ## Cells -/

theorem rel_compareCell (hS : S.Shows names others) (w : RowWalk) (e a : Table) (row : Nat)
    (c : AlignedColumn) :
    S.rel ((w.showing names).compareCell e a row c) ((w.showing others).compareCell e a row c) := by
  unfold RowWalk.compareCell
  apply S.rel_bind (S.rel_ofExcept _)
  intro x
  apply S.rel_bind (S.rel_ofExcept _)
  intro y
  -- Both sides have the same comparators, so they see the same mismatch or none.
  cases hcheck : (w.comparators.select c.name).check c.datatype x y with
  | none =>
    simp only [RowWalk.showing, hcheck]
    exact S.rel_pure 0
  | some mismatch =>
    simp only [RowWalk.showing, hcheck]
    exact S.rel_report_pure (hS.value e a _ row _ mismatch x y) 1

theorem rel_compareRow (hS : S.Shows names others) (w : RowWalk) (e a : Table) (row : Nat)
    (columns : List AlignedColumn) :
    S.rel ((w.showing names).compareRow e a row columns)
      ((w.showing others).compareRow e a row columns) := by
  induction columns with
  | nil => exact S.rel_pure 0
  | cons c columns ih =>
    unfold RowWalk.compareRow
    apply S.rel_bind (rel_compareCell hS w e a row c)
    intro here
    apply S.rel_bind ih
    intro more
    exact S.rel_pure _

/-! ## Walks -/

theorem rel_endAtBound (hS : S.Shows names others) (e a : Table) (probe : String) (bound : Nat) :
    S.rel (RowWalk.endAtBound e a probe bound) (RowWalk.endAtBound e a probe bound) := by
  unfold RowWalk.endAtBound
  apply S.rel_bind (S.rel_ofExcept _)
  intro expectedMore
  split
  · apply hS.rel_report_pure
    exact id
  · apply S.rel_bind (S.rel_ofExcept _)
    intro actualMore
    split
    · apply hS.rel_report_pure
      exact id
    · exact S.rel_pure 0

theorem rel_endOfExpected (hS : S.Shows names others) (w : RowWalk) (e a : Table) (probe : String)
    (row : Nat) :
    S.rel ((w.showing names).endOfExpected e a probe row)
      ((w.showing others).endOfExpected e a probe row) := by
  cases hrows : w.rows with
  | known bound =>
    simp only [RowWalk.endOfExpected, RowWalk.showing, hrows]
    apply hS.rel_report_pure
    exact id
  | untilExhausted =>
    simp only [RowWalk.endOfExpected, RowWalk.showing, hrows]
    apply S.rel_bind (S.rel_ofExcept _)
    intro actualMore
    split
    · apply hS.rel_report_pure
      exact id
    · exact S.rel_pure 0

theorem rel_endOfActual (hS : S.Shows names others) (w : RowWalk) (e : Table) (row : Nat) :
    S.rel ((w.showing names).endOfActual e row) ((w.showing others).endOfActual e row) := by
  unfold RowWalk.endOfActual
  apply hS.rel_report_pure
  exact id

/-- The walk, by the rows that are left below the extent of the expected table. -/
theorem rel_walkFrom (hS : S.Shows names others) (w : RowWalk) (e a : Table) (probe : String)
    (row : Nat) :
    S.rel ((w.showing names).walkFrom e a probe row)
      ((w.showing others).walkFrom e a probe row) := by
  have hbounds : ∀ row, (w.showing others).atBound row = (w.showing names).atBound row :=
    fun _ => rfl
  -- The cases are those of the walk on the one side; the other side makes the same tests.
  fun_induction ((w.showing names).walkFrom e a probe row : m Nat) with
  | case1 row bound hbound =>
    rw [RowWalk.walkFrom_eq, hbounds, hbound]
    exact rel_endAtBound hS e a probe bound
  | case2 row hbound error he =>
    rw [RowWalk.walkFrom_eq, hbounds, hbound, he]
    exact S.rel_fail error
  | case3 row hbound he =>
    rw [RowWalk.walkFrom_eq, hbounds, hbound, he]
    exact rel_endOfExpected hS w e a probe row
  | case4 row hbound he _ error ha =>
    rw [RowWalk.walkFrom_eq, hbounds, hbound, he]
    dsimp only
    rw [ha]
    exact S.rel_fail error
  | case5 row hbound he _ ha =>
    rw [RowWalk.walkFrom_eq, hbounds, hbound, he]
    dsimp only
    rw [ha]
    exact rel_endOfActual hS w e row
  | case6 row hbound he _ ha ih =>
    rw [RowWalk.walkFrom_eq (w.showing others), hbounds, hbound, he]
    dsimp only
    rw [ha]
    apply S.rel_bind (rel_compareRow hS w e a row w.columns)
    intro here
    apply S.rel_bind ih
    intro more
    exact S.rel_pure _

theorem rel_compareRows (hS : S.Shows names others) (w : RowWalk) (e a : Table) :
    S.rel ((w.showing names).compareRows e a) ((w.showing others).compareRows e a) := by
  cases hcolumns : w.columns with
  | nil =>
    simp only [RowWalk.compareRows, RowWalk.showing, hcolumns]
    exact S.rel_pure 0
  | cons first rest =>
    have hwalk := rel_walkFrom hS w e a first.name 0
    simpa only [RowWalk.compareRows, RowWalk.showing, hcolumns] using hwalk

/-! ## Tables and datasets -/

theorem rel_compareTable (hS : S.Shows names others) (sides : Sides Table)
    (comparators : ColumnComparators) (options : CompareOptions) :
    S.rel (compareTable sides comparators (options.showing names))
      (compareTable sides comparators (options.showing others)) := by
  unfold compareTable
  apply S.rel_bind (rel_align hS sides options.filter options.rowCount)
  intro alignment
  cases alignment with
  | identical => exact S.rel_pure ()
  | mismatched => exact S.rel_pure ()
  | aligned rows columns =>
    apply S.rel_bind (rel_compareRows hS ⟨rows, columns, comparators, []⟩ _ _)
    intro count
    exact S.rel_pure ()

theorem rel_compareTableNames (hS : S.Shows names others) (es as : List TableName) :
    S.rel (compareTableNames es as) (compareTableNames es as) := by
  have hcount : S.rel (report (.tableCount es.length as.length))
      (report (.tableCount es.length as.length)) := S.rel_report (hS.other _ id)
  have hkeys : S.rel (report (.tables (es.map (·.key)) (as.map (·.key))))
      (report (.tables (es.map (·.key)) (as.map (·.key)))) := S.rel_report (hS.other _ id)
  unfold compareTableNames
  by_cases hc : es.length ≠ as.length <;> by_cases hk : es.map (·.key) ≠ as.map (·.key)
  · simp only [if_pos hc, if_pos hk]
    exact S.rel_bind hcount fun _ => hkeys
  · simp only [if_pos hc, if_neg hk]
    exact S.rel_bind hcount fun _ => S.rel_pure ()
  · simp only [if_neg hc, if_pos hk]
    exact hkeys
  · simp only [if_neg hc, if_neg hk]
    exact S.rel_pure ()

theorem rel_compareTablesOf (hS : S.Shows names others) (e a : Dataset)
    (actualNames : List TableName) (namesDiffer : Bool) (source : ComparatorSource)
    (options : CompareOptions) (wanted : List TableName) :
    S.rel (compareTablesOf e a actualNames namesDiffer source (options.showing names) wanted)
      (compareTablesOf e a actualNames namesDiffer source (options.showing others) wanted) := by
  induction wanted with
  | nil => exact S.rel_pure ()
  | cons name rest ih =>
    unfold compareTablesOf
    dsimp only
    split
    · split
      · exact ih
      · exact S.rel_fail _
    · apply S.rel_bind (S.rel_ofExcept _)
      intro t
      apply S.rel_bind (rel_compareTable hS _ _ options)
      intro _
      exact ih

theorem rel_compareDatasets (hS : S.Shows names others) (sides : Sides Dataset)
    (source : ComparatorSource) (options : CompareOptions) :
    S.rel (compareDatasets sides source (options.showing names))
      (compareDatasets sides source (options.showing others)) := by
  cases sides with
  | itself d => exact S.rel_pure ()
  | distinct e a =>
    apply S.rel_bind (rel_compareTableNames hS _ _)
    intro _
    exact rel_compareTablesOf hS e a _ _ source options _

end Reporting.Simulation

end TableDiff
