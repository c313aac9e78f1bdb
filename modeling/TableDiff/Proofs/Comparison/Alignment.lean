import TableDiff.Comparison.Alignment
import TableDiff.Proofs.Findings

/-!
# What the pairing of columns finds

Two columns conflict if both declare a datatype and not the same one. Pairing two lists of columns
finds one difference for each pair that conflicts, in the order of the pairs, and never fails.
-/

namespace TableDiff

/-! ## Datatypes -/

/-- Whether two columns declare different datatypes. -/
def Datatype.Conflicting (e a : Datatype) : Prop :=
  e ≠ .unknown ∧ a ≠ .unknown ∧ e ≠ a

instance (e a : Datatype) : Decidable (e.Conflicting a) :=
  inferInstanceAs (Decidable (e ≠ .unknown ∧ a ≠ .unknown ∧ e ≠ a))

/-- The datatype that is declared on one side or on both, and none under a conflict. -/
def Datatype.effective (e a : Datatype) : Datatype :=
  if e.Conflicting a then .unknown else if e = .unknown then a else e

theorem Datatype.resolve_eq (e a : Datatype) :
    resolve e a = if e.Conflicting a then none else some (e.effective a) := by
  unfold resolve effective
  by_cases he : e = .unknown
  · rw [if_pos he, if_neg fun h : e.Conflicting a => h.1 he, if_neg fun h => h.1 he, if_pos he]
  · by_cases ha : a = .unknown
    · rw [if_neg he, if_pos ha, if_neg fun h : e.Conflicting a => h.2.1 ha,
        if_neg fun h => h.2.1 ha, if_neg he]
    · by_cases hea : e = a
      · rw [if_neg he, if_neg ha, if_pos hea, if_neg fun h : e.Conflicting a => h.2.2 hea,
          if_neg fun h => h.2.2 hea, if_neg he]
      · rw [if_neg he, if_neg ha, if_neg hea, if_pos ⟨he, ha, hea⟩]

theorem Datatype.effective_self (t : Datatype) : t.effective t = t := by
  unfold effective
  rw [if_neg fun h => h.2.2 rfl, ite_self]

theorem Datatype.not_conflicting_unknown_left (t : Datatype) : ¬ Datatype.unknown.Conflicting t :=
  fun h => h.1 rfl

theorem Datatype.not_conflicting_unknown_right (t : Datatype) : ¬ t.Conflicting .unknown :=
  fun h => h.2.1 rfl

@[simp] theorem Datatype.effective_unknown_left (t : Datatype) :
    Datatype.unknown.effective t = t := by
  unfold effective
  rw [if_neg (not_conflicting_unknown_left t), if_pos rfl]

@[simp] theorem Datatype.effective_unknown_right (t : Datatype) : t.effective .unknown = t := by
  unfold effective
  rw [if_neg (not_conflicting_unknown_right t)]
  split
  · exact Eq.symm ‹_›
  · rfl

theorem Datatype.conflicting_comm (e a : Datatype) : e.Conflicting a ↔ a.Conflicting e :=
  ⟨fun h => ⟨h.2.1, h.1, h.2.2.symm⟩, fun h => ⟨h.2.1, h.1, h.2.2.symm⟩⟩

theorem Datatype.effective_comm (e a : Datatype) : e.effective a = a.effective e := by
  by_cases hconflict : e.Conflicting a
  · have hreversed : a.Conflicting e := (conflicting_comm e a).mp hconflict
    unfold effective
    rw [if_pos hconflict, if_pos hreversed]
  · -- Without a conflict one of the two is not declared, or both are the same.
    by_cases he : e = .unknown
    · subst he
      simp
    by_cases ha : a = .unknown
    · subst ha
      simp
    have hsame : e = a := Decidable.not_not.mp fun hne => hconflict ⟨he, ha, hne⟩
    rw [hsame]

/-! ## Pairs -/

namespace Alignment

/-- The difference between two paired columns, if they conflict. -/
def datatypeDifference? (table : String) (p : Column × Column) : Option Difference :=
  if p.1.datatype.Conflicting p.2.datatype then
    some (.datatypes table p.1.name p.1.datatype p.2.datatype)
  else none

/-- Two columns with the datatype under which their cells are compared. -/
def alignedPair (p : Column × Column) : AlignedColumn :=
  ⟨p.1, p.2, p.1.datatype.effective p.2.datatype⟩

theorem pair_eq (table : String) (e a : Column) :
    (pair table e a : Findings AlignedColumn) =
      ⟨(datatypeDifference? table (e, a)).toList, .ok (alignedPair (e, a))⟩ := by
  unfold pair datatypeDifference? alignedPair
  rw [Datatype.resolve_eq]
  by_cases hconflict : e.datatype.Conflicting a.datatype
  · have hnone : e.datatype.effective a.datatype = .unknown := if_pos hconflict
    rw [if_pos hconflict, if_pos hconflict, hnone]
    rfl
  · rw [if_neg hconflict, if_neg hconflict]
    rfl

theorem pairAll_eq (table : String) (es as : List Column) :
    (pairAll table es as : Findings (List AlignedColumn)) =
      ⟨(es.zip as).filterMap (datatypeDifference? table), .ok ((es.zip as).map alignedPair)⟩ := by
  induction es generalizing as with
  | nil => rfl
  | cons e es ih =>
    cases as with
    | nil => rfl
    | cons a as =>
      unfold pairAll
      rw [pair_eq, ih as, List.zip_cons_cons, List.filterMap_cons, List.map_cons]
      cases datatypeDifference? table (e, a) with
      | none => simp
      | some d => simp

/-- The columns that are compared, where the structure agrees so far. -/
theorem alignColumns_eq (e a : Table) (filter : ColumnFilter) (rows : RowBound) :
    (alignColumns e a filter rows : Findings Alignment) =
      let es := Column.sorted e.columns
      let as := Column.sorted a.columns
      let keptE := es.filter (filter e.name)
      let keptA := as.filter (filter e.name)
      if e.columns.length ≠ a.columns.length then
        ⟨[.columnCount e.name es as], .ok .mismatched⟩
      else if es.map Column.key ≠ as.map Column.key then ⟨[.columns e.name es as], .ok .mismatched⟩
      else if keptE.map Column.key ≠ keptA.map Column.key then
        ⟨[.columns e.name keptE keptA], .ok .mismatched⟩
      else
        ⟨(keptE.zip keptA).filterMap (datatypeDifference? e.name),
          .ok (.aligned rows ((keptE.zip keptA).map alignedPair))⟩ := by
  have hlength : ∀ columns, (Column.sorted columns).length = columns.length :=
    fun columns => List.length_mergeSort columns
  have hkeys : ∀ es as, (!sameKeys es as) = true ↔ es.map Column.key ≠ as.map Column.key := by
    intro es as
    simp [sameKeys]
  simp only [alignColumns, hlength, hkeys, pairAll_eq, Findings.report_eq, Findings.pure_eq,
    Findings.ok_bind, List.append_nil]

end Alignment

end TableDiff
