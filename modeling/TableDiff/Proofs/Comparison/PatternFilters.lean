import TableDiff.Proofs.Comparison.RowCounts
import TableDiff.Proofs.Filter.Shape

/-!
# Filters of patterns between tables

Columns are paired by key, the upper-case form of their names, but patterns see the shape of a
name. Two tables with the same keys keep the same keys under every filter of patterns exactly if
their columns have the same shapes under each key, too.
-/

namespace TableDiff

/-! ## Keys and shapes -/

namespace Text

/-- Whether upper-casing changes no character of a text but to another one of the same letter. -/
def UpperKeepsLetters (cs : List Char) : Prop :=
  ∀ c ∈ cs, (upper [c]).map foldChar = [foldChar c]

instance (cs : List Char) : Decidable (UpperKeepsLetters cs) := List.decidableBAll _ cs

theorem upper_cons (c : Char) (cs : List Char) : upper (c :: cs) = upper [c] ++ upper cs := by
  unfold upper
  rw [List.flatMap_cons, List.flatMap_singleton]

variable {cs ds : List Char}

theorem UpperKeepsLetters.map_foldChar_upper (h : UpperKeepsLetters cs) :
    (upper cs).map foldChar = cs.map foldChar := by
  induction cs with
  | nil => rfl
  | cons c cs ih =>
    rw [upper_cons, List.map_append, h c List.mem_cons_self,
      ih fun d hd => h d (List.mem_cons_of_mem c hd)]
    rfl

end Text

namespace Glob

theorem seen_eq_of_foldChar_eq {c d : Char} (h : Text.foldChar c = Text.foldChar d) :
    seen c = seen d := by
  have hchar {x : Char} (hx : x.toNat < 0x41) : c = x ↔ d = x := by
    rw [← Text.foldChar_eq_iff_of_lt hx, h, Text.foldChar_eq_iff_of_lt hx]
  unfold seen
  simp only [hchar (x := '*') (by decide), hchar (x := '?') (by decide), h]

theorem shape_eq_of_map_foldChar_eq {cs ds : List Char}
    (h : cs.map Text.foldChar = ds.map Text.foldChar) : shape cs = shape ds := by
  induction cs generalizing ds with
  | nil => rw [List.map_eq_nil_iff.mp h.symm]
  | cons c cs ih =>
    cases ds with
    | nil => simp at h
    | cons d ds =>
      rw [List.map_cons, List.map_cons, List.cons.injEq] at h
      show seen c :: shape cs = seen d :: shape ds
      rw [seen_eq_of_foldChar_eq h.1, ih h.2]

end Glob

namespace PatternFilter

variable {a b c d : Column} {columns : List Column}

/-- Columns of one key are of one shape if upper-casing keeps the letters of their names. -/
theorem shapeOf_eq_of_key_eq (hkey : a.key = b.key) (ha : Text.UpperKeepsLetters a.name.toList)
    (hb : Text.UpperKeepsLetters b.name.toList) : shapeOf a = shapeOf b := by
  have hupper : Text.upper a.name.toList = Text.upper b.name.toList := String.ofList_injective hkey
  apply Glob.shape_eq_of_map_foldChar_eq
  rw [← ha.map_foldChar_upper, ← hb.map_foldChar_upper, hupper]

/-! ## A filter for one shape -/

/-- A filter that keeps, of the given columns, those whose names contain that of `c` and are
contained in it. -/
def onlyLike (table : String) (c : Column) (columns : List Column) : PatternFilter :=
  ofPatterns [ColumnPattern.containing table c.name]
    ((columns.filter fun d => !(Glob.containing d.name.toList).isMatch c.name.toList).map fun d =>
      ColumnPattern.containing table d.name)

/-- Of the given columns it keeps those of the shape of `c`. -/
theorem accepts_onlyLike (table : String) (c : Column) (hd : d ∈ columns) :
    (onlyLike table c columns).accepts table d = true ↔ shapeOf d = shapeOf c := by
  have haccepts (d : Column) : (onlyLike table c columns).accepts table d = true ↔
      (Glob.containing c.name.toList).isMatch d.name.toList = true ∧
        ∀ e ∈ columns, (Glob.containing e.name.toList).isMatch d.name.toList = true →
          (Glob.containing e.name.toList).isMatch c.name.toList = true := by
    unfold onlyLike
    rw [accepts_ofPatterns]
    simp only [List.isEmpty_cons, List.any_cons, List.any_nil, Bool.or_false, Bool.false_or,
      ColumnPattern.isMatch_containing, Bool.and_eq_true, Bool.not_eq_true', List.any_eq_false,
      List.forall_mem_map, List.mem_filter, and_imp]
    grind
  constructor
  · intro h
    obtain ⟨hcontains, hexcluded⟩ := (haccepts d).mp h
    exact Glob.shape_eq_of_isMatch_containing
      (hexcluded d hd (Glob.isMatch_containing_self d.name.toList)) hcontains
  · intro hshape
    have hcongr : (onlyLike table c columns).accepts table d =
        (onlyLike table c columns).accepts table c := accepts_congr hshape _ _ table
    rw [hcongr, haccepts c]
    exact ⟨Glob.isMatch_containing_self c.name.toList, fun _ _ h => h⟩

end PatternFilter

/-! ## Alignment -/

/-- Whether a difference between the names of columns is among those that are found. -/
def Findings.ReportsColumns {α : Type} (f : Findings α) : Prop :=
  ∃ table es as, Difference.columns table es as ∈ f.differences

/-- Whether a comparison ends with the numbers of rows. -/
def RowsSettle (s t : Table) : Prop :=
  BothCounted s t ∧ (s.rowCount ≠ t.rowCount ∨ s.rowCount = some 0)

instance (s t : Table) : Decidable (RowsSettle s t) :=
  inferInstanceAs (Decidable (BothCounted s t ∧ (s.rowCount ≠ t.rowCount ∨ s.rowCount = some 0)))

namespace Alignment

variable {s t : Table}

theorem reportsColumns_alignColumns_iff
    (hkeys : (s.columns.map Column.key).Perm (t.columns.map Column.key)) (filter : ColumnFilter)
    (rows : RowBound) :
    (alignColumns s t filter rows : Findings Alignment).ReportsColumns ↔
      ¬ ((s.columns.filter (filter s.name)).map Column.key).Perm
        ((t.columns.filter (filter s.name)).map Column.key) := by
  have hlength : s.columns.length = t.columns.length := by simpa using hkeys.length_eq
  have hsorted : (Column.sorted s.columns).map Column.key =
      (Column.sorted t.columns).map Column.key := map_key_mergeSort_eq_iff.mpr hkeys
  rw [alignColumns_eq, ← map_key_filter_mergeSort_eq_iff]
  dsimp only
  rw [if_neg (not_not.mpr hlength), if_neg (not_not.mpr hsorted)]
  change (if _ then _ else _ : Findings Alignment).ReportsColumns ↔ ¬ _
  split_ifs with h
  · exact iff_of_true ⟨_, _, _, List.mem_singleton_self _⟩ h
  · refine iff_of_false ?_ h
    rintro ⟨table, es, as, hmem⟩
    obtain ⟨p, -, hp⟩ := List.mem_filterMap.mp hmem
    unfold datatypeDifference? at hp
    split at hp <;> cases hp

/-- With the same keys on both sides, names of columns are reported where the comparison gets to
them and the filter keeps other keys of one table than of the other. -/
theorem reportsColumns_align_iff
    (hkeys : (s.columns.map Column.key).Perm (t.columns.map Column.key)) (filter : ColumnFilter)
    (policy : RowCountPolicy) :
    (align (.distinct s t) filter policy : Findings Alignment).ReportsColumns ↔
      ¬ RowsSettle s t ∧ (policy = .lenient ∨ BothCounted s t) ∧
        ¬ ((s.columns.filter (filter s.name)).map Column.key).Perm
          ((t.columns.filter (filter s.name)).map Column.key) := by
  by_cases hcounted : BothCounted s t
  · obtain ⟨n, hn⟩ := Option.isSome_iff_exists.mp hcounted.1
    obtain ⟨m, hm⟩ := Option.isSome_iff_exists.mp hcounted.2
    have hsettle : RowsSettle s t ↔ n ≠ m ∨ n = 0 := by simp [RowsSettle, hcounted, hn, hm]
    rw [hsettle, ← reportsColumns_alignColumns_iff hkeys filter (.known n)]
    unfold align
    dsimp only
    rw [hn, hm]
    dsimp only
    split_ifs with hne hzero
    · simp [Findings.ReportsColumns, hne]
    · simp [Findings.ReportsColumns, hzero]
    · simp [hne, hzero, hcounted]
  · have hsettle : ¬ RowsSettle s t := fun h => hcounted h.1
    cases policy with
    | strict =>
      rw [align_strict_of_not_counted hcounted]
      simp [Findings.ReportsColumns, hcounted]
    | lenient =>
      rw [align_lenient_of_not_counted hcounted, reportsColumns_alignColumns_iff hkeys]
      simp [hsettle]

end Alignment

namespace PatternFilter

/-- What identifies a column, and what patterns see of it. -/
def identity (c : Column) : String × List (Option Char) := (c.key, shapeOf c)

theorem count_identity (columns : List Column) (key : String) (shape : List (Option Char)) :
    (columns.map identity).count (key, shape) =
      ((columns.filter (shapeOf · = shape)).map Column.key).count key := by
  simp only [List.count, List.countP_map, List.countP_filter]
  apply List.countP_congr
  intro c _
  simp [identity]

/-- The keys that are kept agree under every filter of patterns exactly if the columns agree by key
and shape. -/
theorem forall_kept_perm_iff (table : String) (es as : List Column) :
    (∀ includes excludes,
      ((es.filter ((ofPatterns includes excludes).accepts table)).map Column.key).Perm
        ((as.filter ((ofPatterns includes excludes).accepts table)).map Column.key)) ↔
      (es.map identity).Perm (as.map identity) := by
  constructor
  · intro h
    rw [List.perm_iff_count]
    rintro ⟨key, shape⟩
    by_cases hc : ∃ c ∈ es ++ as, shapeOf c = shape
    · obtain ⟨c, -, rfl⟩ := hc
      have honly (columns : List Column) (hsub : columns ⊆ es ++ as) :
          columns.filter ((onlyLike table c (es ++ as)).accepts table) =
            columns.filter (shapeOf · = shapeOf c) :=
        List.filter_congr fun d hd => by
          rw [Bool.eq_iff_iff, accepts_onlyLike table c (hsub hd), decide_eq_true_iff]
      rw [count_identity, count_identity, ← honly es (List.subset_append_left es as),
        ← honly as (List.subset_append_right es as)]
      exact (h _ _).count_eq key
    · have hnone (columns : List Column) (hsub : columns ⊆ es ++ as) :
          (columns.map identity).count (key, shape) = 0 := by
        rw [List.count_eq_zero, List.mem_map]
        rintro ⟨c, hmem, hidentity⟩
        exact hc ⟨c, hsub hmem, congrArg Prod.snd hidentity⟩
      rw [hnone es (List.subset_append_left es as), hnone as (List.subset_append_right es as)]
  · intro hperm includes excludes
    -- What is kept can be told from the shape.
    obtain ⟨keep, hkeep⟩ := (Function.factorsThrough_iff _).mp
      (fun (c d : Column) (hcd : identity c = identity d) =>
        accepts_congr (congrArg Prod.snd hcd) includes excludes table)
    have hfilter (columns : List Column) :
        (columns.filter ((ofPatterns includes excludes).accepts table)).map Column.key =
          ((columns.map identity).filter keep).map Prod.fst := by
      rw [List.filter_map, List.map_map, ← hkeep]
      rfl
    rw [hfilter, hfilter]
    exact (hperm.filter keep).map Prod.fst

/-- Filters of patterns answer alike for two columns exactly if the names are of one shape, as names
of one key are where upper-casing keeps their letters. Of two tables with the same keys they keep
the same keys exactly if the columns agree by key and shape, unless the numbers of rows settle the
comparison. -/
theorem respects_keys_iff (table : String) (a b : Column) (s t : Table) :
    ((∀ includes excludes, (ofPatterns includes excludes).accepts table a =
        (ofPatterns includes excludes).accepts table b) ↔ shapeOf a = shapeOf b) ∧
    (a.key = b.key → Text.UpperKeepsLetters a.name.toList →
      Text.UpperKeepsLetters b.name.toList → shapeOf a = shapeOf b) ∧
    ((s.columns.map Column.key).Perm (t.columns.map Column.key) →
      ((∀ includes excludes policy,
        ¬ (Alignment.align (.distinct s t) (ofPatterns includes excludes).accepts policy :
          Findings Alignment).ReportsColumns) ↔
        RowsSettle s t ∨ (s.columns.map identity).Perm (t.columns.map identity))) := by
  refine ⟨forall_accepts_eq_iff table a b, shapeOf_eq_of_key_eq, fun hkeys => ?_⟩
  simp only [Alignment.reportsColumns_align_iff hkeys, not_and, not_not]
  rw [← forall_kept_perm_iff s.name]
  constructor
  · intro h
    exact or_iff_not_imp_left.mpr fun hsettle includes excludes =>
      h includes excludes .lenient hsettle (.inl rfl)
  · rintro (hsettle | hkept) includes excludes policy hnot -
    · exact absurd hsettle hnot
    · exact hkept includes excludes

/-- Names that differ in the case of ASCII letters are of one shape, so no filter parts them. -/
theorem respects_keys_ascii :
    (∀ includes excludes, (ofPatterns includes excludes).accepts "T" (.untyped "Id") =
      (ofPatterns includes excludes).accepts "T" (.untyped "iD")) ∧
    ∀ includes excludes policy,
      ¬ (Alignment.align (.distinct (MemoryTable.ofCells ["Id", "x"] ["1"]).toTable
          (MemoryTable.ofCells ["X", "iD"] ["1"]).toTable)
        (ofPatterns includes excludes).accepts policy : Findings Alignment).ReportsColumns := by
  obtain ⟨hanswers, hshapes, hreports⟩ := respects_keys_iff "T" (.untyped "Id") (.untyped "iD")
    (MemoryTable.ofCells ["Id", "x"] ["1"]).toTable (MemoryTable.ofCells ["X", "iD"] ["1"]).toTable
  have hshape : shapeOf (.untyped "Id") = shapeOf (.untyped "iD") :=
    hshapes (by decide +kernel) (by decide +kernel) (by decide +kernel)
  exact ⟨hanswers.mpr hshape, (hreports (by decide +kernel)).mpr (.inr (by decide +kernel))⟩

/-- Upper-casing makes two letters of one, so a pattern parts two names of one key. -/
theorem not_respects_keys_sharp_s :
    (Column.untyped "ß").key = (Column.untyped "SS").key ∧
    (ofPatterns [] ["SS"]).accepts "T" (.untyped "ß") = true ∧
    (ofPatterns [] ["SS"]).accepts "T" (.untyped "SS") = false ∧
    (Alignment.align (.distinct (MemoryTable.ofCells ["ß"] ["1"]).toTable
        (MemoryTable.ofCells ["SS"] ["1"]).toTable)
      (ofPatterns [] ["SS"]).accepts .lenient : Findings Alignment).ReportsColumns := by
  refine ⟨by decide +kernel, by decide +kernel, by decide +kernel, ?_⟩
  exact (Alignment.reportsColumns_align_iff (by decide +kernel) _ _).mpr
    ⟨by decide +kernel, .inl rfl, by decide +kernel⟩

end PatternFilter

end TableDiff
