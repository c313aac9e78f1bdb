import TableDiff.Proofs.Comparator.Relation
import TableDiff.Proofs.Comparison.RowCounts

/-!
# Comparisons with the sides exchanged

A comparison under equality that keeps all columns finds the same if its sides are exchanged: the
differences are of the same kinds and at the same places, in the same order, with what was expected
and what was met exchanged. This does not depend on which of the tables announce their rows,
although the walk goes by the bound of one of them.
-/

namespace TableDiff

/-- The two sides in the other order. -/
def Sides.swap {α : Type} : Sides α → Sides α
  | .itself x => .itself x
  | .distinct e a => .distinct a e

/-- The column with its two cells in the other order. -/
def Message.AdditionalColumn.swap (c : AdditionalColumn) : AdditionalColumn :=
  ⟨c.column, c.actual, c.expected⟩

/-- A difference that is found with the sides exchanged where another one is found without. The
columns are written as in the expected table, so their names agree up to case only; and what is
said of a pair of cells may speak of the other cell. -/
inductive Difference.Mirrors : Difference → Difference → Prop where
  | rowCount (table : String) (e a : RowTotal) :
    Mirrors (.rowCount table e a) (.rowCount table a e)
  | columnCount (table : String) (es as : List Column) :
    Mirrors (.columnCount table es as) (.columnCount table as es)
  | columns (table : String) (es as : List Column) :
    Mirrors (.columns table es as) (.columns table as es)
  | datatypes (table : String) {c d : String} (e a : Datatype) (hkey : nameKey c = nameKey d) :
    Mirrors (.datatypes table c e a) (.datatypes table d a e)
  | value (table : String) (row : Nat) {c d : String} (additional : List Message.AdditionalColumn)
      (mismatch other : Mismatch) (e a : Cell) (hkey : nameKey c = nameKey d) :
    Mirrors (.value table row c additional mismatch e a)
      (.value table row d (additional.map Message.AdditionalColumn.swap) other a e)

theorem Difference.Mirrors.texts {d d' : Difference} (h : d.Mirrors d') :
    d'.toFailure.expected = d.toFailure.actual ∧ d'.toFailure.actual = d.toFailure.expected := by
  cases h <;> exact ⟨rfl, rfl⟩

/-! ## Lists in step -/

section Lists

variable {α β γ : Type} {R : β → γ → Prop} {xs : List α}

theorem forall₂_filterMap {f : α → Option β} {g : α → Option γ}
    (h : ∀ x ∈ xs, Option.Rel R (f x) (g x)) :
    List.Forall₂ R (xs.filterMap f) (xs.filterMap g) := by
  refine List.rel_filterMap (R := fun x y => x = y ∧ x ∈ xs) ?_
    (List.forall₂_same.mpr fun x hx => ⟨rfl, hx⟩)
  rintro x y ⟨rfl, hx⟩
  exact h x hx

theorem forall₂_flatMap {f : α → List β} {g : α → List γ}
    (h : ∀ x ∈ xs, List.Forall₂ R (f x) (g x)) : List.Forall₂ R (xs.flatMap f) (xs.flatMap g) := by
  refine List.rel_flatMap (R := fun x y => x = y ∧ x ∈ xs)
    (List.forall₂_same.mpr fun x hx => ⟨rfl, hx⟩) ?_
  rintro x y ⟨rfl, hx⟩
  exact h x hx

theorem forall₂_toList {o : Option β} {p : Option γ} (h : Option.Rel R o p) :
    List.Forall₂ R o.toList p.toList := by
  cases h with
  | none => exact .nil
  | some h => exact .cons h .nil

theorem forall₂_ite {p q : Prop} [Decidable p] [Decidable q] {as bs : List β} {cs ds : List γ}
    (h : p ↔ q) (hthen : p → List.Forall₂ R as cs) (helse : ¬ p → List.Forall₂ R bs ds) :
    List.Forall₂ R (if p then as else bs) (if q then cs else ds) := by
  by_cases hp : p
  · rw [if_pos hp, if_pos (h.mp hp)]
    exact hthen hp
  · rw [if_neg hp, if_neg (mt h.mpr hp)]
    exact helse hp

end Lists

/-! ## Cells and datatypes -/

variable {s t : Table} {comparators : ColumnComparators} {additional : List String}

theorem Alignment.datatypeDifference?_swap (table : String) {p : Column × Column}
    (hkey : p.1.key = p.2.key) :
    Option.Rel Difference.Mirrors (datatypeDifference? table p)
      (datatypeDifference? table p.swap) := by
  unfold datatypeDifference?
  dsimp only [Prod.fst_swap, Prod.snd_swap]
  by_cases hconflict : p.1.datatype.Conflicting p.2.datatype
  · rw [if_pos hconflict, if_pos ((Datatype.conflicting_comm ..).mp hconflict)]
    exact .some (.datatypes table _ _ hkey)
  · rw [if_neg hconflict, if_neg (mt (Datatype.conflicting_comm ..).mpr hconflict)]
    exact .none

theorem RowWalk.additionalColumns_swap (s t : Table) (row : Nat) (names : List String) :
    additionalColumns t s row names =
      (additionalColumns s t row names).map Message.AdditionalColumn.swap := by
  unfold additionalColumns
  rw [List.map_map]
  rfl

/-- Equality reports a pair of cells on both sides or on none. -/
theorem RowWalk.cellDifference?_swap {w w' : RowWalk} (hname : t.name = s.name)
    (hadditional : w'.additional = w.additional) (hcomparators : w'.comparators = w.comparators)
    (hequality : ∀ column, w.comparators.select column = .equality) (row : Nat)
    {p : Column × Column} (hkey : p.1.key = p.2.key) (x y : Cell) :
    Option.Rel Difference.Mirrors (w.cellDifference? s t row (Alignment.alignedPair p) x y)
      (w'.cellDifference? t s row (Alignment.alignedPair p.swap) y x) := by
  have hdatatype : (Alignment.alignedPair p.swap).datatype = (Alignment.alignedPair p).datatype :=
    Datatype.effective_comm _ _
  have hboth : (CellComparator.equality.check (Alignment.alignedPair p).datatype x y).isNone =
      (CellComparator.equality.check (Alignment.alignedPair p).datatype y x).isNone :=
    equality_accepts_comm _ x y
  unfold cellDifference?
  rw [hcomparators, hequality, hequality, hdatatype, hname, hadditional, additionalColumns_swap s t]
  cases hx : CellComparator.equality.check (Alignment.alignedPair p).datatype x y with
  | none =>
    rw [hx, Option.isNone_none, eq_comm, Option.isNone_iff_eq_none] at hboth
    rw [hboth]
    exact .none
  | some mismatch =>
    rw [hx, Option.isNone_some, eq_comm, Option.isNone_eq_false_iff, Option.isSome_iff_exists]
      at hboth
    -- The other mismatch need not be the reverse of this one: it speaks of the other cell.
    obtain ⟨other, hother⟩ := hboth
    rw [hother]
    exact .some (.value s.name row _ mismatch other x y hkey)

/-! ## Walks -/

theorem RowWalk.span_comm (rows : RowBound) (n m : Nat) : span rows n m = span rows m n := by
  cases rows with
  | known bound => simp only [span, Nat.min_comm n m]
  | untilExhausted => exact Nat.min_comm n m

/-- The end of a walk whose bound, if it has one, is that of one of the tables. -/
theorem RowWalk.endDifference?_swap (table : String) {rows : RowBound} {n m : Nat}
    (hrows : rows = .untilExhausted ∨ rows = .known n ∨ rows = .known m) :
    Option.Rel Difference.Mirrors (endDifference? table rows n m)
      (endDifference? table rows m n) := by
  unfold endDifference?
  rcases hrows with rfl | rfl | rfl
  -- Whatever the bound, the difference is found at the end of the shorter table.
  all_goals
    rcases lt_trichotomy n m with hlt | rfl | hlt
    · simpa [hlt, hlt.le, hlt.not_gt, hlt.not_ge] using Difference.Mirrors.rowCount ..
    · simp
    · simpa [hlt, hlt.le, hlt.not_gt, hlt.not_ge] using Difference.Mirrors.rowCount ..

theorem RowWalk.differences_swap {rows : RowBound} {pairs : List (Column × Column)} {n m : Nat}
    (hname : t.name = s.name) (hequality : ∀ column, comparators.select column = .equality)
    (hkeys : ∀ p ∈ pairs, p.1.key = p.2.key)
    (hrows : rows = .untilExhausted ∨ rows = .known n ∨ rows = .known m) :
    List.Forall₂ Difference.Mirrors
      (differences ⟨rows, pairs.map Alignment.alignedPair, comparators, additional⟩ s t n m)
      (differences ⟨rows, (pairs.map Prod.swap).map Alignment.alignedPair, comparators, additional⟩
        t s m n) := by
  unfold differences
  dsimp only
  cases hpairs : pairs with
  | nil => exact .nil
  | cons p rest =>
    rw [← hpairs, if_neg (by simp [hpairs]), if_neg (by simp [hpairs]), hname, span_comm rows m n]
    refine List.rel_append (forall₂_flatMap fun row _ => ?_)
      (forall₂_toList (endDifference?_swap s.name hrows))
    unfold rowDifferences
    rw [List.filterMap_map, List.filterMap_map, List.filterMap_map]
    refine forall₂_filterMap fun p hp => ?_
    exact cellDifference?_swap hname rfl rfl hequality row (hkeys p hp) _ _

/-! ## Comparisons -/

section Comparisons

variable {n m : Nat}

/-- The bound is taken from either table, unless they announce different numbers of rows. -/
theorem rowBound_comm (hs : s.HasRows n) (ht : t.HasRows m)
    (hcount : ¬ (BothCounted s t ∧ n ≠ m)) : rowBound t s = rowBound s t := by
  unfold rowBound
  rcases hs.rowCount_eq with hn | hn <;> rcases ht.rowCount_eq with hm | hm
  · simp [hn, hm]
  · simp [hn, hm]
  · simp [hn, hm]
  · have hboth : BothCounted s t := ⟨by simp [hn], by simp [hm]⟩
    have hnm : n = m := by
      by_contra hne
      exact hcount ⟨hboth, hne⟩
    simp [hn, hm, hnm]

theorem lenientDifferences_swap (hs : s.HasRows n) (ht : t.HasRows m) (hname : t.name = s.name)
    (hequality : ∀ column, comparators.select column = .equality) (additional : List String) :
    List.Forall₂ Difference.Mirrors
      (lenientDifferences comparators additional s t n m fun _ => true)
      (lenientDifferences comparators additional t s m n fun _ => true) := by
  have hcounted : BothCounted s t ↔ BothCounted t s := and_comm
  unfold lenientDifferences
  dsimp only
  rw [hname, List.filter_true, List.filter_true]
  -- The checks come in the same order on both sides, and the same one of them is the first to fail.
  refine forall₂_ite (and_congr hcounted ne_comm) (fun _ => .cons (.rowCount ..) .nil)
    fun hcount => ?_
  have hempty : BothCounted s t ∧ n = 0 ↔ BothCounted t s ∧ m = 0 := by
    rw [← hcounted]
    refine and_congr_right fun hboth => ?_
    have hnm : n = m := by
      by_contra hne
      exact hcount ⟨hboth, hne⟩
    rw [hnm]
  refine forall₂_ite hempty (fun _ => .nil) fun _ => ?_
  refine forall₂_ite ne_comm (fun _ => .cons (.columnCount ..) .nil) fun _ => ?_
  refine forall₂_ite ne_comm (fun _ => .cons (.columns ..) .nil) fun hkeys => ?_
  -- The structure agrees: what is left are the pairs of columns, exchanged.
  have hpairs : ∀ p ∈ (Column.sorted s.columns).zip (Column.sorted t.columns), p.1.key = p.2.key :=
    fun p hp => key_eq_of_mem_zip (not_not.mp hkeys) hp
  unfold pairedDifferences
  rw [← List.zip_swap (Column.sorted s.columns), rowBound_comm hs ht hcount, hname]
  refine List.rel_append ?_ (RowWalk.differences_swap hname hequality hpairs (rowBound_eq hs ht))
  rw [List.filterMap_map]
  exact forall₂_filterMap fun p hp => Alignment.datatypeDifference?_swap s.name (hpairs p hp)

end Comparisons

/-- Under equality and with all columns kept, a comparison is refused with its sides exchanged if it
is refused as it stands. Otherwise both come to their ends, and what is found by the one mirrors
what is found by the other, one difference after the other. -/
theorem collectTables_swap (assertion : Assertion) (sides : Sides Table) {n m : Nat}
    (hexpected : sides.expected.HasRows n) (hactual : sides.actual.HasRows m)
    (hname : sides.actual.name = sides.expected.name)
    (hequality : ∀ table column, (assertion.comparators.source table).select column = .equality)
    (hfilter : assertion.options.filter = .acceptAll) :
    (∃ error, assertion.collectTables sides = .error error ∧
      assertion.collectTables sides.swap = .error error) ∨
    ∃ found mirrored : List Difference,
      assertion.collectTables sides = .ok (found.map Difference.toFailure) ∧
      assertion.collectTables sides.swap = .ok (mirrored.map Difference.toFailure) ∧
      List.Forall₂ (fun d d' => d.Mirrors d' ∧ d'.toFailure.expected = d.toFailure.actual ∧
        d'.toFailure.actual = d.toFailure.expected) found mirrored := by
  cases sides with
  | itself s => exact Or.inr ⟨[], [], rfl, rfl, .nil⟩
  | distinct s t =>
    have hkeys : ∀ table, RespectsKeys (assertion.options.filter table) := by
      intro table c d _
      rw [hfilter]
      rfl
    have hs : s.HasRows n := hexpected
    have ht : t.HasRows m := hactual
    have hsame : t.name = s.name := hname
    have hrefusals : assertion.options.rowCount = .strict ∧ ¬ BothCounted t s ↔
        assertion.options.rowCount = .strict ∧ ¬ BothCounted s t :=
      and_congr_right fun _ => not_congr and_comm
    have hfound := assertion.collectTables_of_hasRows hs ht (hkeys s.name)
    have hmirrored := assertion.collectTables_of_hasRows ht hs (hkeys t.name)
    rw [hfilter] at hfound hmirrored
    rw [hsame] at hmirrored
    by_cases hrefused : assertion.options.rowCount = .strict ∧ ¬ BothCounted s t
    · rw [if_pos hrefused] at hfound
      rw [if_pos (hrefusals.mpr hrefused)] at hmirrored
      exact Or.inl ⟨_, hfound, hmirrored⟩
    · rw [if_neg hrefused] at hfound
      rw [if_neg (mt hrefusals.mp hrefused)] at hmirrored
      have hmirrors := lenientDifferences_swap hs ht hsame (hequality s.name)
        assertion.options.additional
      exact Or.inr ⟨_, _, hfound, hmirrored, hmirrors.imp fun d d' h => ⟨h, h.texts⟩⟩

/-- One table announces its two rows, and the other one has a row more. Their columns are written
in another order and in another case. -/
theorem collectTables_swap_one_counted :
    let s := (MemoryTable.ofCells ["A", "b"] ["1", "2"]).toTable
    let t := uncountedTable ["B", "a"] ["1", "3", "4"]
    s.HasRows 2 ∧ t.HasRows 3 ∧ t.name = s.name ∧
    (∀ table column, (Assertion.default.comparators.source table).select column = .equality) ∧
    ((∃ error, Assertion.default.collectTables (.distinct s t) = .error error ∧
        Assertion.default.collectTables (.distinct t s) = .error error) ∨
      ∃ found mirrored : List Difference,
        Assertion.default.collectTables (.distinct s t) = .ok (found.map Difference.toFailure) ∧
        Assertion.default.collectTables (.distinct t s) =
          .ok (mirrored.map Difference.toFailure) ∧
        List.Forall₂ (fun d d' => d.Mirrors d' ∧ d'.toFailure.expected = d.toFailure.actual ∧
          d'.toFailure.actual = d.toFailure.expected) found mirrored) := by
  intro s t
  have hs : s.HasRows 2 := (MemoryTable.ofCells ["A", "b"] ["1", "2"]).toTable_readsAs.hasRows
  have ht : t.HasRows 3 := uncountedTable_hasRows ["B", "a"] ["1", "3", "4"]
  have hequality : ∀ table column,
      (Assertion.default.comparators.source table).select column = .equality := fun _ _ => rfl
  exact ⟨hs, ht, rfl, hequality,
    collectTables_swap .default (.distinct s t) hs ht rfl hequality rfl⟩

end TableDiff
