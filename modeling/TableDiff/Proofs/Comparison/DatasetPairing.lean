import TableDiff.Proofs.Comparison.Agreement
import TableDiff.Proofs.Comparison.Datasets
import TableDiff.Proofs.Value.Rank

/-!
# Datasets that compare equal

A comparison of datasets finds nothing if the keys of their tables are the same and each expected
table compares equal with the first table of its key in the other dataset. Where no key comes twice
among those, this pairs the tables of the two datasets. A later table of a key is not looked at, so
nothing is known of it.
-/

namespace TableDiff

/-- The tables of two datasets can be paired one to one so that each pair is related. -/
def MemoryDataset.Paired (related : MemoryTable → MemoryTable → Prop) (e d : MemoryDataset) :
    Prop :=
  ∃ ds, List.Forall₂ related e.tables ds ∧ ds.Perm d.tables

/-- A table of a dataset is the first one of its key. -/
def MemoryDataset.IsFirst (d : MemoryDataset) (caseSensitive : Bool) (t : MemoryTable) : Prop :=
  d.tables.find? (·.tableKey caseSensitive == t.tableKey caseSensitive) = some t

variable {assertion : Assertion} {e d : MemoryDataset}

/-! ## Comparisons without failures -/

theorem nameDifferences_eq_nil_iff {caseSensitive : Bool} {es ds : List MemoryTable} :
    nameDifferences caseSensitive es ds = [] ↔
      es.map (·.tableKey caseSensitive) = ds.map (·.tableKey caseSensitive) := by
  unfold nameDifferences
  constructor
  · intro h
    by_contra hkeys
    simp [hkeys] at h
  · intro hkeys
    have hlength : es.length = ds.length := by simpa using congrArg List.length hkeys
    simp [hkeys, hlength]

/-- Nothing is found exactly if the keys are the same and each expected table compares equal with
the first one of its key. -/
theorem collectDatasets_eq_nil_iff :
    assertion.collectDatasets (.distinct e.toDataset d.toDataset) = .ok [] ↔
      (e.tables.map (·.tableKey assertion.options.caseSensitiveTables)).Perm
        (d.tables.map (·.tableKey assertion.options.caseSensitiveTables)) ∧
      ∀ t ∈ e.tables, ∀ u, d.tables.find? (·.tableKey assertion.options.caseSensitiveTables ==
          t.tableKey assertion.options.caseSensitiveTables) = some u →
        assertion.collectTables (.distinct t.toTable u.toTable) = .ok [] := by
  have hfindings : (assertion.compareDatasets (.distinct e.toDataset d.toDataset) :
      Findings Unit) = _ := compareDatasets_eq assertion.comparators.source assertion.options
  have htables : ∀ t u : MemoryTable,
      assertion.collectTables (.distinct t.toTable u.toTable) = .ok [] ↔
        tableDifferences (assertion.comparators.source t.name) assertion.options t u = [] := by
    intro t u
    have hfound : (assertion.compareTables (.distinct t.toTable u.toTable) : Findings Unit) = _ :=
      compareTable_eq t u (assertion.comparators.source t.name) assertion.options
    rw [Assertion.collectTables_of_findings hfound, Except.ok.injEq, List.map_eq_nil_iff]
  rw [Assertion.collectDatasets_of_findings hfindings, Except.ok.injEq, List.map_eq_nil_iff,
    List.append_eq_nil_iff, nameDifferences_eq_nil_iff, List.flatMap_eq_nil_iff]
  refine and_congr map_key_mergeSort_eq_iff ?_
  have hmem : ∀ t, t ∈ e.sortedTables assertion.options.caseSensitiveTables ↔ t ∈ e.tables :=
    fun t => (List.mergeSort_perm e.tables _).mem_iff
  simp only [hmem, htables]
  refine forall₂_congr fun t _ => ?_
  unfold partnerDifferences
  split
  · rename_i u hu
    simp [hu]
  · rename_i hnone
    simp [hnone]

/-! ## Pairing tables by keys -/

theorem nameKey_eq_of_tableKey_eq {caseSensitive : Bool} {a b : String}
    (h : tableKey caseSensitive a = tableKey caseSensitive b) : nameKey a = nameKey b := by
  cases caseSensitive with
  | true => exact congrArg nameKey h
  | false => exact h

namespace MemoryDataset

variable {caseSensitive : Bool} {related other : MemoryTable → MemoryTable → Prop}

/-- Keys are not repeated if they are the names, or if the dataset itself tells names apart by their
keys only. -/
theorem nodup_tableKey (h : caseSensitive = true ∨ d.caseSensitive = false) :
    (d.tables.map (·.tableKey caseSensitive)).Nodup := by
  refine List.pairwise_map.mpr ((List.pairwise_map.mp d.nodup_keys).imp fun hne hkey => hne ?_)
  rcases h with rfl | hmode
  · exact congrArg (TableDiff.tableKey d.caseSensitive) hkey
  · rw [hmode]
    exact nameKey_eq_of_tableKey_eq hkey

theorem isFirst_of_nodup (hnodup : (d.tables.map (·.tableKey caseSensitive)).Nodup)
    {t : MemoryTable} (ht : t ∈ d.tables) : d.IsFirst caseSensitive t :=
  find?_key_of_nodup hnodup ht

theorem Paired.imp_of_mem (h : Paired related e d)
    (himp : ∀ t ∈ e.tables, ∀ u ∈ d.tables, related t u → other t u) : Paired other e d := by
  obtain ⟨ds, hpairs, hperm⟩ := h
  obtain ⟨hlength, hzip⟩ := List.forall₂_iff_zip.mp hpairs
  refine ⟨ds, List.forall₂_iff_zip.mpr ⟨hlength, fun {t u} hmem => ?_⟩, hperm⟩
  obtain ⟨ht, hu⟩ := List.of_mem_zip hmem
  exact himp t ht u (hperm.mem_iff.mp hu) (hzip hmem)

/-- Each table of the other dataset has a partner. -/
theorem Paired.exists_left (h : Paired related e d) {u : MemoryTable} (hu : u ∈ d.tables) :
    ∃ t ∈ e.tables, related t u := by
  obtain ⟨ds, hpairs, hperm⟩ := h
  obtain ⟨i, hi, rfl⟩ := List.getElem_of_mem (hperm.mem_iff.mpr hu)
  have hi' : i < e.tables.length := hpairs.length_eq ▸ hi
  exact ⟨e.tables[i], List.getElem_mem hi', hpairs.get hi' hi⟩

/-- Datasets whose tables have the same keys can be paired by key. -/
theorem paired_of_keys_perm
    (h : (e.tables.map (·.tableKey caseSensitive)).Perm
      (d.tables.map (·.tableKey caseSensitive))) :
    Paired (fun t u => t.tableKey caseSensitive = u.tableKey caseSensitive) e d := by
  have hkeys : List.Forall₂ (fun key (u : MemoryTable) => key = u.tableKey caseSensitive)
      (d.tables.map (·.tableKey caseSensitive)) d.tables :=
    List.forall₂_map_left_iff.mpr (List.forall₂_same.mpr fun _ _ => rfl)
  obtain ⟨ds, hpairs, hperm⟩ := List.perm_comp_forall₂ h hkeys
  exact ⟨ds, List.forall₂_map_left_iff.mp hpairs, hperm⟩

end MemoryDataset

/-! ## Datasets of single texts -/

/-- A table with one row of one text. -/
def MemoryTable.ofText (name text : String) : MemoryTable :=
  ⟨name, [.untyped "A"], #[[some (.text text)]], by simp⟩

/-- Such tables compare equal exactly if they have the same text. -/
theorem collectTables_ofText_iff (name other text given : String) :
    Assertion.default.collectTables (.distinct (MemoryTable.ofText name text).toTable
        (MemoryTable.ofText other given).toTable) = .ok [] ↔ text = given := by
  have hcell : ∀ name text, (MemoryTable.ofText name text).cellOf 0 (Column.untyped "A").key =
      some (.text text) := by
    intro name text
    simp [MemoryTable.ofText, MemoryTable.cellOf]
  have haccepts : Comparator.equality.accepts .unknown (some (.text text)) (some (.text given)) =
      true ↔ text = given := by
    have hkind : ∀ s, Cell.IsOf .string (some (.text s)) := fun s => Cell.isOf_some.mpr rfl
    rw [equality_accepts_iff (Or.inl rfl) (hkind text) (hkind given),
      ← Cell.order?_eq_eq_iff (hkind text) (hkind given)]
    exact (Option.some_inj.trans compare_eq_iff_eq).trans eq_comm
  rw [collectTables_same_columns_iff (MemoryTable.ofText name text).toTable_readsAs
    (MemoryTable.ofText other given).toTable_readsAs rfl rfl, ← haccepts]
  constructor
  · intro hall
    have haccepted := hall 0 Nat.zero_lt_one (.untyped "A") List.mem_cons_self
    rwa [hcell, hcell] at haccepted
  · intro haccepted row hrow c hc
    obtain rfl : row = 0 := Nat.lt_one_iff.mp hrow
    obtain rfl : c = .untyped "A" := List.mem_singleton.mp hc
    rwa [hcell, hcell]

/-- Two such tables whose names differ in case, in a dataset that tells them apart. -/
def MemoryDataset.ofTexts (first second : String) : MemoryDataset :=
  .ofTables true [.ofText "t" first, .ofText "T" second]
    (by simp [MemoryTable.tableKey, tableKey, MemoryTable.ofText])

/-- Compared without regard to case, both expected tables meet the first actual one, whatever is in
the second. -/
theorem collectDatasets_ofTexts_eq_nil (text other : String) :
    Assertion.default.collectDatasets (.distinct (MemoryDataset.ofTexts text text).toDataset
      (MemoryDataset.ofTexts text other).toDataset) = .ok [] := by
  refine collectDatasets_eq_nil_iff.mpr ⟨List.Perm.refl _, fun t ht u hu => ?_⟩
  have hkey : (MemoryTable.ofText "t" text).tableKey false = t.tableKey false := by
    rcases List.mem_pair.mp ht with rfl | rfl
    · rfl
    · exact (by decide : nameKey "t" = nameKey "T")
  have hfirst : (MemoryDataset.ofTexts text other).tables.find?
      (·.tableKey false == t.tableKey false) = some (.ofText "t" text) :=
    List.find?_cons_of_pos (beq_iff_eq.mpr hkey)
  obtain rfl : MemoryTable.ofText "t" text = u := Option.some.inj (hfirst.symm.trans hu)
  rcases List.mem_pair.mp ht with rfl | rfl
  · exact (collectTables_ofText_iff ..).mpr rfl
  · exact (collectTables_ofText_iff ..).mpr rfl

/-! ## Passing comparisons -/

namespace Assertion

/-- Two tables have the same name up to case and compare equal. -/
def Matches (a : Assertion) (t u : MemoryTable) : Prop :=
  nameKey t.name = nameKey u.name ∧ a.collectTables (.distinct t.toTable u.toTable) = .ok []

/-- Two tables have the same key, and they compare equal unless the second one is the first of its
key in its dataset. -/
def MatchesLater (a : Assertion) (d : MemoryDataset) (t u : MemoryTable) : Prop :=
  t.tableKey a.options.caseSensitiveTables = u.tableKey a.options.caseSensitiveTables ∧
  (¬ d.IsFirst a.options.caseSensitiveTables u →
    a.collectTables (.distinct t.toTable u.toTable) = .ok [])

end Assertion

/-- Of a dataset comparison that finds nothing: the tables can be paired so that each pair matches,
if no two actual tables have one key; and in any case exactly if they can be paired so that the
pairs of the actual tables behind the first of their key match. -/
theorem paired_of_collectDatasets_eq_nil
    (h : assertion.collectDatasets (.distinct e.toDataset d.toDataset) = .ok []) :
    ((d.tables.map (·.tableKey assertion.options.caseSensitiveTables)).Nodup →
      MemoryDataset.Paired assertion.Matches e d) ∧
    (MemoryDataset.Paired assertion.Matches e d ↔
      MemoryDataset.Paired (assertion.MatchesLater d) e d) := by
  obtain ⟨hkeys, hequal⟩ := collectDatasets_eq_nil_iff.mp h
  -- The first table of a key is the one that was compared.
  have hfirst : MemoryDataset.Paired (assertion.MatchesLater d) e d →
      MemoryDataset.Paired assertion.Matches e d := by
    refine fun hpaired => hpaired.imp_of_mem fun t ht u _ ⟨hkey, hlater⟩ =>
      ⟨nameKey_eq_of_tableKey_eq hkey, ?_⟩
    by_cases hu : d.IsFirst assertion.options.caseSensitiveTables u
    · exact hequal t ht u (hkey ▸ hu)
    · exact hlater hu
  have hdistinct : (d.tables.map (·.tableKey assertion.options.caseSensitiveTables)).Nodup →
      MemoryDataset.Paired (assertion.MatchesLater d) e d := fun hnodup =>
    (MemoryDataset.paired_of_keys_perm hkeys).imp_of_mem fun t _ u hu hkey =>
      ⟨hkey, fun hnot => absurd (MemoryDataset.isFirst_of_nodup hnodup hu) hnot⟩
  refine ⟨fun hnodup => hfirst (hdistinct hnodup), fun hpaired => ?_, hfirst⟩
  cases hmode : assertion.options.caseSensitiveTables with
  | true => exact hdistinct (MemoryDataset.nodup_tableKey (Or.inl hmode))
  | false =>
    refine hpaired.imp_of_mem fun t _ u _ hmatch => ⟨?_, fun _ => hmatch.2⟩
    rw [hmode]
    exact hmatch.1

/-- A second actual table of one key may differ from both expected ones. -/
theorem collectDatasets_eq_nil_unseen :
    Assertion.default.collectDatasets (.distinct (MemoryDataset.ofTexts "1" "1").toDataset
        (MemoryDataset.ofTexts "1" "2").toDataset) = .ok [] ∧
      ¬ MemoryDataset.Paired Assertion.default.Matches (.ofTexts "1" "1") (.ofTexts "1" "2") := by
  refine ⟨collectDatasets_ofTexts_eq_nil "1" "2", fun hpaired => ?_⟩
  have hsecond : MemoryTable.ofText "T" "2" ∈ (MemoryDataset.ofTexts "1" "2").tables :=
    List.mem_cons_of_mem _ List.mem_cons_self
  obtain ⟨t, ht, -, hequal⟩ := hpaired.exists_left hsecond
  rcases List.mem_pair.mp ht with rfl | rfl
  · exact absurd ((collectTables_ofText_iff ..).mp hequal) (by decide)
  · exact absurd ((collectTables_ofText_iff ..).mp hequal) (by decide)

/-- If it does not differ, the tables can be paired. -/
theorem paired_of_collectDatasets_eq_nil_same :
    Assertion.default.collectDatasets (.distinct (MemoryDataset.ofTexts "1" "1").toDataset
        (MemoryDataset.ofTexts "1" "1").toDataset) = .ok [] ∧
      MemoryDataset.Paired Assertion.default.Matches (.ofTexts "1" "1") (.ofTexts "1" "1") := by
  have hpass := collectDatasets_ofTexts_eq_nil "1" "1"
  refine ⟨hpass, (paired_of_collectDatasets_eq_nil hpass).2.mpr ?_⟩
  refine ⟨_, List.forall₂_same.mpr fun t ht => ⟨rfl, fun _ => ?_⟩, List.Perm.refl _⟩
  rcases List.mem_pair.mp ht with rfl | rfl
  · exact (collectTables_ofText_iff ..).mpr rfl
  · exact (collectTables_ofText_iff ..).mpr rfl

end TableDiff
