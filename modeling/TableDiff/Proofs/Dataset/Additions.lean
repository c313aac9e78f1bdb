import TableDiff.Dataset
import TableDiff.Proofs.KeyOrder

/-!
# Datasets in memory

A dataset finds its tables by the places of their keys, which its index has for it. Each addition
puts one more table at the end of the list and its place into the index, or is refused, if the key
has a place already, and changes neither. So the index fits the list after any run of additions, the
dataset holds the first table of each key, and finds it by every name of the key.
-/

namespace TableDiff

/-! ## First elements -/

section FirstOfEachKey

variable {α : Type} {key : α → String}

/-- The first element of each key. -/
def firstOfEachKey (key : α → String) : List α → List α
  | [] => []
  | x :: xs => x :: (firstOfEachKey key xs).filter fun y => key y ≠ key x

/-- One more element counts if no element before it has its key. -/
theorem firstOfEachKey_concat (xs : List α) (x : α) :
    firstOfEachKey key (xs ++ [x]) =
      firstOfEachKey key xs ++ if key x ∈ xs.map key then [] else [x] := by
  induction xs with
  | nil => rfl
  | cons y xs ih =>
    rw [List.cons_append, firstOfEachKey, ih, firstOfEachKey, List.filter_append, List.map_cons,
      List.cons_append]
    by_cases hxs : key x ∈ xs.map key
    · rw [if_pos hxs, if_pos (List.mem_cons_of_mem _ hxs), List.filter_nil]
    · rw [if_neg hxs]
      by_cases hy : key x = key y
      · rw [if_pos (hy ▸ List.mem_cons_self), List.filter_cons_of_neg (by simpa using hy),
          List.filter_nil]
      · have hnew : key x ∉ key y :: xs.map key := List.not_mem_cons_of_ne_of_not_mem hy hxs
        rw [if_neg hnew, List.filter_cons_of_pos (by simpa using hy), List.filter_nil]

/-- No key is lost. -/
theorem mem_keys_firstOfEachKey {k : String} {xs : List α} :
    k ∈ (firstOfEachKey key xs).map key ↔ k ∈ xs.map key := by
  induction xs with
  | nil => rfl
  | cons x xs ih =>
    rw [firstOfEachKey, List.map_cons, List.map_cons, List.mem_cons, List.mem_cons, ← ih]
    by_cases hx : k = key x
    · simp [hx]
    · -- Elements of another key than the first one are kept.
      simp only [hx, false_or, List.mem_map, List.mem_filter, decide_eq_true_eq]
      exact exists_congr fun y => ⟨fun h => ⟨h.1.1, h.2⟩, fun h => ⟨⟨h.1, h.2 ▸ hx⟩, h.2⟩⟩

end FirstOfEachKey

/-- Where no key comes twice, a key finds each pair that has it. -/
theorem lookup_eq_some_iff_mem {α : Type} {k : String} {x : α} {pairs : List (String × α)}
    (hnodup : (pairs.map (·.1)).Nodup) : pairs.lookup k = some x ↔ (k, x) ∈ pairs := by
  induction pairs with
  | nil => simp
  | cons p pairs ih =>
    rw [List.map_cons, List.nodup_cons] at hnodup
    rw [List.lookup_cons, List.mem_cons]
    by_cases hk : k = p.1
    · have hnew : (k, x) ∉ pairs := fun hmem => hnodup.1 (hk ▸ List.mem_map_of_mem hmem)
      rw [beq_iff_eq.mpr hk, or_iff_left hnew, Prod.ext_iff, and_iff_right hk, Option.some.injEq,
        eq_comm]
    · have hne : (k, x) ≠ p := fun h => hk (congrArg Prod.fst h)
      rw [beq_eq_false_iff_ne.mpr hk, or_iff_right hne]
      exact ih hnodup.2

namespace TableStore

variable {s : TableStore} {t : MemoryTable} {ts : List MemoryTable} {key name : String}

/-! ## Lookups -/

theorem Consistent.lookup_eq_none_iff (h : s.Consistent) :
    s.index.lookup key = none ↔ ∀ t ∈ s.tables, t.tableKey s.caseSensitive ≠ key := by
  rw [Option.eq_none_iff_forall_ne_some]
  constructor
  · intro hnone t ht hkey
    obtain ⟨i, hi⟩ := List.mem_iff_getElem?.mp ht
    exact hnone i ((h key i).mpr ⟨t, hi, hkey⟩)
  · intro hnew i hi
    obtain ⟨t, ht, hkey⟩ := (h key i).mp hi
    exact hnew t (List.mem_of_getElem? ht) hkey

/-- One key has one place, so no two tables share it. -/
theorem Consistent.nodup_keys (h : s.Consistent) :
    (s.tables.map (·.tableKey s.caseSensitive)).Nodup := by
  rw [List.nodup_iff_getElem?_ne_getElem?]
  intro i j hij hj heq
  rw [List.length_map] at hj
  rw [List.getElem?_map, List.getElem?_map, List.getElem?_eq_getElem (hij.trans hj),
    List.getElem?_eq_getElem hj, Option.map_some, Option.map_some, Option.some.injEq] at heq
  have hi := (h _ i).mpr ⟨_, List.getElem?_eq_getElem (hij.trans hj), heq⟩
  have hj := (h _ j).mpr ⟨_, List.getElem?_eq_getElem hj, rfl⟩
  exact hij.ne (Option.some.inj (hi.symm.trans hj))

theorem Consistent.find?_eq_some_iff (h : s.Consistent) :
    s.find? name = some t ↔
      t ∈ s.tables ∧ t.tableKey s.caseSensitive = TableDiff.tableKey s.caseSensitive name := by
  unfold find?
  rw [Option.bind_eq_some_iff]
  constructor
  · rintro ⟨i, hi, ht⟩
    obtain ⟨u, hu, hkey⟩ := (h _ i).mp hi
    obtain rfl : u = t := Option.some.inj (hu.symm.trans ht)
    exact ⟨List.mem_of_getElem? hu, hkey⟩
  · rintro ⟨ht, hkey⟩
    obtain ⟨i, hi⟩ := List.mem_iff_getElem?.mp ht
    exact ⟨i, (h _ i).mpr ⟨t, hi, hkey⟩, hi⟩

/-- A name finds the one table of its key. -/
theorem Consistent.table_eq_ok_iff (h : s.Consistent) :
    s.table name = .ok t ↔
      t ∈ s.tables ∧ t.tableKey s.caseSensitive = TableDiff.tableKey s.caseSensitive name := by
  rw [← h.find?_eq_some_iff]
  unfold table
  cases s.find? name <;> simp

/-- Any other name finds nothing. -/
theorem Consistent.table_eq_error_iff (h : s.Consistent) {error : CheckError} :
    s.table name = .error error ↔ error = .noSuchTable name ∧
      ∀ t ∈ s.tables, t.tableKey s.caseSensitive ≠ TableDiff.tableKey s.caseSensitive name := by
  have hnone : (∀ t ∈ s.tables,
      t.tableKey s.caseSensitive ≠ TableDiff.tableKey s.caseSensitive name) ↔
      s.find? name = none := by
    rw [Option.eq_none_iff_forall_ne_some]
    exact ⟨fun hne t ht => hne t (h.find?_eq_some_iff.mp ht).1 (h.find?_eq_some_iff.mp ht).2,
      fun hne t ht hkey => hne t (h.find?_eq_some_iff.mpr ⟨ht, hkey⟩)⟩
  rw [hnone]
  unfold table
  cases s.find? name <;> simp [eq_comm]

/-! ## One addition -/

/-- A table of a new key comes last, and its key gets the place after the others. -/
theorem Consistent.addTable_of_new (h : s.Consistent)
    (hnew : ∀ u ∈ s.tables, u.tableKey s.caseSensitive ≠ t.tableKey s.caseSensitive) :
    s.addTable t = ({ s with
      tables := s.tables ++ [t]
      index := (t.tableKey s.caseSensitive, s.tables.length) :: s.index }, .ok ()) := by
  have hlookup : s.index.lookup (TableDiff.tableKey s.caseSensitive t.name) = none :=
    h.lookup_eq_none_iff.mpr hnew
  unfold TableStore.addTable
  simp only [hlookup]
  rfl

/-- A table of a key that the store has is refused by its name, and nothing changes. -/
theorem Consistent.addTable_of_taken (h : s.Consistent)
    (htaken : ∃ u ∈ s.tables, u.tableKey s.caseSensitive = t.tableKey s.caseSensitive) :
    s.addTable t = (s, .error (.config (.duplicateTable t.name))) := by
  obtain ⟨u, hu, hkey⟩ := htaken
  obtain ⟨i, hi⟩ := List.mem_iff_getElem?.mp hu
  have hlookup : s.index.lookup (TableDiff.tableKey s.caseSensitive t.name) = some i :=
    (h _ i).mpr ⟨u, hi, hkey⟩
  unfold TableStore.addTable
  simp only [hlookup]

/-- An addition fails for one reason only. -/
theorem Consistent.addTable_eq_error_iff (h : s.Consistent) {error : CheckError} :
    (s.addTable t).2 = .error error ↔ error = .config (.duplicateTable t.name) ∧
      ∃ u ∈ s.tables, u.tableKey s.caseSensitive = t.tableKey s.caseSensitive := by
  by_cases htaken : ∃ u ∈ s.tables, u.tableKey s.caseSensitive = t.tableKey s.caseSensitive
  · rw [h.addTable_of_taken htaken, and_iff_left htaken, Except.error.injEq, eq_comm]
  · rw [h.addTable_of_new fun u hu hkey => htaken ⟨u, hu, hkey⟩]
    simp [htaken]

/-! ## Runs of additions -/

/-- The store after an addition of each of the tables in turn, refused ones included. -/
def addAll (s : TableStore) (ts : List MemoryTable) : TableStore :=
  ts.foldl (fun s t => (s.addTable t).1) s

theorem addAll_concat : s.addAll (ts ++ [t]) = ((s.addAll ts).addTable t).1 :=
  List.foldl_concat ..

/-- No run of additions takes the index out of step with the list. -/
theorem Consistent.addAll (h : s.Consistent) (ts : List MemoryTable) :
    (s.addAll ts).Consistent := by
  induction ts generalizing s with
  | nil => exact h
  | cons t ts ih => exact ih (h.addTable t)

/-- An addition keeps it that a store holds the first table of each key. -/
theorem Consistent.addTable_holds_first (h : s.Consistent) {caseSensitive : Bool}
    (hmode : s.caseSensitive = caseSensitive)
    (hs : s.tables = firstOfEachKey (·.tableKey caseSensitive) ts) :
    (s.addTable t).1.caseSensitive = caseSensitive ∧
      (s.addTable t).1.tables = firstOfEachKey (·.tableKey caseSensitive) (ts ++ [t]) := by
  subst hmode
  have hkeys : (∃ u ∈ s.tables, u.tableKey s.caseSensitive = t.tableKey s.caseSensitive) ↔
      t.tableKey s.caseSensitive ∈ ts.map (·.tableKey s.caseSensitive) := by
    rw [← mem_keys_firstOfEachKey, ← hs, List.mem_map]
  rw [firstOfEachKey_concat, ← hs]
  by_cases htaken : ∃ u ∈ s.tables, u.tableKey s.caseSensitive = t.tableKey s.caseSensitive
  · rw [h.addTable_of_taken htaken, if_pos (hkeys.mp htaken), List.append_nil]
    exact ⟨rfl, rfl⟩
  · rw [h.addTable_of_new fun u hu hkey => htaken ⟨u, hu, hkey⟩,
      if_neg fun hmem => htaken (hkeys.mpr hmem)]
    exact ⟨rfl, rfl⟩

/-- A run of additions to an empty store leaves the first table of each key. -/
theorem addAll_empty_holds_first (caseSensitive : Bool) (ts : List MemoryTable) :
    ((empty caseSensitive).addAll ts).caseSensitive = caseSensitive ∧
      ((empty caseSensitive).addAll ts).tables =
        firstOfEachKey (·.tableKey caseSensitive) ts := by
  induction ts using List.reverseRecOn with
  | nil => exact ⟨rfl, rfl⟩
  | append_singleton ts t ih =>
    rw [addAll_concat]
    exact ((consistent_empty caseSensitive).addAll ts).addTable_holds_first ih.1 ih.2

/-- After any additions to an empty store its index fits its list, which has the first table of each
key, in the order of the additions. The next addition fails exactly if the key is taken, and then it
leaves the store as it is; otherwise the table and its place are added. A name finds the one table
of its key, and nothing if there is none; each table has its own name. -/
theorem addAll_consistent (caseSensitive : Bool) (ts : List MemoryTable) :
    let s := (empty caseSensitive).addAll ts
    s.Consistent ∧
    (s.caseSensitive = caseSensitive ∧
      s.tables = firstOfEachKey (·.tableKey caseSensitive) ts) ∧
    (∀ t error, (s.addTable t).2 = .error error ↔ error = .config (.duplicateTable t.name) ∧
      ∃ u ∈ s.tables, u.tableKey caseSensitive = t.tableKey caseSensitive) ∧
    (∀ t error, (s.addTable t).2 = .error error → (s.addTable t).1 = s) ∧
    (∀ t, (s.addTable t).2 = .ok () → (s.addTable t).1 = { s with
      tables := s.tables ++ [t]
      index := (t.tableKey caseSensitive, s.tables.length) :: s.index }) ∧
    (∀ t, (empty caseSensitive).addAll (ts ++ [t]) = (s.addTable t).1) ∧
    (∀ name t, s.table name = .ok t ↔
      t ∈ s.tables ∧ t.tableKey caseSensitive = TableDiff.tableKey caseSensitive name) ∧
    (∀ name error, s.table name = .error error ↔ error = .noSuchTable name ∧
      ∀ t ∈ s.tables, t.tableKey caseSensitive ≠ TableDiff.tableKey caseSensitive name) ∧
    s.tableNames = s.tables.map (·.name) ∧ s.tableNames.Nodup ∧
    ∀ t ∈ s.tables, s.table t.name = .ok t := by
  intro s
  have h : s.Consistent := (consistent_empty caseSensitive).addAll ts
  obtain ⟨hcase, htables⟩ := addAll_empty_holds_first caseSensitive ts
  refine ⟨h, ⟨hcase, htables⟩, ?refused, ?kept, ?accepted, fun _ => addAll_concat, ?found,
    ?missing, rfl, ?once, ?own⟩
  case refused =>
    intro t error
    rw [h.addTable_eq_error_iff, hcase]
  case kept =>
    intro t error herror
    rw [h.addTable_of_taken (h.addTable_eq_error_iff.mp herror).2]
  case accepted =>
    intro t hok
    have hnew : ∀ u ∈ s.tables, u.tableKey s.caseSensitive ≠ t.tableKey s.caseSensitive := by
      intro u hu hkey
      rw [h.addTable_of_taken ⟨u, hu, hkey⟩] at hok
      cases hok
    rw [h.addTable_of_new hnew, hcase]
  case found =>
    intro name t
    rw [h.table_eq_ok_iff, hcase]
  case missing =>
    intro name error
    rw [h.table_eq_error_iff, hcase]
  case once =>
    -- One key cannot belong to two names, so one name does not come twice.
    refine List.Nodup.of_map (TableDiff.tableKey s.caseSensitive) ?_
    unfold tableNames
    rw [List.map_map]
    exact h.nodup_keys
  case own =>
    intro t ht
    exact h.table_eq_ok_iff.mpr ⟨ht, rfl⟩

/-! ## Tables at once -/

/-- The store of these tables, each in its place. -/
def ofTables (caseSensitive : Bool) (tables : List MemoryTable) : TableStore where
  caseSensitive := caseSensitive
  tables := tables
  index := tables.zipIdx.map fun p => (p.1.tableKey caseSensitive, p.2)

theorem consistent_ofTables {caseSensitive : Bool}
    (distinct : (ts.map (·.tableKey caseSensitive)).Nodup) :
    (ofTables caseSensitive ts).Consistent := by
  intro key i
  have hkeys : (ofTables caseSensitive ts).index.map (·.1) =
      ts.map (·.tableKey caseSensitive) := by
    conv_rhs => rw [← List.zipIdx_map_fst 0 ts, List.map_map]
    unfold ofTables
    rw [List.map_map]
    rfl
  rw [lookup_eq_some_iff_mem (hkeys ▸ distinct)]
  unfold ofTables
  rw [List.mem_map]
  constructor
  · rintro ⟨⟨t, j⟩, hmem, heq⟩
    obtain ⟨rfl, rfl⟩ := Prod.mk.inj heq
    exact ⟨t, List.mk_mem_zipIdx_iff_getElem?.mp hmem, rfl⟩
  · rintro ⟨t, ht, rfl⟩
    exact ⟨(t, i), List.mk_mem_zipIdx_iff_getElem?.mpr ht, rfl⟩

end TableStore

/-! ## Datasets -/

namespace MemoryDataset

variable {d : MemoryDataset} {t : MemoryTable} {name : String}

theorem nodup_keys (d : MemoryDataset) : (d.tables.map (·.tableKey d.caseSensitive)).Nodup :=
  d.consistent.nodup_keys

theorem table_eq_ok_iff :
    d.table name = .ok t ↔
      t ∈ d.tables ∧ t.tableKey d.caseSensitive = TableDiff.tableKey d.caseSensitive name :=
  d.consistent.table_eq_ok_iff

/-- A dataset grows as its list and its index do. -/
theorem add_eq_ok_iff {e : MemoryDataset} :
    d.add t = .ok e ↔ d.toTableStore.addTable t = (e.toTableStore, .ok ()) := by
  unfold add
  split
  · rename_i hok
    obtain ⟨s, hs⟩ := e
    rw [Except.ok.injEq, mk.injEq, Prod.ext_iff, hok]
    exact (and_iff_left rfl).symm
  · rename_i herror
    rw [Prod.ext_iff, herror]
    simp

theorem add_of_new
    (hnew : ∀ u ∈ d.tables, u.tableKey d.caseSensitive ≠ t.tableKey d.caseSensitive) :
    ∃ e, d.add t = .ok e ∧ e.caseSensitive = d.caseSensitive ∧ e.tables = d.tables ++ [t] := by
  have hadd := d.consistent.addTable_of_new hnew
  have hconsistent := d.consistent.addTable t
  rw [hadd] at hconsistent
  exact ⟨⟨_, hconsistent⟩, add_eq_ok_iff.mpr hadd, rfl, rfl⟩

/-- The dataset of these tables, of which no two have one key. -/
def ofTables (caseSensitive : Bool) (tables : List MemoryTable)
    (distinct : (tables.map (·.tableKey caseSensitive)).Nodup) : MemoryDataset :=
  ⟨.ofTables caseSensitive tables, TableStore.consistent_ofTables distinct⟩

@[simp] theorem tables_ofTables {caseSensitive : Bool} {tables : List MemoryTable}
    (distinct : (tables.map (·.tableKey caseSensitive)).Nodup) :
    (ofTables caseSensitive tables distinct).tables = tables := rfl

end MemoryDataset

end TableDiff
