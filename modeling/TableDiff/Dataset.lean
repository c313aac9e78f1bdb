import TableDiff.Table.Memory

/-!
# Datasets

A dataset is a collection of tables that are looked up by name. A dataset in memory keeps its tables
in a list, and beside the list an index with the place of each table under the key of its name. An
addition goes into both or, if its key is in the index already, into neither.
-/

namespace TableDiff

/-- A source of tables. -/
structure Dataset where
  tableNames : List String
  table : String → Except CheckError Table

/-- The key of a table name: the name itself where case counts. -/
def tableKey (caseSensitive : Bool) (name : String) : String :=
  if caseSensitive then name else nameKey name

/-- The key of the name of a table. -/
def MemoryTable.tableKey (caseSensitive : Bool) (t : MemoryTable) : String :=
  TableDiff.tableKey caseSensitive t.name

/-! ## Tables and their places -/

/-- An element of a list with one more at its end is one of the list, or that one. -/
theorem getElem?_concat_eq_some_iff {α : Type} {xs : List α} {x y : α} {i : Nat} :
    (xs ++ [x])[i]? = some y ↔ xs[i]? = some y ∨ i = xs.length ∧ x = y := by
  rcases Nat.lt_trichotomy i xs.length with h | h | h
  · rw [List.getElem?_append_left h, or_iff_left fun hlast => Nat.ne_of_lt h hlast.1]
  · subst h
    simp
  · rw [List.getElem?_append_right (Nat.le_of_lt h), List.getElem?_eq_none (Nat.le_of_lt h),
      List.getElem?_eq_none (Nat.sub_pos_of_lt h)]
    simp [Nat.ne_of_gt h]

/-- Tables, and places in their list by key. -/
structure TableStore where
  caseSensitive : Bool
  tables : List MemoryTable
  index : List (String × Nat)

namespace TableStore

/-- A store without tables. -/
def empty (caseSensitive : Bool) : TableStore := ⟨caseSensitive, [], []⟩

/-- The table that a name finds: the one at the place of its key. -/
def find? (s : TableStore) (name : String) : Option MemoryTable :=
  (s.index.lookup (tableKey s.caseSensitive name)).bind (s.tables[·]?)

/-- The table that a name finds. -/
def table (s : TableStore) (name : String) : Except CheckError MemoryTable :=
  match s.find? name with
  | some t => .ok t
  | none => .error (.noSuchTable name)

def tableNames (s : TableStore) : List String := s.tables.map (·.name)

/-- Puts a table at the end of the list and its place into the index. A table whose key has a place
already is refused. -/
def addTable (s : TableStore) (table : MemoryTable) : TableStore × Except CheckError Unit :=
  let key := tableKey s.caseSensitive table.name
  match s.index.lookup key with
  | some _ => (s, .error (.config (.duplicateTable table.name)))
  | none =>
    ({ s with tables := s.tables ++ [table], index := (key, s.tables.length) :: s.index }, .ok ())

/-- The index has the place of every table under its key, and nothing else. -/
def Consistent (s : TableStore) : Prop :=
  ∀ key i, s.index.lookup key = some i ↔
    ∃ t, s.tables[i]? = some t ∧ t.tableKey s.caseSensitive = key

variable {s : TableStore}

theorem consistent_empty (caseSensitive : Bool) : (empty caseSensitive).Consistent := by
  simp [Consistent, empty]

/-- A table that is added has the one place for its key, and every other key has the place that it
had. -/
theorem Consistent.addTable (h : s.Consistent) (t : MemoryTable) :
    (s.addTable t).1.Consistent := by
  unfold TableStore.addTable
  dsimp only
  cases hlookup : s.index.lookup (TableDiff.tableKey s.caseSensitive t.name) with
  | some i => exact h
  | none =>
    intro key i
    -- Of the longer list a place is one of the shorter list, or the last one.
    have hplaces : (∃ u, (s.tables ++ [t])[i]? = some u ∧ u.tableKey s.caseSensitive = key) ↔
        s.index.lookup key = some i ∨ i = s.tables.length ∧ t.tableKey s.caseSensitive = key := by
      rw [h key i]
      simp only [getElem?_concat_eq_some_iff, or_and_right, exists_or]
      refine or_congr_right ⟨?_, fun ⟨hi, hkey⟩ => ⟨t, ⟨hi, rfl⟩, hkey⟩⟩
      rintro ⟨u, ⟨hi, rfl⟩, hkey⟩
      exact ⟨hi, hkey⟩
    dsimp only
    rw [hplaces, List.lookup_cons]
    by_cases hkey : key = TableDiff.tableKey s.caseSensitive t.name
    · subst hkey
      simp [hlookup, MemoryTable.tableKey, eq_comm]
    · have hother : t.tableKey s.caseSensitive ≠ key := fun heq => hkey heq.symm
      simp [beq_eq_false_iff_ne.mpr hkey, hother]

end TableStore

/-! ## Datasets in memory -/

/-- A dataset whose tables are at hand. -/
structure MemoryDataset extends TableStore where
  consistent : toTableStore.Consistent

namespace MemoryDataset

/-- A dataset without tables. -/
def empty (caseSensitive : Bool) : MemoryDataset :=
  ⟨.empty caseSensitive, TableStore.consistent_empty _⟩

/-- The dataset with one more table at its end, whose key must be new. -/
def add (d : MemoryDataset) (table : MemoryTable) : Except CheckError MemoryDataset :=
  match (d.toTableStore.addTable table).2 with
  | .ok () => .ok ⟨(d.toTableStore.addTable table).1, d.consistent.addTable table⟩
  | .error e => .error e

/-- The dataset as a comparison sees it. -/
def toDataset (d : MemoryDataset) : Dataset where
  tableNames := d.tableNames
  table := fun name => (d.table name).map (·.toTable)

end MemoryDataset

end TableDiff
