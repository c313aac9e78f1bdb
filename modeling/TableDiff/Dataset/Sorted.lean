import TableDiff.Dataset
import TableDiff.Table.Sorted

/-!
# Sorted copies

Tables and datasets in memory with their rows in the order of key columns.
-/

namespace TableDiff

/-- The table sorted by the columns that `keys` name; without keys it stays as it is. -/
def MemoryTable.sortBy (t : MemoryTable) (keys : List String) : Except CheckError MemoryTable :=
  if keys = [] then .ok t
  else
    match SortedTable.sort t.toTable keys with
    | .error e => .error e
    | .ok s => MemoryTable.materialize s.toTable

/-- The table sorted by those of the keys that name a column of it. -/
def MemoryTable.sortByOwn (t : MemoryTable) (keys : List String) : Except CheckError MemoryTable :=
  t.sortBy (keys.filter fun key => (t.toTable.column? key).isSome)

/-- Adds tables to a dataset, each one sorted by those of the keys that it has. -/
def MemoryDataset.addSorted (keys : List String) (d : MemoryDataset) :
    List MemoryTable → Except CheckError MemoryDataset
  | [] => .ok d
  | t :: rest =>
    match t.sortByOwn keys with
    | .error e => .error e
    | .ok sorted =>
      match d.add sorted with
      | .error e => .error e
      | .ok d => addSorted keys d rest

/-- The dataset with each table sorted by those of the keys that it has. -/
def MemoryDataset.sortBy (d : MemoryDataset) (keys : List String) :
    Except CheckError MemoryDataset :=
  if keys = [] then .ok d else addSorted keys (.empty d.caseSensitive) d.tables

end TableDiff
