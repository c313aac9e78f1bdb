import TableDiff.Proofs.Comparison.UntypedLoad
import TableDiff.Proofs.Table.Sorting

/-!
# Sorted loads with and without a schema

A table is sorted by the values of its own cells, so a table that is loaded with a schema and one
that is loaded without it may come into different orders: numbers are not ordered as their texts.
The sorted tables compare equal exactly if the two orders put rows of the same values at each place.
-/

namespace TableDiff

namespace MemoryTable

/-- Two lists of rows have rows of the same values at each place. -/
def SameOrder (t : MemoryTable) {m n : Nat} (rs : List (Fin m)) (ss : List (Fin n)) : Prop :=
  List.Forall₂
    (fun (r : Fin m) (s : Fin n) =>
      ∀ c ∈ t.columns, Cell.compare (t.cellOf r c.key) (t.cellOf s c.key) = .eq) rs ss

end MemoryTable

namespace SameTexts

variable {schema : Schema} {headers keys : List String} {typed untyped : MemoryTable}

section Arrange

variable {rs : List (Fin typed.rows.size)} {ss : List (Fin untyped.rows.size)}

/-- The order at each place, by the headers. -/
theorem sameOrder_iff (h : SameTexts schema headers typed untyped)
    (hlength : rs.length = ss.length) :
    typed.SameOrder rs ss ↔ ∀ place (hplace : place < rs.length), ∀ header ∈ headers,
      Cell.compare (typed.cellOf rs[place] (nameKey header))
        (typed.cellOf ss[place] (nameKey header)) = .eq := by
  unfold MemoryTable.SameOrder
  rw [List.forall₂_iff_get, h.typed_columns]
  unfold Schema.columnsFor
  simp only [List.forall_mem_map, Schema.key_columnFor, List.get_eq_getElem]
  exact ⟨fun hall place hplace => hall.2 place hplace (hlength ▸ hplace),
    fun hall => ⟨hlength, fun place hplace _ => hall place hplace⟩⟩

/-- Two tables of the same texts whose rows were put into orders compare equal, whichever is
expected, exactly if the orders put rows of the same values at each place. -/
theorem collectTables_arrange_iff (h : SameTexts schema headers typed untyped)
    (hlength : rs.length = ss.length) :
    (Assertion.default.collectTables
        (.distinct (typed.arrange rs).toTable (untyped.arrange ss).toTable) = .ok [] ↔
      typed.SameOrder rs ss) ∧
    (Assertion.default.collectTables
        (.distinct (untyped.arrange ss).toTable (typed.arrange rs).toTable) = .ok [] ↔
      typed.SameOrder rs ss) := by
  have htyped : (typed.arrange rs).columns = schema.columnsFor headers := h.typed_columns
  have huntyped : (untyped.arrange ss).columns = headers.map .untyped := h.untyped_columns
  have hrows : (typed.arrange rs).rows.size = (untyped.arrange ss).rows.size := by
    simpa using hlength
  have hother : ∀ place (hplace : place < ss.length), (ss[place] : Nat) < typed.rows.size :=
    fun place _ => lt_of_lt_of_eq ss[place].isLt h.size_eq.symm
  rw [collectTables_typed_iff htyped huntyped hrows,
    collectTables_untyped_iff htyped huntyped hrows, MemoryTable.size_arrange,
    h.sameOrder_iff hlength]
  constructor
  · refine forall₂_congr fun place hplace => forall₂_congr fun header hheader => ?_
    rw [MemoryTable.cellOf_arrange hplace, MemoryTable.cellOf_arrange (hlength ▸ hplace)]
    exact h.accepts_iff rs[place].isLt (hother place (hlength ▸ hplace)) hheader
  · refine forall₂_congr fun place hplace => forall₂_congr fun header hheader => ?_
    rw [MemoryTable.cellOf_arrange hplace, MemoryTable.cellOf_arrange (hlength ▸ hplace)]
    exact h.accepts_swap_iff rs[place].isLt (hother place (hlength ▸ hplace)) hheader

end Arrange

/-- Where the key cells of the texts are ordered as those of the values, both tables have one
order. -/
theorem sameOrder_of_compareCells_eq (h : SameTexts schema headers typed untyped)
    (hcompare : ∀ row < typed.rows.size, ∀ other < typed.rows.size,
      compareCells (untyped.keyCells keys row) (untyped.keyCells keys other) =
        compareCells (typed.keyCells keys row) (typed.keyCells keys other)) :
    typed.SameOrder (typed.sortOrder keys) (untyped.sortOrder keys) := by
  -- Equal comparisons make the two insertion sorts take the same steps.
  have horder : untyped.sortOrder keys = (typed.sortOrder keys).map (Fin.cast h.size_eq) := by
    have hrows : List.finRange untyped.rows.size =
        (List.finRange typed.rows.size).map (Fin.cast h.size_eq) := by
      apply List.ext_getElem <;> simp [h.size_eq]
    unfold MemoryTable.sortOrder
    rw [hrows]
    refine (map_insertionSort fun r _ s _ => ?_).symm
    rw [← hcompare _ r.isLt _ s.isLt]
    rfl
  rw [horder]
  unfold MemoryTable.SameOrder
  rw [List.forall₂_map_right_iff, List.forall₂_same]
  exact fun r _ c _ => Cell.compare_self _

/-- So it is if the columns of the keys are declared as texts or not at all. -/
theorem sameOrder_of_texts (h : SameTexts schema headers typed untyped)
    (hkeys : ∀ key ∈ keys, nameKey key ∈ headers.map nameKey)
    (htexts : ∀ key ∈ keys, (schema.columnFor key).datatype = .unknown ∨
      (schema.columnFor key).datatype = .string) :
    typed.SameOrder (typed.sortOrder keys) (untyped.sortOrder keys) := by
  have hcells : ∀ row < typed.rows.size, untyped.keyCells keys row = typed.keyCells keys row := by
    intro row hrow
    refine List.map_congr_left fun key hkey => ?_
    obtain ⟨header, hheader, hname⟩ := List.mem_map.mp (hkeys key hkey)
    obtain ⟨text, htext, hread⟩ := h.cells row hrow header hheader
    have hkept : Cell.read text (schema.columnFor key).datatype = .ok (.ofText text) := by
      rcases htexts key hkey with hdatatype | hdatatype
      · rw [hdatatype, Cell.read_unknown]
      · rw [hdatatype, Cell.read_string]
    rw [schema.datatype_columnFor_congr hname, hkept] at hread
    rw [← hname, htext]
    exact Except.ok.inj hread
  refine h.sameOrder_of_compareCells_eq fun row hrow other hother => ?_
  rw [hcells row hrow, hcells other hother]

end SameTexts

/-- Records that make a table under a schema and, without it, another one: if both are sorted by the
same columns, they compare equal exactly if the two orders put rows of the same values at each
place. So they do if the columns to sort by are texts. -/
theorem collectTables_sortBy_untyped {schema : Schema} {headers keys : List String}
    {records : List Csv.Record} {e : Encoding} {path name : String} {typed : MemoryTable}
    (hheaders : (headers.map nameKey).Nodup)
    (h : Files.addRecords path e (.empty name (schema.columnsFor headers)) 2 records = .ok typed)
    (hne : keys ≠ []) (hkeys : ∀ key ∈ keys, nameKey key ∈ headers.map nameKey)
    (path' name' : String) :
    ∃ untyped typedSorted untypedSorted,
      Files.addRecords path' e (.empty name' (headers.map .untyped)) 2 records = .ok untyped ∧
      typed.sortBy keys = .ok typedSorted ∧ untyped.sortBy keys = .ok untypedSorted ∧
      (Assertion.default.collectTables (.distinct typedSorted.toTable untypedSorted.toTable) =
        .ok [] ↔ typed.SameOrder (typed.sortOrder keys) (untyped.sortOrder keys)) ∧
      (Assertion.default.collectTables (.distinct untypedSorted.toTable typedSorted.toTable) =
        .ok [] ↔ typed.SameOrder (typed.sortOrder keys) (untyped.sortOrder keys)) ∧
      ((∀ key ∈ keys, (schema.columnFor key).datatype = .unknown ∨
          (schema.columnFor key).datatype = .string) →
        typed.SameOrder (typed.sortOrder keys) (untyped.sortOrder keys)) := by
  obtain ⟨untyped, hload, hsame⟩ := exists_addRecords_untyped h
  have hkeyed : typed.columns.map Column.key = headers.map nameKey := by
    rw [hsame.typed_columns]
    unfold Schema.columnsFor
    rw [List.map_map]
    exact List.map_congr_left fun header _ => schema.key_columnFor header
  have hkeyed' : untyped.columns.map Column.key = headers.map nameKey := by
    rw [hsame.untyped_columns, List.map_map]
    rfl
  have hlength : (typed.sortOrder keys).length = (untyped.sortOrder keys).length := by
    rw [MemoryTable.length_sortOrder, MemoryTable.length_sortOrder, hsame.size_eq]
  exact ⟨untyped, _, _, hload,
    MemoryTable.sortBy_eq (hkeyed ▸ hheaders) hne (hkeyed ▸ hkeys),
    MemoryTable.sortBy_eq (hkeyed' ▸ hheaders) hne (hkeyed' ▸ hkeys),
    (hsame.collectTables_arrange_iff hlength).1, (hsame.collectTables_arrange_iff hlength).2,
    hsame.sameOrder_of_texts hkeys⟩

/-- Numbers sorted as such and as texts. -/
theorem collectTables_sortBy_untyped_numbers :
    let schema : Schema := ⟨none, [⟨"id", .integer, true⟩]⟩
    let records : List Csv.Record := [⟨.start, [[57]]⟩, ⟨.start, [[49, 48]]⟩]
    let typed : MemoryTable := ⟨"t", [⟨"id", .integer, true⟩],
      #[[some (.integer 9)], [some (.integer 10)]], by decide⟩
    let untyped : MemoryTable := ⟨"t", [.untyped "id"],
      #[[some (.text "9")], [some (.text "10")]], by decide⟩
    let sorted : MemoryTable := ⟨"t", [.untyped "id"],
      #[[some (.text "10")], [some (.text "9")]], by decide⟩
    Files.addRecords "t" .utf8 (.empty "t" (schema.columnsFor ["id"])) 2 records = .ok typed ∧
    Files.addRecords "t" .utf8 (.empty "t" [.untyped "id"]) 2 records = .ok untyped ∧
    typed.sortBy ["id"] = .ok typed ∧ untyped.sortBy ["id"] = .ok sorted ∧
    Assertion.default.collectTables (.distinct typed.toTable sorted.toTable) ≠ .ok [] ∧
    Assertion.default.collectTables (.distinct sorted.toTable typed.toTable) ≠ .ok [] := by
  intro schema records typed untyped sorted
  refine ⟨rfl, rfl, rfl, rfl, fun h => ?_, fun h => ?_⟩
  · have hagree := (collectTables_default_eq_nil_iff typed.toTable_readsAs sorted.toTable_readsAs
      (by decide) (by decide)).mp h 0 (by decide) _ List.mem_cons_self
    exact absurd hagree.accepted (by decide)
  · have hagree := (collectTables_default_eq_nil_iff sorted.toTable_readsAs typed.toTable_readsAs
      (by decide) (by decide)).mp h 0 (by decide) _ List.mem_cons_self
    exact absurd hagree.accepted (by decide)

/-- The same numbers sorted by a column of texts. -/
theorem collectTables_sortBy_untyped_names :
    let schema : Schema := ⟨none, [⟨"id", .integer, true⟩]⟩
    let headers := ["id", "name"]
    let records : List Csv.Record :=
      [⟨.start, [[57], [98]]⟩, ⟨.start, [[49, 48], [97]]⟩, ⟨.start, [[48, 49], []]⟩]
    let typed : MemoryTable := ⟨"t", schema.columnsFor headers,
      #[[some (.integer 9), some (.text "b")], [some (.integer 10), some (.text "a")],
        [some (.integer 1), none]], by decide⟩
    (headers.map nameKey).Nodup ∧
    Files.addRecords "t" .utf8 (.empty "t" (schema.columnsFor headers)) 2 records = .ok typed ∧
    ["Name"] ≠ [] ∧ (∀ key ∈ ["Name"], nameKey key ∈ headers.map nameKey) ∧
    ∃ untyped typedSorted untypedSorted,
      Files.addRecords "u" .utf8 (.empty "u" (headers.map .untyped)) 2 records = .ok untyped ∧
      typed.sortBy ["Name"] = .ok typedSorted ∧ untyped.sortBy ["Name"] = .ok untypedSorted ∧
      Assertion.default.collectTables (.distinct typedSorted.toTable untypedSorted.toTable) =
        .ok [] := by
  intro schema headers records typed
  have hheaders : (headers.map nameKey).Nodup := by decide
  have hload : Files.addRecords "t" .utf8 (.empty "t" (schema.columnsFor headers)) 2 records =
      .ok typed := rfl
  have hkeys : ∀ key ∈ ["Name"], nameKey key ∈ headers.map nameKey := by decide
  obtain ⟨untyped, typedSorted, untypedSorted, huntyped, htyped, hsorted, hiff, -, htexts⟩ :=
    collectTables_sortBy_untyped hheaders hload (List.cons_ne_nil _ _) hkeys "u" "u"
  exact ⟨hheaders, hload, List.cons_ne_nil _ _, hkeys, untyped, typedSorted, untypedSorted,
    huntyped, htyped, hsorted, hiff.mpr (htexts (by decide))⟩

end TableDiff
