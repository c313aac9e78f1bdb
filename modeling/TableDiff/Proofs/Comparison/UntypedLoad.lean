import TableDiff.Proofs.Comparison.Agreement
import TableDiff.Proofs.Loading

/-!
# Loads with and without a schema

The datatypes of a schema prevail over the unknown ones of a table that is loaded without it. Under
them equality reads the texts of that table as they were read into the other one, so it finds no
difference, whichever of the two is the expected one.
-/

namespace TableDiff

/-! ## Columns of the same headers -/

/-- Tables whose columns are named by the same headers, with datatypes that do not conflict, compare
equal exactly if equality accepts the cells of every row under every header. -/
theorem collectTables_headers_iff {headers : List String} {f g : String → Column}
    {e a : MemoryTable} (hf : ∀ header, (f header).key = nameKey header)
    (hg : ∀ header, (g header).key = nameKey header)
    (hcompatible : ∀ header, ¬ (f header).datatype.Conflicting (g header).datatype)
    (he : e.columns = headers.map f) (ha : a.columns = headers.map g)
    (hrows : e.rows.size = a.rows.size) :
    Assertion.default.collectTables (.distinct e.toTable a.toTable) = .ok [] ↔
      ∀ row < e.rows.size, ∀ header ∈ headers,
        Comparator.equality.accepts ((f header).datatype.effective (g header).datatype)
          (e.cellOf row (nameKey header)) (a.cellOf row (nameKey header)) = true := by
  have hkeys : e.columns.map Column.key = a.columns.map Column.key := by
    rw [he, ha, List.map_map, List.map_map]
    exact List.map_congr_left fun header _ => (hf header).trans (hg header).symm
  have hzip : e.columns.zip a.columns = headers.map fun header => (f header, g header) := by
    rw [he, ha]
    exact List.zip_map'
  rw [collectTables_default_eq_nil_iff e.toTable_readsAs a.toTable_readsAs hkeys hrows, hzip]
  simp only [List.forall_mem_map]
  refine forall₂_congr fun row _ => forall₂_congr fun header _ => ?_
  rw [← hf header]
  constructor
  · intro h
    have haccepted := h.accepted
    rwa [hg header, ← hf header] at haccepted
  · intro h
    refine ⟨hcompatible header, ?_⟩
    rwa [hg header, ← hf header]

section Schema

variable {schema : Schema} {headers : List String} {typed untyped : MemoryTable}

/-- Beside columns without datatypes those of a schema prevail. -/
theorem collectTables_typed_iff (htyped : typed.columns = schema.columnsFor headers)
    (huntyped : untyped.columns = headers.map .untyped)
    (hrows : typed.rows.size = untyped.rows.size) :
    Assertion.default.collectTables (.distinct typed.toTable untyped.toTable) = .ok [] ↔
      ∀ row < typed.rows.size, ∀ header ∈ headers,
        Comparator.equality.accepts (schema.columnFor header).datatype
          (typed.cellOf row (nameKey header)) (untyped.cellOf row (nameKey header)) = true := by
  simpa using collectTables_headers_iff schema.key_columnFor Column.key_untyped
    (fun _ => Datatype.not_conflicting_unknown_right _) htyped huntyped hrows

theorem collectTables_untyped_iff (htyped : typed.columns = schema.columnsFor headers)
    (huntyped : untyped.columns = headers.map .untyped)
    (hrows : typed.rows.size = untyped.rows.size) :
    Assertion.default.collectTables (.distinct untyped.toTable typed.toTable) = .ok [] ↔
      ∀ row < typed.rows.size, ∀ header ∈ headers,
        Comparator.equality.accepts (schema.columnFor header).datatype
          (untyped.cellOf row (nameKey header)) (typed.cellOf row (nameKey header)) = true := by
  simpa [hrows] using collectTables_headers_iff Column.key_untyped schema.key_columnFor
    (fun _ => Datatype.not_conflicting_unknown_left _) huntyped htyped hrows.symm

end Schema

/-! ## Tables of the same texts -/

namespace SameTexts

variable {schema : Schema} {headers : List String} {typed untyped : MemoryTable}

section Cells

variable {row other : Nat} {header : String}

/-- Equality judges a row beside the texts of another one as the order of cells judges the two rows
when all texts are read. -/
theorem accepts_iff (h : SameTexts schema headers typed untyped) (hrow : row < typed.rows.size)
    (hother : other < typed.rows.size) (hheader : header ∈ headers) :
    Comparator.equality.accepts (schema.columnFor header).datatype
        (typed.cellOf row (nameKey header)) (untyped.cellOf other (nameKey header)) = true ↔
      Cell.compare (typed.cellOf row (nameKey header)) (typed.cellOf other (nameKey header)) =
        .eq := by
  obtain ⟨_, -, hcell⟩ := h.cells row hrow header hheader
  obtain ⟨text, htext, hread⟩ := h.cells other hother header hheader
  rw [htext, equality_accepts_ofText_actual_iff (Cell.isOf_of_read hcell) hread]
  exact (Cell.compare_eq_eq_iff (Cell.isOf_of_read hcell) (Cell.isOf_of_read hread)).symm

theorem accepts_swap_iff (h : SameTexts schema headers typed untyped) (hrow : row < typed.rows.size)
    (hother : other < typed.rows.size) (hheader : header ∈ headers) :
    Comparator.equality.accepts (schema.columnFor header).datatype
        (untyped.cellOf other (nameKey header)) (typed.cellOf row (nameKey header)) = true ↔
      Cell.compare (typed.cellOf row (nameKey header)) (typed.cellOf other (nameKey header)) =
        .eq := by
  obtain ⟨_, -, hcell⟩ := h.cells row hrow header hheader
  obtain ⟨text, htext, hread⟩ := h.cells other hother header hheader
  rw [htext, equality_accepts_ofText_expected_iff (Cell.isOf_of_read hcell) hread, eq_comm]
  exact (Cell.compare_eq_eq_iff (Cell.isOf_of_read hcell) (Cell.isOf_of_read hread)).symm

end Cells

/-- Equality finds no difference in two tables of the same texts, whichever is expected. -/
theorem collectTables_eq_nil (h : SameTexts schema headers typed untyped) :
    Assertion.default.collectTables (.distinct typed.toTable untyped.toTable) = .ok [] ∧
    Assertion.default.collectTables (.distinct untyped.toTable typed.toTable) = .ok [] := by
  rw [collectTables_typed_iff h.typed_columns h.untyped_columns h.size_eq,
    collectTables_untyped_iff h.typed_columns h.untyped_columns h.size_eq]
  constructor
  · exact fun row hrow header hheader =>
      (h.accepts_iff hrow hrow hheader).mpr (Cell.compare_self _)
  · exact fun row hrow header hheader =>
      (h.accepts_swap_iff hrow hrow hheader).mpr (Cell.compare_self _)

end SameTexts

/-! ## Loads -/

/-- Records that make a table under a schema make one without it as well, and the two tables compare
equal. -/
theorem collectTables_addRecords_untyped {schema : Schema} {headers : List String}
    {records : List Csv.Record} {e : Encoding} {path name : String} {typed : MemoryTable}
    (h : Files.addRecords path e (.empty name (schema.columnsFor headers)) 2 records = .ok typed)
    (path' name' : String) :
    ∃ untyped,
      Files.addRecords path' e (.empty name' (headers.map .untyped)) 2 records = .ok untyped ∧
      Assertion.default.collectTables (.distinct typed.toTable untyped.toTable) = .ok [] ∧
      Assertion.default.collectTables (.distinct untyped.toTable typed.toTable) = .ok [] := by
  obtain ⟨untyped, hload, hsame⟩ := exists_addRecords_untyped h
  exact ⟨untyped, hload, hsame.collectTables_eq_nil⟩

/-- Records of repeated headers, of which the schema declares one. -/
theorem collectTables_addRecords_untyped_repeated :
    let schema : Schema := ⟨none, [⟨"Id", .integer, true⟩, ⟨"day", .date, true⟩]⟩
    let headers := ["id", "ID", "Day", "x"]
    let records : List Csv.Record :=
      [⟨.start, [[48, 49], [50], [], [51]]⟩, ⟨.start, [[], [45, 53], [], [32]]⟩]
    let typed : MemoryTable := ⟨"e", schema.columnsFor headers,
      #[[some (.integer 1), some (.integer 2), none, some (.text "3")],
        [none, some (.integer (-5)), none, some (.text " ")]], by decide⟩
    Files.addRecords "e" .utf8 (.empty "e" (schema.columnsFor headers)) 2 records = .ok typed ∧
    ∃ untyped,
      Files.addRecords "a" .utf8 (.empty "a" (headers.map .untyped)) 2 records = .ok untyped ∧
      Assertion.default.collectTables (.distinct typed.toTable untyped.toTable) = .ok [] ∧
      Assertion.default.collectTables (.distinct untyped.toTable typed.toTable) = .ok [] := by
  intro schema headers records typed
  have hload : Files.addRecords "e" .utf8 (.empty "e" (schema.columnsFor headers)) 2 records =
      .ok typed := rfl
  exact ⟨hload, collectTables_addRecords_untyped hload "a" "a"⟩

/-- A file that is loaded can be loaded from elsewhere, where no schema is beside it, and the two
tables compare equal. -/
theorem collectTables_loadTable_untyped {files files' : Files} {options : ReadOptions}
    {path path' name' : String} {bytes : List UInt8} {typed : MemoryTable}
    (hfile : files path = .ok (.file bytes)) (hfile' : files' path' = .ok (.file bytes))
    (hdelimiter : Csv.delimiterFor path' options.delimiter =
      Csv.delimiterFor path options.delimiter)
    (hstem : Path.stem? path' = some name')
    (hschema : (Path.schemaPath? path').filter files'.isFile = none)
    (h : files.loadTable options path = .ok typed) :
    ∃ untyped, files'.loadTable options path' = .ok untyped ∧
      Assertion.default.collectTables (.distinct typed.toTable untyped.toTable) = .ok [] ∧
      Assertion.default.collectTables (.distinct untyped.toTable typed.toTable) = .ok [] := by
  obtain ⟨headers, columns, name, hheaders, hcolumns, -, hrecords⟩ :=
    (loadTable_eq_ok_iff hfile rfl).mp h
  obtain ⟨schema, rfl⟩ := exists_columnsFor_of_loadColumns hcolumns
  obtain ⟨untyped, hload, hsame⟩ := exists_addRecords_untyped hrecords
  have huntyped : files'.loadColumns path' headers = .ok (headers.map .untyped) := by
    unfold Files.loadColumns
    rw [hschema]
  refine ⟨untyped, ?_, hsame.collectTables_eq_nil⟩
  exact (loadTable_eq_ok_iff hfile' (congrArg (Csv.Sheet.read · bytes) hdelimiter)).mpr
    ⟨headers, _, name', hheaders, huntyped, hstem, hload⟩

end TableDiff
