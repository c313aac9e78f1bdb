import TableDiff.Loading
import TableDiff.Proofs.Table.Rows
import TableDiff.Proofs.Value.Reading

/-!
# Rows of loaded tables

Records are added to a table one after the other. The table that comes out holds what is read of
their texts, row by row and cell by cell, and neither the path nor the numbers of the lines matter.
So a table that is loaded with a schema and one that is loaded without it hold the same texts, of
which one has read each under the datatype of its column.
-/

namespace TableDiff

theorem traverse_eq_ok_iff {ε α β : Type} {f : α → Except ε β} {as : List α} {bs : List β} :
    traverse f as = .ok bs ↔ List.Forall₂ (fun a b => f a = .ok b) as bs := by
  induction as generalizing bs with
  | nil => cases bs <;> simp [traverse]
  | cons a as ih =>
    unfold traverse
    cases ha : f a with
    | error e => cases bs <;> simp [ha]
    | ok b =>
      cases hrest : traverse f as with
      | error e => cases bs <;> simp [ha, ← ih, hrest]
      | ok rest => cases bs <;> simp [ha, ← ih, hrest]

namespace Files

variable {path : String} {e : Encoding} {columns : List Column} {line : Nat} {texts : List String}
  {cells : List Cell} {record : Csv.Record}

/-! ## Rows -/

/-- The texts of a record, of which there are as many as columns. -/
def HasTexts (e : Encoding) (width : Nat) (record : Csv.Record) (texts : List String) : Prop :=
  decodeFields e record.fields = .ok texts ∧ texts.length = width

/-- The cells of a row are what is read of the texts, each under the datatype of its column. -/
def CellsOf (columns : List Column) (texts : List String) (cells : List Cell) : Prop :=
  List.Forall₂ (fun p cell => Cell.read p.2 p.1.datatype = .ok cell) (columns.zip texts) cells

theorem CellsOf.length_eq (h : CellsOf columns texts cells)
    (hwidth : texts.length = columns.length) :
    cells.length = columns.length := by
  have hlength := List.Forall₂.length_eq h
  rw [List.length_zip, hwidth, min_self] at hlength
  exact hlength.symm

theorem CellsOf.read_eq (h : CellsOf columns texts cells) {i : Nat} (hcolumn : i < columns.length)
    (htext : i < texts.length) (hcell : i < cells.length) :
    Cell.read texts[i] columns[i].datatype = .ok cells[i] := by
  have hzip : i < (columns.zip texts).length := by
    rw [List.length_zip]
    exact lt_min hcolumn htext
  simpa using List.Forall₂.get h hzip hcell

theorem readCells_eq_ok_iff :
    readCells path line columns texts = .ok cells ↔ CellsOf columns texts cells := by
  unfold readCells CellsOf
  rw [traverse_eq_ok_iff]
  constructor
  · intro h
    refine h.imp fun (column, field) cell hcell => ?_
    cases hread : Cell.read field column.datatype with
    | error error => simp [hread] at hcell
    | ok c => simpa [hread] using hcell
  · intro h
    refine h.imp fun (column, field) cell hcell => ?_
    dsimp only at hcell ⊢
    rw [hcell]

theorem length_of_decodeFields {fields : List (List UInt8)}
    (h : decodeFields e fields = .ok texts) :
    texts.length = fields.length :=
  length_of_traverse h

theorem readRecord_eq_ok_iff :
    readRecord path e columns line record = .ok cells ↔
      ∃ texts, HasTexts e columns.length record texts ∧ CellsOf columns texts cells := by
  unfold readRecord Csv.Record.fieldsOfWidth HasTexts
  by_cases hwidth : record.fields.length = columns.length
  · rw [if_pos hwidth]
    dsimp only
    cases hdecode : decodeFields e record.fields with
    | error error => simp
    | ok texts =>
      have hlength : texts.length = columns.length := (length_of_decodeFields hdecode).trans hwidth
      simp [readCells_eq_ok_iff, hlength]
  · rw [if_neg hwidth]
    refine iff_of_false (by simp) ?_
    rintro ⟨texts, ⟨hdecode, hlength⟩, -⟩
    exact hwidth ((length_of_decodeFields hdecode).symm.trans hlength)

/-- Records are added exactly if all of them can be read, and then the table has their rows. -/
theorem addRecords_eq_ok_iff {t u : MemoryTable} {records : List Csv.Record} :
    addRecords path e t line records = .ok u ↔
      u.name = t.name ∧ u.columns = t.columns ∧ ∃ texts rows,
        List.Forall₂ (HasTexts e t.columns.length) records texts ∧
        List.Forall₂ (CellsOf t.columns) texts rows ∧ u.rows.toList = t.rows.toList ++ rows := by
  -- The table grows from record to record, so the induction is for any table to start from.
  induction records generalizing t line with
  | nil =>
    constructor
    · intro h
      cases h
      exact ⟨rfl, rfl, [], [], .nil, .nil, (List.append_nil _).symm⟩
    · rintro ⟨hname, hcolumns, texts, rows, htexts, hrows, hadded⟩
      cases htexts
      cases hrows
      rw [MemoryTable.eq_of_parts hname hcolumns (hadded.trans (List.append_nil _))]
      rfl
  | cons record records ih =>
    unfold addRecords
    constructor
    · intro h
      cases hrecord : readRecord path e t.columns line record with
      | error error => simp [hrecord] at h
      | ok cells =>
        obtain ⟨texts, htexts, hcells⟩ := readRecord_eq_ok_iff.mp hrecord
        obtain ⟨v, hpush, hname, hcolumns, hrows⟩ :=
          MemoryTable.push_of_length_eq (hcells.length_eq htexts.2)
        rw [hrecord] at h
        dsimp only at h
        rw [hpush] at h
        dsimp only at h
        obtain ⟨hname', hcolumns', rest, rows, hrest, hmore, hadded⟩ := ih.mp h
        rw [hcolumns] at hcolumns' hrest hmore
        refine ⟨hname'.trans hname, hcolumns', texts :: rest, cells :: rows, .cons htexts hrest,
          .cons hcells hmore, ?_⟩
        rw [hadded, hrows, List.append_assoc]
        rfl
    · rintro ⟨hname, hcolumns, texts, rows, htexts, hrows, hadded⟩
      obtain ⟨here, rest, hhere, hrest, rfl⟩ := List.forall₂_cons_left_iff.mp htexts
      obtain ⟨cells, more, hcells, hmore, rfl⟩ := List.forall₂_cons_left_iff.mp hrows
      have hrecord : readRecord path e t.columns line record = .ok cells :=
        readRecord_eq_ok_iff.mpr ⟨here, hhere, hcells⟩
      obtain ⟨v, hpush, hname', hcolumns', hrows'⟩ :=
        MemoryTable.push_of_length_eq (hcells.length_eq hhere.2)
      rw [hrecord]
      dsimp only
      rw [hpush]
      refine ih.mpr ⟨hname.trans hname'.symm, hcolumns.trans hcolumns'.symm, rest, more, ?_, ?_, ?_⟩
      · rw [hcolumns']
        exact hrest
      · rw [hcolumns']
        exact hmore
      · rw [hadded, hrows', List.append_assoc]
        rfl

/-- Under columns without datatypes every text can be read; it stays as it is. -/
theorem cellsOf_untyped {headers : List String} (hwidth : texts.length = headers.length) :
    CellsOf (headers.map .untyped) texts (texts.map Cell.ofText) := by
  have hzip : ((headers.map Column.untyped).zip texts).map (fun p => Cell.ofText p.2) =
      texts.map Cell.ofText := by
    have hlength : texts.length ≤ (headers.map Column.untyped).length := by
      rw [List.length_map, hwidth]
    conv_rhs => rw [← List.map_snd_zip hlength, List.map_map]
    rfl
  unfold CellsOf
  rw [← hzip, List.forall₂_map_right_iff, List.forall₂_same]
  intro p hp
  obtain ⟨header, -, hcolumn⟩ := List.mem_map.mp (List.of_mem_zip hp).1
  rw [← hcolumn]
  exact Cell.read_unknown p.2

end Files

/-! ## With a schema and without -/

@[simp] theorem Column.key_untyped (name : String) : (Column.untyped name).key = nameKey name := rfl

@[simp] theorem Column.datatype_untyped (name : String) :
    (Column.untyped name).datatype = .unknown := rfl

namespace Schema

variable (s : Schema)

@[simp] theorem key_columnFor (header : String) : (s.columnFor header).key = nameKey header := by
  unfold columnFor
  split <;> rfl

/-- Headers of one key have the same datatype. -/
theorem datatype_columnFor_congr {header other : String} (h : nameKey header = nameKey other) :
    (s.columnFor header).datatype = (s.columnFor other).datatype := by
  unfold columnFor column?
  simp only [Column.isNamed_eq, h]
  split <;> rfl

end Schema

/-- Two tables hold the same texts under the same headers: in one each text is read under the
datatype that a schema declares for its header, in the other it is kept. -/
structure SameTexts (schema : Schema) (headers : List String) (typed untyped : MemoryTable) :
    Prop where
  typed_columns : typed.columns = schema.columnsFor headers
  untyped_columns : untyped.columns = headers.map .untyped
  size_eq : typed.rows.size = untyped.rows.size
  cells : ∀ row < typed.rows.size, ∀ header ∈ headers, ∃ text,
    untyped.cellOf row (nameKey header) = .ofText text ∧
    Cell.read text (schema.columnFor header).datatype = .ok (typed.cellOf row (nameKey header))

/-- The place of a header is that of the first one of its key, whatever the columns are. -/
theorem exists_findIdx?_header {headers : List String} {header : String} (h : header ∈ headers) :
    ∃ i, ∃ hi : i < headers.length, nameKey headers[i] = nameKey header ∧
      ∀ column : String → Column, (∀ name, (column name).key = nameKey name) →
        (headers.map column).findIdx? (·.key == nameKey header) = some i := by
  have hsome : (headers.findIdx? (nameKey · == nameKey header)).isSome := by
    rw [List.findIdx?_isSome, List.any_eq_true]
    exact ⟨header, h, beq_self_eq_true _⟩
  obtain ⟨i, hfind⟩ := Option.isSome_iff_exists.mp hsome
  obtain ⟨hi, hkey, -⟩ := List.findIdx?_eq_some_iff_getElem.mp hfind
  refine ⟨i, hi, beq_iff_eq.mp hkey, fun column hcolumn => ?_⟩
  rw [List.findIdx?_map, ← hfind]
  congr 1
  funext name
  exact congrArg (· == nameKey header) (hcolumn name)

/-- The table of texts that are kept as they are. -/
def MemoryTable.ofTexts (name : String) (headers : List String) (texts : List (List String))
    (width : ∀ ts ∈ texts, ts.length = headers.length) : MemoryTable where
  name := name
  columns := headers.map .untyped
  rows := (texts.map (·.map Cell.ofText)).toArray
  width := by
    intro row hrow
    obtain ⟨ts, hts, rfl⟩ := List.mem_map.mp (List.mem_toArray.mp hrow)
    rw [List.length_map, List.length_map, width ts hts]

section OfTexts

variable {schema : Schema} {headers : List String} {texts : List (List String)}
  {width : ∀ ts ∈ texts, ts.length = headers.length}

/-- It is the one that records of these texts make without a schema. -/
theorem addRecords_ofTexts {path name : String} {e : Encoding} {line : Nat}
    {records : List Csv.Record}
    (h : List.Forall₂ (Files.HasTexts e headers.length) records texts) :
    Files.addRecords path e (.empty name (headers.map .untyped)) line records =
      .ok (.ofTexts name headers texts width) := by
  refine Files.addRecords_eq_ok_iff.mpr
    ⟨rfl, rfl, texts, texts.map (·.map Cell.ofText), ?_, ?_, rfl⟩
  · simpa [MemoryTable.empty] using h
  · rw [List.forall₂_map_right_iff, List.forall₂_same]
    exact fun ts hts => Files.cellsOf_untyped (width ts hts)

/-- A table of the cells that are read of the texts holds the same texts. -/
theorem sameTexts_ofTexts {typed : MemoryTable} {name : String}
    (hcolumns : typed.columns = schema.columnsFor headers)
    (h : List.Forall₂ (Files.CellsOf (schema.columnsFor headers)) texts typed.rows.toList) :
    SameTexts schema headers typed (.ofTexts name headers texts width) := by
  have hsize : typed.rows.size = texts.length := by
    rw [h.length_eq, Array.length_toList]
  have hsizes : typed.rows.size = (MemoryTable.ofTexts name headers texts width).rows.size := by
    simp [MemoryTable.ofTexts, hsize]
  refine ⟨hcolumns, rfl, hsizes, fun row hrow header hheader => ?_⟩
  obtain ⟨i, hi, hkey, hfind⟩ := exists_findIdx?_header hheader
  have htexts : row < texts.length := hsize ▸ hrow
  have hwidth : texts[row].length = headers.length := width _ (List.getElem_mem htexts)
  have hcolumnsLength : (schema.columnsFor headers).length = headers.length := List.length_map _
  have hcells : Files.CellsOf (schema.columnsFor headers) texts[row] typed.rows[row] := by
    simpa using h.get htexts (by rw [Array.length_toList]; exact hrow)
  have hcellsLength : typed.rows[row].length = headers.length := by
    rw [hcells.length_eq (hwidth.trans hcolumnsLength.symm), hcolumnsLength]
  refine ⟨texts[row][i], ?_, ?_⟩
  · rw [MemoryTable.cellOf_eq_getElem (hsizes ▸ hrow) (hfind .untyped fun _ => rfl)]
    · simp [MemoryTable.ofTexts]
    · simp [MemoryTable.ofTexts, hwidth, hi]
  · have hplace : typed.columns.findIdx? (·.key == nameKey header) = some i :=
      hcolumns ▸ hfind schema.columnFor schema.key_columnFor
    have hcolumn : (schema.columnsFor headers)[i] = schema.columnFor headers[i] :=
      List.getElem_map _
    rw [MemoryTable.cellOf_eq_getElem hrow hplace (by omega),
      ← schema.datatype_columnFor_congr hkey, ← hcolumn]
    exact hcells.read_eq (by omega) (by omega) (by omega)

end OfTexts

/-- Records that are added under a schema can be added without it, and the two tables hold the same
texts. -/
theorem exists_addRecords_untyped {schema : Schema} {headers : List String}
    {records : List Csv.Record} {e : Encoding} {path name path' name' : String} {line line' : Nat}
    {typed : MemoryTable}
    (h : Files.addRecords path e (.empty name (schema.columnsFor headers)) line records =
      .ok typed) :
    ∃ untyped,
      Files.addRecords path' e (.empty name' (headers.map .untyped)) line' records = .ok untyped ∧
      SameTexts schema headers typed untyped := by
  obtain ⟨-, hcolumns, texts, rows, htexts, hrows, hadded⟩ := Files.addRecords_eq_ok_iff.mp h
  obtain rfl : typed.rows.toList = rows := hadded
  have htexts : List.Forall₂ (Files.HasTexts e headers.length) records texts := by
    simpa [Schema.columnsFor, MemoryTable.empty] using htexts
  have hwidth : ∀ ts ∈ texts, ts.length = headers.length :=
    ((List.forall₂_and_left _ _).mp (htexts.flip.imp fun _ _ => And.symm)).1
  exact ⟨.ofTexts name' headers texts hwidth, addRecords_ofTexts htexts,
    sameTexts_ofTexts hcolumns hrows⟩

/-! ## Files -/

section LoadTable

variable {files : Files} {path : String}

/-- The columns of a table are those of a schema, which declares nothing if there is no file of
it. -/
theorem exists_columnsFor_of_loadColumns {headers : List String} {columns : List Column}
    (h : files.loadColumns path headers = .ok columns) :
    ∃ schema : Schema, columns = schema.columnsFor headers := by
  unfold Files.loadColumns at h
  split at h
  · cases h
    exact ⟨⟨none, []⟩, rfl⟩
  · split at h
    · cases h
    · cases h
      exact ⟨_, rfl⟩

theorem loadTable_eq_ok_iff {options : ReadOptions} {t : MemoryTable} {bytes : List UInt8}
    {sheet : Csv.Sheet} (hfile : files path = .ok (.file bytes))
    (hsheet : Csv.Sheet.read (Csv.delimiterFor path options.delimiter) bytes = sheet) :
    files.loadTable options path = .ok t ↔ ∃ headers columns name,
      Files.decodeFields options.encoding sheet.headers = .ok headers ∧
      files.loadColumns path headers = .ok columns ∧ Path.stem? path = some name ∧
      Files.addRecords path options.encoding (.empty name columns) 2 sheet.rows = .ok t := by
  unfold Files.loadTable
  rw [hfile]
  change (Files.decodeFields options.encoding (Csv.Sheet.read _ bytes).headers >>= _) = _ ↔ _
  rw [hsheet]
  cases Files.decodeFields options.encoding sheet.headers with
  | error e => simp [bind, Except.bind]
  | ok headers =>
    cases hcolumns : files.loadColumns path headers with
    | error e => simp [bind, Except.bind, hcolumns]
    | ok columns => cases Path.stem? path <;> simp [bind, Except.bind, hcolumns]

end LoadTable

end TableDiff
