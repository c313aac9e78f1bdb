import TableDiff.Config
import TableDiff.Proofs.Filter.Pattern
import TableDiff.Proofs.Resolution

/-!
# What a configuration chooses

The sections of a configuration are looked up by the key of a table's name, in either case mode of
the options: of several sections of one key the last one counts for all tables of the key.

The exclusions of a section are patterns behind the section's name and a dot. They apply to the
table of this name, unless the name has a dot itself.
-/

namespace TableDiff

/-! ## The comparators of sections -/

theorem TableConfig.find?_comparators (s : TableConfig) (column : String) :
    s.comparators.columns?.bind (·.find? column) =
      (lastWritten column s.columns).map CellComparator.rule := by
  unfold comparators ColumnComparators.ofEntries
  cases s.columns with
  | nil => rfl
  | cons e rest =>
    show (NameMap.ofList ((e :: rest).map fun e => (e.1, CellComparator.rule e.2))).find? column = _
    rw [NameMap.find?_ofList, lastWritten_map]

namespace CompareConfig

/-- The rule for a column by a section, if there is one: its entry for the column, its default, the
default of the configuration, and equality; the first of them that exists. -/
def ruleBy (c : CompareConfig) (section? : Option TableConfig) (column : String) : Comparator :=
  (((section?.bind fun s => lastWritten column s.columns).or (section?.bind (·.default?))).or
    c.default?).getD .equality

def addSection (t : TableComparators) (e : String × TableConfig) : TableComparators :=
  t.withTable e.1 e.2.comparators

theorem find?_addSection (table : String) (t : TableComparators) (e : String × TableConfig) :
    (addSection t e).tables.find? table =
      ((writtenFor table e).map TableConfig.comparators).or (t.tables.find? table) := by
  show (t.tables.insert e.1 e.2.comparators).find? table = _
  rw [NameMap.find?_insert_eq_or table _ (e.1, e.2.comparators), writtenFor, writtenFor]
  split <;> rfl

theorem find?_comparators (c : CompareConfig) (table : String) :
    c.comparators.tables.find? table =
      (lastWritten table c.tables).map TableConfig.comparators := by
  rw [lastWritten, map_findSomeRev?]
  exact foldl_eq_findSomeRev?_of_none addSection (·.tables.find? table) _ (find?_addSection table)
    (TableComparators.empty.withDefaults c.defaults) rfl c.tables

theorem foldl_addSection (t : TableComparators) (tables : List (String × TableConfig)) :
    (tables.foldl addSection t).fallback? = t.fallback? ∧
      (tables.foldl addSection t).defaults? = t.defaults? := by
  induction tables generalizing t with
  | nil => exact ⟨rfl, rfl⟩
  | cons e tables ih => exact ih (addSection t e)

/-- A column is judged by the last of the sections of its table's key. -/
theorem select_comparators (c : CompareConfig) (table column : String) :
    (c.comparators.source table).select column =
      .rule (c.ruleBy (lastWritten table c.tables) column) := by
  -- The sections change neither the fallback nor the global defaults.
  obtain ⟨hfallback, hdefaults⟩ :=
    foldl_addSection (TableComparators.empty.withDefaults c.defaults) c.tables
  have hfallback' : c.comparators.fallback? = none := hfallback
  have hdefaults' : c.comparators.defaults? = some c.defaults := hdefaults
  rw [TableComparators.select_source, find?_comparators, hfallback', hdefaults', ruleBy]
  have hglobal : (some c.defaults : Option ComparatorDefaults).bind (·.columns? table) = none := rfl
  rw [hglobal, Option.or_none, Option.or_none]
  cases lastWritten table c.tables with
  | none =>
    show CellComparator.rule (c.default?.getD .equality) = _
    rfl
  | some s =>
    show ((s.comparators.columns?.bind (·.find? column)).getD ((s.default?.map .rule).getD
      (.rule (c.default?.getD .equality)))) = _
    rw [s.find?_comparators]
    show _ = CellComparator.rule
      (((lastWritten column s.columns).or s.default?).or c.default? |>.getD .equality)
    cases lastWritten column s.columns with
    | some r => rfl
    | none =>
      cases s.default? with
      | some r => rfl
      | none => rfl

/-- The section of a table is the last one whose name has the key of the table's name. It is the one
of exactly this name, and no section if there is none of this name, provided that no section's name
differs from it in case only. -/
theorem select_comparators_by_section (c : CompareConfig) (table column : String) :
    (c.comparators.source table).select column =
      .rule (c.ruleBy (lastWritten table c.tables) column) ∧
    ((c.tables.map (·.1)).Nodup →
      (∀ e ∈ c.tables, nameKey e.1 = nameKey table → e.1 = table) →
      (c.comparators.source table).select column =
        .rule (c.ruleBy (c.tables.lookup table) column)) := by
  refine ⟨c.select_comparators table column, fun hnodup hname => ?_⟩
  rw [c.select_comparators, lastWritten_eq_lookup hnodup hname]

/-- Where table names are told apart by case, a section `t` still judges the table `T`, whether `T`
has a section of its own or not. -/
theorem select_comparators_other_case :
    let own : TableConfig := ⟨some .ignore, [], []⟩
    let both : CompareConfig :=
      { empty with caseSensitiveTables := true, tables := [("T", own), ("t", .empty)] }
    let other : CompareConfig :=
      { empty with caseSensitiveTables := true, tables := [("t", own)] }
    both.caseSensitiveTables = true ∧ both.tables.lookup "T" = some own ∧
    (both.comparators.source "T").select "A" ≠ .rule (both.ruleBy (some own) "A") ∧
    other.caseSensitiveTables = true ∧ other.tables.lookup "T" = none ∧
    (other.comparators.source "T").select "A" ≠ .rule (other.ruleBy none "A") := by
  intro own both other
  have hboth : both.ruleBy (lastWritten "T" both.tables) "A" = .equality := by decide
  have hother : other.ruleBy (lastWritten "T" other.tables) "A" = .ignore := by decide
  refine ⟨rfl, rfl, ?_, rfl, rfl, ?_⟩
  · rw [select_comparators, hboth]
    intro h
    exact absurd (CellComparator.rule.inj h) (by decide)
  · rw [select_comparators, hother]
    intro h
    exact absurd (CellComparator.rule.inj h) (by decide)

/-- The entry of the table's own section, written in another case, beside a section of another
name. -/
theorem select_comparators_by_section_own :
    let c : CompareConfig :=
      { empty with
        caseSensitiveTables := true
        tables := [("S", ⟨some .ignore, [], []⟩), ("t", ⟨none, [("b", .trimmed)], []⟩)] }
    (c.tables.map (·.1)).Nodup ∧
    (∀ e ∈ c.tables, nameKey e.1 = nameKey "t" → e.1 = "t") ∧
    (c.comparators.source "t").select "B" = .rule .trimmed := by
  intro c
  have hnodup : (c.tables.map (·.1)).Nodup := by decide
  have hname : ∀ e ∈ c.tables, nameKey e.1 = nameKey "t" → e.1 = "t" := by decide
  have hrule : c.ruleBy (c.tables.lookup "t") "B" = .trimmed := by decide
  refine ⟨hnodup, hname, ?_⟩
  rw [(select_comparators_by_section c "t" "B").2 hnodup hname, hrule]

/-! ## The exclusions of sections -/

/-- The texts of all exclusions. -/
def exclusions (c : CompareConfig) : List String :=
  c.exclude ++ c.tables.flatMap fun e => e.2.exclude.map fun p => e.1 ++ "." ++ p

theorem foldl_section (f : PatternFilter) (tables : List (String × TableConfig)) :
    tables.foldl (fun f (name, section_) =>
        section_.exclude.foldl (fun f pattern => f.addExclude (name ++ "." ++ pattern)) f) f =
      (tables.flatMap fun e => e.2.exclude.map fun p => e.1 ++ "." ++ p).foldl
        PatternFilter.addExclude f := by
  rw [List.foldl_flatMap]
  simp only [List.foldl_map]

theorem columnFilter_eq (c : CompareConfig) :
    c.columnFilter = ⟨[], c.exclusions.map ColumnPattern.ofText⟩ := by
  unfold columnFilter PatternFilter.excluding exclusions
  rw [foldl_section, ← List.foldl_append, PatternFilter.foldl_addExclude]
  rfl

theorem accepts_columnFilter (c : CompareConfig) (table : String) (column : Column) :
    c.columnFilter.accepts table column =
      !c.exclusions.any fun p => (ColumnPattern.ofText p).isMatch table column.name := by
  rw [columnFilter_eq]
  unfold PatternFilter.accepts
  rw [List.any_map]
  rfl

section Own

variable {c : CompareConfig} {before after : List (String × TableConfig)} {name p : String}
  {own : TableConfig} {l r : List String}

/-- One exclusion of a section rejects what its pattern matches, beside what the others reject. -/
theorem accepts_columnFilter_cons (htables : c.tables = before ++ (name, own) :: after)
    (hexclude : own.exclude = l ++ p :: r) (table : String) (column : Column) :
    c.columnFilter.accepts table column =
      (({ c with tables := before ++ (name, { own with exclude := l ++ r }) :: after } :
          CompareConfig).columnFilter.accepts table column &&
        !(ColumnPattern.ofText (name ++ "." ++ p)).isMatch table column.name) := by
  rw [accepts_columnFilter, accepts_columnFilter]
  unfold exclusions
  rw [htables]
  simp only [List.flatMap_append, List.flatMap_cons, hexclude, List.map_append, List.map_cons,
    List.any_append, List.any_cons, Bool.not_or]
  ac_rfl

/-- A name is longer than what stands before its first dot. -/
theorem not_sameIgnoringAsciiCase_of_append {table first rest : String}
    (h : sameIgnoringAsciiCase table (first ++ "." ++ rest) = true) :
    sameIgnoringAsciiCase table first = false := by
  have hname : Text.lowerAscii table.toList = Text.lowerAscii (first ++ "." ++ rest).toList :=
    beq_iff_eq.mp h
  apply beq_eq_false_iff_ne.mpr
  intro hfirst
  have hlength := congrArg List.length (hfirst.symm.trans hname)
  unfold Text.lowerAscii at hlength
  rw [List.length_map, List.length_map] at hlength
  simp at hlength

/-- An exclusion of a section applies to the columns of the section's table, provided that the name
has no dot. With a dot, it applies to other columns, those of the table whose name stands before the
first dot, or of all tables where nothing stands there. -/
theorem accepts_columnFilter_own (htables : c.tables = before ++ (name, own) :: after)
    (hexclude : own.exclude = l ++ p :: r) (hempty : name ≠ "")
    (hname : ColumnPattern.Literal name.toList) (hp : ColumnPattern.NoPlainDot p.toList)
    {table : String} (htable : ∀ d ∈ table.toList, d.toNat < 0x80) (column : Column) :
    let others : CompareConfig :=
      { c with tables := before ++ (name, { own with exclude := l ++ r }) :: after }
    ('.' ∉ name.toList →
      c.columnFilter.accepts table column = (others.columnFilter.accepts table column &&
        !(sameIgnoringAsciiCase table name &&
          (ColumnPattern.ofText p).isMatch table column.name))) ∧
    (∀ first rest, name = first ++ "." ++ rest → '.' ∉ first.toList →
      c.columnFilter.accepts table column = (others.columnFilter.accepts table column &&
        !(if first = "" then
            (ColumnPattern.partGlob (name ++ "." ++ p).toList).isMatch column.name.toList
          else sameIgnoringAsciiCase table first &&
            (ColumnPattern.partGlob (rest ++ "." ++ p).toList).isMatch column.name.toList)) ∧
      (first ≠ "" → sameIgnoringAsciiCase table name →
        c.columnFilter.accepts table column = others.columnFilter.accepts table column)) := by
  intro others
  have hall := accepts_columnFilter_cons htables hexclude table column
  refine ⟨fun hdot => ?_, fun first rest hsplit hdot => ?_⟩
  · -- The first plain dot of the pattern is the one behind the name.
    rw [hall, ColumnPattern.isMatch_append hname hdot, if_neg hempty,
      hname.isMatch_partGlob htable, ColumnPattern.isMatch_of_noPlainDot hp]
    rfl
  · -- The first plain dot of the pattern is one of the name, whose rest goes to the column part.
    have hfirst : ColumnPattern.Literal first.toList := by
      intro d hd
      apply hname
      rw [hsplit]
      simp [hd]
    have hassoc : name ++ "." ++ p = first ++ "." ++ (rest ++ "." ++ p) := by
      rw [hsplit]
      simp [String.append_assoc]
    have hmatch := ColumnPattern.isMatch_append hfirst hdot (rest ++ "." ++ p) table column.name
    rw [← hassoc, hfirst.isMatch_partGlob htable] at hmatch
    refine ⟨?_, fun hne hsame => ?_⟩
    · rw [hall, hmatch]
      rfl
    have hother : sameIgnoringAsciiCase table first = false :=
      not_sameIgnoringAsciiCase_of_append (hsplit ▸ hsame)
    rw [hall, hmatch, if_neg hne]
    show (_ && !(sameIgnoringAsciiCase table first && _)) = _
    rw [hother, Bool.false_and, Bool.not_false, Bool.and_true]

/-- The exclusions of `orders.v1` leave out columns of `orders` in place of its own. -/
theorem accepts_columnFilter_dotted :
    let c : CompareConfig := { empty with tables := [("orders.v1", ⟨none, [], ["NOTE"]⟩)] }
    ColumnPattern.Literal "orders.v1".toList ∧ ColumnPattern.NoPlainDot "NOTE".toList ∧
    (ColumnPattern.ofText "NOTE").isMatch "orders.v1" "NOTE" = true ∧
    c.columnFilter.accepts "orders.v1" (.untyped "NOTE") = true ∧
    sameIgnoringAsciiCase "orders" "orders.v1" = false ∧
    c.columnFilter.accepts "orders" (.untyped "v1.NOTE") = false := by
  decide +kernel

/-- A column that is left out of one table and kept in another one. -/
theorem accepts_columnFilter_own_orders :
    let c : CompareConfig :=
      { empty with exclude := ["id"], tables := [("orders", ⟨none, [], ["n?te", "*_ts"]⟩)] }
    let column := Column.untyped "LOADED_TS"
    ColumnPattern.Literal "orders".toList ∧ ColumnPattern.NoPlainDot "*_ts".toList ∧
    c.columnFilter.accepts "ORDERS" column = false ∧
    c.columnFilter.accepts "customers" column = true := by
  intro c column
  have hname : ColumnPattern.Literal "orders".toList := by decide
  have hp : ColumnPattern.NoPlainDot "*_ts".toList := by decide
  have hsection : c.tables = [] ++ ("orders", ⟨none, [], ["n?te", "*_ts"]⟩) :: [] := rfl
  have hexclude : ["n?te", "*_ts"] = ["n?te"] ++ "*_ts" :: [] := rfl
  have hown (table : String) (htable : table.toList.all (·.toNat < 0x80) = true) :=
    (accepts_columnFilter_own hsection hexclude (by decide) hname hp
      (fun d hd => of_decide_eq_true (List.all_eq_true.mp htable d hd)) column).1 (by decide)
  refine ⟨hname, hp, ?_, ?_⟩
  · rw [hown "ORDERS" (by decide)]
    decide +kernel
  · rw [hown "customers" (by decide)]
    decide +kernel

end Own

end CompareConfig

end TableDiff
