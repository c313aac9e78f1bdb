import TableDiff.Resolution

/-!
# Which comparator is chosen

Comparators are put together step by step, and a later step may replace what an earlier one wrote.
What a map or a default holds in the end is therefore what was written last, and the comparator of a
column is found by one rule of precedence over what was written last at each level.
-/

namespace TableDiff

/-! ## The last write -/

/-- What a run of steps leaves in a place is what the last step that writes there puts there. -/
theorem foldl_eq_findSomeRev? {σ τ α : Type} (apply : σ → τ → σ) (view : σ → Option α)
    (written : τ → Option α) (hstep : ∀ s x, view (apply s x) = (written x).or (view s))
    (s : σ) (steps : List τ) :
    view (steps.foldl apply s) = (steps.findSomeRev? written).or (view s) := by
  induction steps generalizing s with
  | nil => rfl
  | cons x steps ih =>
    rw [List.foldl_cons, ih, hstep, List.findSomeRev?]
    -- A later step that writes makes the first one irrelevant.
    cases steps.findSomeRev? written with
    | none => rfl
    | some a => rfl

/-- The same from a place in which nothing was written before. -/
theorem foldl_eq_findSomeRev?_of_none {σ τ α : Type} (apply : σ → τ → σ) (view : σ → Option α)
    (written : τ → Option α) (hstep : ∀ s x, view (apply s x) = (written x).or (view s))
    (s : σ) (hs : view s = none) (steps : List τ) :
    view (steps.foldl apply s) = steps.findSomeRev? written := by
  rw [foldl_eq_findSomeRev? apply view written hstep, hs, Option.or_none]

theorem map_findSomeRev? {τ α β : Type} (written : τ → Option α) (f : α → β) (steps : List τ) :
    (steps.findSomeRev? written).map f = steps.findSomeRev? fun x => (written x).map f := by
  rw [List.findSomeRev?_eq_findSome?_reverse, List.findSomeRev?_eq_findSome?_reverse,
    List.map_findSome?]
  rfl

/-- What is written for a name by an entry for it or for another name of its key. -/
def writtenFor {α : Type} (name : String) (e : String × α) : Option α :=
  if nameKey name = nameKey e.1 then some e.2 else none

/-- The value of the last of the entries for a name, in whatever case. -/
def lastWritten {α : Type} (name : String) (entries : List (String × α)) : Option α :=
  entries.findSomeRev? (writtenFor name)

theorem lastWritten_cons {α : Type} (name : String) (e : String × α) (rest : List (String × α)) :
    lastWritten name (e :: rest) = (lastWritten name rest).or (writtenFor name e) := by
  show (match lastWritten name rest with | some a => some a | none => writtenFor name e) = _
  cases lastWritten name rest with
  | none => rfl
  | some a => rfl

theorem lastWritten_map {α β : Type} (f : α → β) (name : String) (entries : List (String × α)) :
    lastWritten name (entries.map fun e => (e.1, f e.2)) = (lastWritten name entries).map f := by
  induction entries with
  | nil => rfl
  | cons e rest ih =>
    rw [List.map_cons, lastWritten_cons, lastWritten_cons, ih, Option.map_or]
    congr 1
    unfold writtenFor
    split <;> rfl

theorem lastWritten_eq_none {α : Type} {name : String} {entries : List (String × α)}
    (h : ∀ e ∈ entries, nameKey e.1 ≠ nameKey name) : lastWritten name entries = none := by
  induction entries with
  | nil => rfl
  | cons e rest ih =>
    have hrest := ih fun d hd => h d (List.mem_cons_of_mem e hd)
    rw [lastWritten_cons, hrest, writtenFor, if_neg fun heq => h e List.mem_cons_self heq.symm]
    rfl

/-- Where each name is there once and none differs from the wanted one in case only, the last entry
of the key is the entry of the name. -/
theorem lastWritten_eq_lookup {α : Type} {name : String} {entries : List (String × α)}
    (hnodup : (entries.map (·.1)).Nodup)
    (hname : ∀ e ∈ entries, nameKey e.1 = nameKey name → e.1 = name) :
    lastWritten name entries = entries.lookup name := by
  induction entries with
  | nil => rfl
  | cons e rest ih =>
    obtain ⟨other, a⟩ := e
    rw [List.map_cons, List.nodup_cons] at hnodup
    have hrest : ∀ d ∈ rest, nameKey d.1 = nameKey name → d.1 = name := fun d hd =>
      hname d (List.mem_cons_of_mem _ hd)
    rw [lastWritten_cons, List.lookup_cons]
    by_cases hkey : nameKey other = nameKey name
    · obtain rfl : other = name := hname _ List.mem_cons_self hkey
      -- No later entry has the key, as it would have the name, too.
      have hnone : lastWritten other rest = none := by
        apply lastWritten_eq_none
        intro d hd hdkey
        have hmem : d.1 ∈ rest.map (·.1) := List.mem_map_of_mem hd
        rw [hrest d hd hdkey] at hmem
        exact hnodup.1 hmem
      rw [hnone, writtenFor, if_pos rfl, beq_self_eq_true]
      rfl
    · have hne : (name == other) = false := beq_eq_false_iff_ne.mpr fun h => hkey (h ▸ rfl)
      rw [ih hnodup.2 hrest, writtenFor, if_neg fun h => hkey h.symm, Option.or_none, hne]

theorem NameMap.find?_insert_eq_or {α : Type} (name : String) (m : NameMap α) (e : String × α) :
    (m.insert e.1 e.2).find? name = (writtenFor name e).or (m.find? name) := by
  rw [find?_insert, writtenFor]
  split <;> rfl

theorem NameMap.find?_ofList {α : Type} (name : String) (entries : List (String × α)) :
    (NameMap.ofList entries).find? name = lastWritten name entries :=
  foldl_eq_findSomeRev?_of_none (fun (m : NameMap α) (e : String × α) => m.insert e.1 e.2)
    (·.find? name) (writtenFor name) (find?_insert_eq_or name) empty (find?_empty name) entries

/-! ## Precedence -/

namespace ColumnComparators

theorem select_eq (s : ColumnComparators) (column : String) :
    s.select column = (s.columns?.bind (·.find? column)).getD (s.default?.getD .equality) := by
  unfold select
  cases s.columns?.bind (·.find? column) with
  | none => rfl
  | some c => rfl

theorem withDefaults_withDefaults (s : ColumnComparators) (table : String)
    (d : ComparatorDefaults) :
    (s.withDefaults table d).withDefaults table d = s.withDefaults table d := by
  unfold withDefaults
  rw [Option.or_assoc, Option.or_self, Option.getD_some]

end ColumnComparators

/-- The column map in force is the table's own one, or else the one of the global defaults. Where it
says nothing the defaults of the levels follow. -/
theorem TableComparators.select_source (t : TableComparators) (table column : String) :
    (t.source table).select column =
      (((t.tables.find? table).bind (·.columns?)).or (t.defaults?.bind (·.columns? table)) |>.bind
        (·.find? column)).getD
        ((((t.tables.find? table).bind (·.default?)).or t.fallback?).getD
          ((t.defaults?.map (·.default)).getD .equality)) := by
  rw [ColumnComparators.select_eq]
  unfold source ColumnComparators.withDefaults
  cases t.tables.find? table with
  | none => cases t.defaults? <;> rfl
  | some own => cases t.defaults? <;> rfl

/-! ## Making comparators step by step -/

/-- A step in the making of the comparators of one table. -/
inductive ColumnStep where
  | default (c : CellComparator)
  | column (name : String) (c : CellComparator)

namespace ColumnStep

def apply (s : ColumnComparators) : ColumnStep → ColumnComparators
  | .default c => s.withDefault c
  | .column name c => s.withColumn name c

/-- The default that the step writes. -/
def default? : ColumnStep → Option CellComparator
  | .default c => some c
  | .column _ _ => none

/-- The entry that the step writes for a column. -/
def entry? (column : String) : ColumnStep → Option CellComparator
  | .default _ => none
  | .column name c => writtenFor column (name, c)

def isColumn : ColumnStep → Bool
  | .default _ => false
  | .column _ _ => true

theorem default?_apply (s : ColumnComparators) (step : ColumnStep) :
    (apply s step).default? = step.default?.or s.default? := by
  cases step with
  | default c => rfl
  | column name c => rfl

theorem find?_apply (column : String) (s : ColumnComparators) (step : ColumnStep) :
    (apply s step).columns?.bind (·.find? column) =
      (step.entry? column).or (s.columns?.bind (·.find? column)) := by
  cases step with
  | default c => rfl
  | column name c =>
    show ((s.columns?.getD .empty).insert name c).find? column = _
    rw [NameMap.find?_insert_eq_or column _ (name, c)]
    -- A missing map is as good as an empty one.
    cases s.columns? with
    | none => rfl
    | some columns => rfl

theorem isSome_columns?_foldl (s : ColumnComparators) (steps : List ColumnStep) :
    (steps.foldl apply s).columns?.isSome = (s.columns?.isSome || steps.any isColumn) := by
  induction steps generalizing s with
  | nil => simp
  | cons step steps ih =>
    rw [List.foldl_cons, ih, List.any_cons]
    cases step with
    | default c => rfl
    | column name c => simp [apply, ColumnComparators.withColumn, isColumn]

end ColumnStep

/-- How the comparators of one table are made: a default and a column map, either of which may be
missing, and then steps. -/
structure ColumnScript where
  default? : Option CellComparator
  columns? : Option (List (String × CellComparator))
  steps : List ColumnStep

namespace ColumnScript

def run (s : ColumnScript) : ColumnComparators :=
  s.steps.foldl ColumnStep.apply (.ofEntries s.default? s.columns?)

/-- The default that was written last. -/
def lastDefault? (s : ColumnScript) : Option CellComparator :=
  (s.steps.findSomeRev? ColumnStep.default?).or s.default?

/-- Whether there is a column map, even one without entries. -/
def hasColumns (s : ColumnScript) : Bool := s.columns?.isSome || s.steps.any ColumnStep.isColumn

/-- The entry for a column that was written last. -/
def lastColumn? (s : ColumnScript) (column : String) : Option CellComparator :=
  (s.steps.findSomeRev? (ColumnStep.entry? column)).or (s.columns?.bind (lastWritten column))

theorem default?_run (s : ColumnScript) : s.run.default? = s.lastDefault? :=
  foldl_eq_findSomeRev? ColumnStep.apply (·.default?) ColumnStep.default? ColumnStep.default?_apply
    _ s.steps

theorem isSome_columns?_run (s : ColumnScript) : s.run.columns?.isSome = s.hasColumns := by
  unfold run hasColumns
  rw [ColumnStep.isSome_columns?_foldl, ColumnComparators.ofEntries, Option.isSome_map]

theorem find?_run (s : ColumnScript) (column : String) :
    s.run.columns?.bind (·.find? column) = s.lastColumn? column := by
  have hgiven : (ColumnComparators.ofEntries s.default? s.columns?).columns?.bind
      (·.find? column) = s.columns?.bind (lastWritten column) := by
    cases s.columns? with
    | none => rfl
    | some entries => exact NameMap.find?_ofList column entries
  unfold run lastColumn?
  rw [← hgiven]
  exact foldl_eq_findSomeRev? ColumnStep.apply (fun s => s.columns?.bind (·.find? column))
    (ColumnStep.entry? column) (ColumnStep.find?_apply column) _ s.steps

end ColumnScript

/-- How global defaults are made: a default comparator, and then column maps for tables. -/
structure DefaultsScript where
  default : CellComparator
  tables : List (String × List (String × CellComparator))

namespace DefaultsScript

def apply (d : ComparatorDefaults) (e : String × List (String × CellComparator)) :
    ComparatorDefaults :=
  d.withTable e.1 e.2

def run (s : DefaultsScript) : ComparatorDefaults := s.tables.foldl apply (.ofDefault s.default)

/-- The entry for a column in the map that was written last for a table. -/
def lastColumn? (s : DefaultsScript) (table column : String) : Option CellComparator :=
  (lastWritten table s.tables).bind (lastWritten column)

theorem default_foldl (d : ComparatorDefaults)
    (tables : List (String × List (String × CellComparator))) :
    (tables.foldl apply d).default = d.default := by
  induction tables generalizing d with
  | nil => rfl
  | cons e tables ih => exact ih (apply d e)

theorem default_run (s : DefaultsScript) : s.run.default = s.default := default_foldl _ s.tables

theorem columns?_apply (table : String) (d : ComparatorDefaults)
    (e : String × List (String × CellComparator)) :
    (apply d e).columns? table =
      ((writtenFor table e).map NameMap.ofList).or (d.columns? table) := by
  show (d.tables.insert e.1 (.ofList e.2)).find? table = _
  rw [NameMap.find?_insert, writtenFor]
  by_cases h : nameKey table = nameKey e.1
  · rw [if_pos h, if_pos h]
    rfl
  · rw [if_neg h, if_neg h]
    rfl

/-- A map for a table replaces an earlier one as a whole. -/
theorem columns?_run (s : DefaultsScript) (table : String) :
    s.run.columns? table = (lastWritten table s.tables).map NameMap.ofList := by
  rw [lastWritten, map_findSomeRev?]
  exact foldl_eq_findSomeRev?_of_none apply (·.columns? table)
    (fun e => (writtenFor table e).map NameMap.ofList) (columns?_apply table)
    (.ofDefault s.default) rfl s.tables

theorem find?_run (s : DefaultsScript) (table column : String) :
    (s.run.columns? table).bind (·.find? column) = s.lastColumn? table column := by
  rw [columns?_run, lastColumn?]
  cases lastWritten table s.tables with
  | none => rfl
  | some columns => exact NameMap.find?_ofList column columns

end DefaultsScript

/-- A step in the making of the comparators of all tables. -/
inductive TableStep where
  | table (name : String) (s : ColumnScript)
  | fallback (c : CellComparator)
  | defaults (s : DefaultsScript)

namespace TableStep

def apply (t : TableComparators) : TableStep → TableComparators
  | .table name s => t.withTable name s.run
  | .fallback c => t.withFallback c
  | .defaults s => t.withDefaults s.run

/-- What the step writes for a table. -/
def table? (table : String) : TableStep → Option ColumnScript
  | .table name s => writtenFor table (name, s)
  | .fallback _ => none
  | .defaults _ => none

def fallback? : TableStep → Option CellComparator
  | .table _ _ => none
  | .fallback c => some c
  | .defaults _ => none

def defaults? : TableStep → Option DefaultsScript
  | .table _ _ => none
  | .fallback _ => none
  | .defaults s => some s

end TableStep

/-- How the comparators of all tables are made, from none on. -/
abbrev TableScript := List TableStep

namespace TableScript

def run (steps : TableScript) : TableComparators := steps.foldl TableStep.apply .empty

/-- The entry for a column in the column map in force: the table's own map, if it has one, and
otherwise that of the global defaults. -/
def entryInForce? (steps : TableScript) (table column : String) : Option CellComparator :=
  let own? := steps.findSomeRev? (TableStep.table? table)
  let defaults? := steps.findSomeRev? TableStep.defaults?
  if own?.any ColumnScript.hasColumns then own?.bind (·.lastColumn? column)
  else defaults?.bind (·.lastColumn? table column)

/-- The comparator by precedence: the entry for the column, the default of the table, the fallback,
the global default, and equality; the first of them that exists. -/
def comparator (steps : TableScript) (table column : String) : CellComparator :=
  let own? := steps.findSomeRev? (TableStep.table? table)
  let defaults? := steps.findSomeRev? TableStep.defaults?
  ((((steps.entryInForce? table column).or (own?.bind ColumnScript.lastDefault?)).or
    (steps.findSomeRev? TableStep.fallback?)).or (defaults?.map (·.default))).getD .equality

theorem find?_run (steps : TableScript) (table : String) :
    steps.run.tables.find? table =
      (steps.findSomeRev? (TableStep.table? table)).map ColumnScript.run := by
  have hstep : ∀ t step, (TableStep.apply t step).tables.find? table =
      ((TableStep.table? table step).map ColumnScript.run).or (t.tables.find? table) := by
    intro t step
    cases step with
    | table name s =>
      show (t.tables.insert name s.run).find? table = _
      rw [NameMap.find?_insert_eq_or table _ (name, s.run), TableStep.table?, writtenFor,
        writtenFor]
      split <;> rfl
    | fallback c => rfl
    | defaults s => rfl
  rw [map_findSomeRev?]
  exact foldl_eq_findSomeRev?_of_none TableStep.apply (·.tables.find? table)
    (fun step => (TableStep.table? table step).map ColumnScript.run) hstep .empty rfl steps

theorem fallback?_run (steps : TableScript) :
    steps.run.fallback? = steps.findSomeRev? TableStep.fallback? := by
  have hstep : ∀ t step, (TableStep.apply t step).fallback? =
      (TableStep.fallback? step).or t.fallback? := by
    intro t step
    cases step <;> rfl
  exact foldl_eq_findSomeRev?_of_none TableStep.apply (·.fallback?) TableStep.fallback? hstep
    .empty rfl steps

theorem defaults?_run (steps : TableScript) :
    steps.run.defaults? = (steps.findSomeRev? TableStep.defaults?).map DefaultsScript.run := by
  have hstep : ∀ t step, (TableStep.apply t step).defaults? =
      ((TableStep.defaults? step).map DefaultsScript.run).or t.defaults? := by
    intro t step
    cases step <;> rfl
  rw [map_findSomeRev?]
  exact foldl_eq_findSomeRev?_of_none TableStep.apply (·.defaults?)
    (fun step => (TableStep.defaults? step).map DefaultsScript.run) hstep .empty rfl steps

/-- A table's own column map hides that of the global defaults, whatever the two say. -/
theorem find?_columns_run (own? : Option ColumnScript) (defaults? : Option DefaultsScript)
    (table column : String) :
    (((own?.map ColumnScript.run).bind (·.columns?)).or
        ((defaults?.map DefaultsScript.run).bind (·.columns? table))).bind (·.find? column) =
      if own?.any ColumnScript.hasColumns then own?.bind (·.lastColumn? column)
      else defaults?.bind (·.lastColumn? table column) := by
  have hglobal : ((defaults?.map DefaultsScript.run).bind (·.columns? table)).bind
      (·.find? column) = defaults?.bind (·.lastColumn? table column) := by
    cases defaults? with
    | none => rfl
    | some d => exact d.find?_run table column
  cases own? with
  | none => exact hglobal
  | some own =>
    show ((own.run.columns?).or _).bind _ = if own.hasColumns then own.lastColumn? column else _
    rw [← own.isSome_columns?_run, ← own.find?_run]
    cases own.run.columns? with
    | none => exact hglobal
    | some columns => rfl

/-- However the comparators of the tables were made, the one for a column is found by precedence
over what was written last; and taking what is missing from the defaults once is enough. -/
theorem select_source_run (steps : TableScript) (table column : String) :
    (steps.run.source table).select column = steps.comparator table column ∧
    ∀ (s : ColumnComparators) (d : ComparatorDefaults),
      (s.withDefaults table d).withDefaults table d = s.withDefaults table d := by
  refine ⟨?_, fun s d => s.withDefaults_withDefaults table d⟩
  rw [TableComparators.select_source, find?_run, fallback?_run, defaults?_run]
  rw [find?_columns_run, comparator, entryInForce?]
  have hdefault : ∀ own? : Option ColumnScript,
      (own?.map ColumnScript.run).bind (·.default?) = own?.bind ColumnScript.lastDefault? := by
    intro own?
    cases own? with
    | none => rfl
    | some own => exact own.default?_run
  have hglobal : ∀ defaults? : Option DefaultsScript,
      (defaults?.map DefaultsScript.run).map (·.default) = defaults?.map (·.default) := by
    intro defaults?
    cases defaults? with
    | none => rfl
    | some d => exact congrArg some d.default_run
  rw [hdefault, hglobal]
  simp only [Option.getD_or]

end TableScript

end TableDiff
