import Mathlib
import TableDiff.Proofs.Comparison.Datasets

/-!
# Datasets that list tables which they do not have

A dataset lists names, and a lookup of a name that it lists may still fail. The expected names are
gone through in turn: the tables that both datasets list are looked up and compared, and the first
error ends the comparison. But where the names of the datasets differ, a table that the actual
dataset lists and does not have is passed over, as if it were not listed.
-/

namespace TableDiff

/-! ## Names in turn -/

/-- Names that are listed in the order of their keys stay in it. -/
theorem sortedTableNames_of_increasing {d : Dataset} {caseSensitive : Bool}
    (h : (d.tableNames.map (tableKey caseSensitive)).Pairwise (· ≤ ·)) :
    sortedTableNames d caseSensitive =
      d.tableNames.map fun name => ⟨tableKey caseSensitive name, name⟩ := by
  refine List.mergeSort_of_pairwise ?_
  rw [List.pairwise_map] at h ⊢
  simpa using h

/-- The first name of a dataset that has the key of an expected one. -/
def Dataset.partner? (d : Dataset) (caseSensitive : Bool) (wanted : TableName) : Option TableName :=
  (sortedTableNames d caseSensitive).find? (·.key == wanted.key)

/-- Whether two datasets list different keys. -/
def Dataset.namesDiffer (e d : Dataset) (caseSensitive : Bool) : Bool :=
  (sortedTableNames e caseSensitive).map (·.key) != (sortedTableNames d caseSensitive).map (·.key)

section Names

variable (e d : Dataset) (source : ComparatorSource) (options : CompareOptions)

/-- What is found for an expected name. -/
def nameFindings (wanted : TableName) : Findings Unit :=
  match actualTable d (sortedTableNames d options.caseSensitiveTables) wanted with
  | .error x =>
    match x, e.namesDiffer d options.caseSensitiveTables with
    | .noSuchTable _, true => pure ()
    | x, _ => Reporting.fail x
  | .ok a => do
    let t ← Reporting.ofExcept (e.table wanted.name)
    compareTable (.ofTables t a) (source wanted.name) options

/-- A lookup that is passed over: the actual dataset lists the name, but has no table for it. -/
def PassedOver (found : TableName) : Prop :=
  e.namesDiffer d options.caseSensitiveTables = true ∧
    ∃ name, d.table found.name = .error (.noSuchTable name)

/-- The tables of two names are there and are compared to the end, and the failures of that are
among those of the whole, in one piece. A table that both datasets hand out is compared with
itself. -/
def Compared (failures : List Failure) (wanted found : TableName) : Prop :=
  ∃ t a part, e.table wanted.name = .ok t ∧ d.table found.name = .ok a ∧
    Reporter.Run.collect (compareTable (.ofTables t a) (source wanted.name) options) = .ok part ∧
    part <:+: failures

end Names

variable {e d : Dataset} {source : ComparatorSource} {options : CompareOptions}

theorem compareTablesOf_eq_forM (names : List TableName) :
    (compareTablesOf e d (sortedTableNames d options.caseSensitiveTables)
        (e.namesDiffer d options.caseSensitiveTables) source options names : Findings Unit) =
      forM names (nameFindings e d source options) := by
  induction names with
  | nil => rfl
  | cons wanted rest ih =>
    rw [List.forM_cons, ← ih, compareTablesOf]
    unfold nameFindings
    cases actualTable d (sortedTableNames d options.caseSensitiveTables) wanted with
    | error x =>
      cases x with
      | noSuchTable name =>
        cases e.namesDiffer d options.caseSensitiveTables with
        | false => rfl
        | true =>
          dsimp only
          rw [pure_bind]
      | _ => rfl
    | ok a =>
      dsimp only
      rw [bind_assoc]

theorem compareDatasets_eq_forM :
    (compareDatasets (.distinct e d) source options : Findings Unit) =
      compareTableNames (sortedTableNames e options.caseSensitiveTables)
          (sortedTableNames d options.caseSensitiveTables) >>= fun _ =>
        forM (sortedTableNames e options.caseSensitiveTables)
          (nameFindings e d source options) := by
  unfold compareDatasets
  dsimp only
  rw [← compareTablesOf_eq_forM]
  rfl

theorem actualTable_of_partner {wanted found : TableName}
    (hfound : d.partner? options.caseSensitiveTables wanted = some found) :
    actualTable d (sortedTableNames d options.caseSensitiveTables) wanted =
      d.table found.name := by
  unfold Dataset.partner? at hfound
  unfold actualTable
  rw [hfound]

/-- A name with a partner on which the comparison does not end is passed over or compared. -/
theorem passedOver_or_compared {wanted found : TableName} {failures : List Failure}
    (hfound : d.partner? options.caseSensitiveTables wanted = some found)
    (hok : (nameFindings e d source options wanted).outcome = .ok ())
    (hpart : (nameFindings e d source options wanted).differences.map Difference.toFailure <:+:
      failures) :
    PassedOver e d options found ∨ Compared e d source options failures wanted found := by
  unfold nameFindings at hok hpart
  rw [actualTable_of_partner hfound] at hok hpart
  cases ha : d.table found.name with
  | error x =>
    rw [ha] at hok
    cases x with
    | noSuchTable name =>
      -- Only this error is let pass, and only where the names differ.
      cases hdiffer : e.namesDiffer d options.caseSensitiveTables with
      | false => simp [hdiffer] at hok
      | true => exact .inl ⟨hdiffer, name, ha⟩
    | _ => simp at hok
  | ok a =>
    rw [ha] at hok hpart
    dsimp only at hok hpart
    cases ht : e.table wanted.name with
    | error x => simp [ht] at hok
    | ok t =>
      rw [ht, Findings.ofExcept_eq, Findings.ok_bind] at hok hpart
      have hcollect : Reporter.Run.collect
          (compareTable (.ofTables t a) (source wanted.name) options) = _ :=
        Reporter.collect_carryOut (.tables (.ofTables t a) (source wanted.name) options)
      refine .inr ⟨t, a, _, ht, ha, ?_, hpart⟩
      rw [hcollect]
      change Except.map _ (compareTable (.ofTables t a) (source wanted.name) options :
        Findings Unit).outcome = _
      rw [hok]
      rfl

/-! ## Comparisons of datasets -/

section Reporters

variable {σ : Type}

/-- If the comparison comes to its end, the tables of every expected name with a partner have been
compared. -/
def ComparesListed (r : Reporter σ) (s : σ) (e d : Dataset) (source : ComparatorSource)
    (options : CompareOptions) : Prop :=
  ∀ s', (compareDatasets (.distinct e d) source options : Reporter.Run σ Unit) r s = (s', .ok ()) →
    ∃ failures, s' = r.hear s failures ∧
      ∀ wanted ∈ sortedTableNames e options.caseSensitiveTables, ∀ found,
        d.partner? options.caseSensitiveTables wanted = some found →
          Compared e d source options failures wanted found

variable {r : Reporter σ}

/-- Under a reporter without refusals the expected names are gone through in turn, after the names
themselves were compared. -/
theorem exists_run_eq_forM (hr : r.Collecting) (s : σ) (e d : Dataset) (source : ComparatorSource)
    (options : CompareOptions) :
    ∃ names : List Difference,
      (compareDatasets (.distinct e d) source options : Reporter.Run σ Unit) r s =
        (r.hear s ((names ++ (forM (sortedTableNames e options.caseSensitiveTables)
            (nameFindings e d source options)).differences).map Difference.toFailure),
          (forM (sortedTableNames e options.caseSensitiveTables)
            (nameFindings e d source options)).outcome) := by
  let comparison : Comparison := .datasets (.distinct e d) source options
  obtain ⟨names, hfindings⟩ : ∃ names, (comparison.carryOut : Findings Unit) =
      ⟨names ++ (forM (sortedTableNames e options.caseSensitiveTables)
          (nameFindings e d source options)).differences,
        (forM (sortedTableNames e options.caseSensitiveTables)
          (nameFindings e d source options)).outcome⟩ := by
    change ∃ names, (compareDatasets (.distinct e d) source options : Findings Unit) = _
    rw [compareDatasets_eq_forM, compareTableNames_eq, Findings.ok_bind]
    exact ⟨_, rfl⟩
  refine ⟨names, ?_⟩
  change (comparison.carryOut : Reporter.Run σ Unit) r s = _
  rw [Reporter.carryOut_of_collecting hr, hfindings]

/-- A comparison that comes to its end has passed over or compared every table that both datasets
list. -/
theorem passedOver_or_compared_of_run (hr : r.Collecting) {s s' : σ}
    (hok : (compareDatasets (.distinct e d) source options : Reporter.Run σ Unit) r s =
      (s', .ok ())) :
    ∃ failures, s' = r.hear s failures ∧
      ∀ wanted ∈ sortedTableNames e options.caseSensitiveTables, ∀ found,
        d.partner? options.caseSensitiveTables wanted = some found →
          PassedOver e d options found ∨
            Compared e d source options failures wanted found := by
  obtain ⟨names, hrun⟩ := exists_run_eq_forM hr s e d source options
  rw [hrun, Prod.mk.injEq] at hok
  obtain ⟨hheard, houtcome⟩ := hok
  refine ⟨_, hheard.symm, fun wanted hwanted found hpartner => ?_⟩
  obtain ⟨hall, hfound⟩ := Findings.forM_eq_ok_iff.mp
    (show forM _ (nameFindings e d source options) = ⟨_, .ok ()⟩ by rw [← houtcome])
  have hpiece : (nameFindings e d source options wanted).differences <:+:
      (forM (sortedTableNames e options.caseSensitiveTables)
        (nameFindings e d source options)).differences := by
    rw [hfound, List.flatMap_def]
    exact List.infix_of_mem_flatten (List.mem_map_of_mem hwanted)
  exact passedOver_or_compared hpartner (hall wanted hwanted)
    ((hpiece.trans (List.suffix_append names _).isInfix).map _)

/-- Under a reporter that refuses nothing, a comparison of datasets that comes to its end has passed
over or compared every table that both list, and one that does not ends with the first error of an
expected name, in the order of the keys. So all listed tables are compared exactly if none of them
is passed over, or if the comparison ends with another error. -/
theorem compareDatasets_listed (hr : r.Collecting) (s : σ) (e d : Dataset)
    (source : ComparatorSource) (options : CompareOptions) :
    let run := (compareDatasets (.distinct e d) source options : Reporter.Run σ Unit) r s
    let listed := sortedTableNames e options.caseSensitiveTables
    (∀ s', run = (s', .ok ()) → ∃ failures, s' = r.hear s failures ∧
      ∀ wanted ∈ listed, ∀ found, d.partner? options.caseSensitiveTables wanted = some found →
        PassedOver e d options found ∨ Compared e d source options failures wanted found) ∧
    (∀ x, (∃ s', run = (s', .error x)) ↔
      ∃ before wanted after, listed = before ++ wanted :: after ∧
        (∀ name ∈ before, (nameFindings e d source options name).outcome = .ok ()) ∧
        (nameFindings e d source options wanted).outcome = .error x) ∧
    (ComparesListed r s e d source options ↔
      (∃ s' x, run = (s', .error x)) ∨
        ∀ wanted ∈ listed, ∀ found, d.partner? options.caseSensitiveTables wanted = some found →
          ¬ PassedOver e d options found) := by
  intro run listed
  refine ⟨fun s' hok => passedOver_or_compared_of_run hr hok, fun x => ?_, ?_, ?_⟩
  · obtain ⟨names, hrun⟩ := exists_run_eq_forM hr s e d source options
    rw [← Findings.outcome_forM_eq_error_iff]
    constructor
    · rintro ⟨s', herror⟩
      exact (Prod.mk.inj (hrun.symm.trans herror)).2
    · intro herror
      exact ⟨_, hrun.trans (Prod.ext rfl herror)⟩
  · intro hcompares
    rcases hresult : run with ⟨s', ⟨x⟩ | ⟨⟩⟩
    · exact .inl ⟨s', x, rfl⟩
    · -- A table that was compared was found, so it was not passed over.
      obtain ⟨failures, -, hlisted⟩ := hcompares s' hresult
      refine .inr fun wanted hwanted found hpartner => ?_
      rintro ⟨-, name, hmissing⟩
      obtain ⟨t, a, part, -, ha, -⟩ := hlisted wanted hwanted found hpartner
      simp [hmissing] at ha
  · rintro (⟨s'', x, herror⟩ | hnone) s' hok
    · have hboth : run = (s', .ok ()) := hok
      simp [herror] at hboth
    · obtain ⟨failures, hheard, hlisted⟩ := passedOver_or_compared_of_run hr hok
      refine ⟨failures, hheard, fun wanted hwanted found hpartner => ?_⟩
      exact (hlisted wanted hwanted found hpartner).resolve_left
        (hnone wanted hwanted found hpartner)

/-- The names differ, but the table that both datasets list is there. -/
theorem compareDatasets_listed_found :
    let t : MemoryTable := ⟨"A", [.untyped "X"], #[[some (.text "1")]], by simp⟩
    let u : MemoryTable := ⟨"A", [.untyped "X"], #[[some (.text "2")]], by simp⟩
    let e : Dataset := ⟨["A"], fun _ => .ok t.toTable⟩
    let d : Dataset := ⟨["A", "B"], fun _ => .ok u.toTable⟩
    e.namesDiffer d false = true ∧ Reporter.collectAll.Collecting ∧
      ComparesListed Reporter.collectAll #[] e d TableComparators.empty.source .default := by
  intro t u e d
  have hdiffer : e.namesDiffer d false = true := by
    unfold Dataset.namesDiffer
    rw [sortedTableNames_of_increasing (by decide), sortedTableNames_of_increasing (by decide)]
    decide
  refine ⟨hdiffer, Reporter.collecting_collectAll, ?_⟩
  have hlisted := compareDatasets_listed Reporter.collecting_collectAll #[] e d
    TableComparators.empty.source .default
  refine hlisted.2.2.mpr (.inr fun wanted _ found _ => ?_)
  rintro ⟨-, name, hmissing⟩
  simp [d] at hmissing

/-- The table that both datasets list is not there, and the comparison comes to its end without
it. -/
theorem compareDatasets_listed_missing :
    let t : MemoryTable := ⟨"A", [.untyped "X"], #[[some (.text "1")]], by simp⟩
    let e : Dataset := (MemoryDataset.ofTables false [t] (by simp)).toDataset
    let d : Dataset := ⟨["A", "B"], fun name => .error (.noSuchTable name)⟩
    Assertion.default.collectDatasets (.distinct e d) =
        .ok ([.tableCount 1 2, .tables ["A"] ["A", "B"]].map Difference.toFailure) ∧
      d.partner? false ⟨"A", "A"⟩ = some ⟨"A", "A"⟩ ∧
      ¬ ComparesListed Reporter.collectAll #[] e d TableComparators.empty.source .default := by
  intro t e d
  have he : sortedTableNames e false = [⟨"A", "A"⟩] :=
    (sortedTableNames_of_increasing (by decide)).trans (by decide)
  have hd : sortedTableNames d false = [⟨"A", "A"⟩, ⟨"B", "B"⟩] :=
    (sortedTableNames_of_increasing (by decide)).trans (by decide)
  have hpartner : d.partner? false ⟨"A", "A"⟩ = some ⟨"A", "A"⟩ := by
    unfold Dataset.partner?
    rw [hd]
    rfl
  let comparison : Comparison := .datasets (.distinct e d) TableComparators.empty.source .default
  have hfindings : (comparison.carryOut : Findings Unit) =
      ⟨[.tableCount 1 2, .tables ["A"] ["A", "B"]], .ok ()⟩ := by
    change compareTableNames (sortedTableNames e false) (sortedTableNames d false) >>= (fun _ =>
      compareTablesOf e d (sortedTableNames d false) (e.namesDiffer d false)
        TableComparators.empty.source .default (sortedTableNames e false)) = _
    unfold Dataset.namesDiffer
    rw [he, hd]
    rfl
  refine ⟨Assertion.collectDatasets_of_findings hfindings, hpartner, fun hcompares => ?_⟩
  have hrun := Reporter.carryOut_of_collecting Reporter.collecting_collectAll comparison #[]
  rw [hfindings] at hrun
  obtain ⟨failures, -, hlisted⟩ := hcompares _ hrun
  have hwanted : (⟨"A", "A"⟩ : TableName) ∈ sortedTableNames e false := by simp [he]
  obtain ⟨_, a, _, _, htable, -⟩ := hlisted _ hwanted _ hpartner
  simp [d] at htable

end Reporters

end TableDiff
