import TableDiff.Proofs.Findings
import TableDiff.Proofs.Simulation

/-!
# Substitution of reporters

A comparison under a reporter (`Reporter.Run`) hands every difference to the reporter where it is
met. Its findings (`Findings`) are met without a reporter. Telling a reporter of the findings comes
to the same, for the whole of a comparison: what is reported does not depend on the answers, and a
refusal ends the comparison at once.
-/

namespace TableDiff

namespace Reporter

variable {σ α β : Type}

/-! ## Telling a reporter of findings -/

/-- Tells a reporter of differences until it refuses one. -/
def tellAll (r : Reporter σ) (s : σ) : List Difference → σ × Except CheckError Unit
  | [] => (s, .ok ())
  | d :: rest =>
    match r s d.toFailure with
    | (s, .ok ()) => tellAll r s rest
    | (s, .error e) => (s, .error e)

/-- Tells a reporter of findings: its first refusal is the result, otherwise their outcome. -/
def tell (r : Reporter σ) (s : σ) (m : Findings α) : σ × Except CheckError α :=
  match tellAll r s m.differences with
  | (s, .ok ()) => (s, m.outcome)
  | (s, .error e) => (s, .error e)

/-- The run in which a reporter is told of findings. -/
def told (m : Findings α) : Run σ α := fun r s => r.tell s m

theorem tellAll_append (r : Reporter σ) (s : σ) (ds es : List Difference) :
    r.tellAll s (ds ++ es) =
      match r.tellAll s ds with
      | (s, .ok ()) => r.tellAll s es
      | (s, .error e) => (s, .error e) := by
  induction ds generalizing s with
  | nil => rfl
  | cons d ds ih =>
    simp only [List.cons_append, tellAll]
    split
    · exact ih _
    · rfl

theorem told_pure (a : α) : told (pure a) = (pure a : Run σ α) := rfl

theorem told_fail (e : CheckError) :
    told (Reporting.fail e : Findings α) = (Reporting.fail e : Run σ α) := rfl

theorem told_report (d : Difference) :
    told (Reporting.report d) = (Reporting.report d : Run σ Unit) := by
  funext r s
  show r.tell s ⟨[d], .ok ()⟩ = r s d.toFailure
  simp only [tell, tellAll]
  rcases r s d.toFailure with ⟨s, _ | _⟩ <;> rfl

theorem run_bind (m : Run σ α) (f : α → Run σ β) (r : Reporter σ) (s : σ) :
    (m >>= f : Run σ β) r s =
      match m r s with
      | (s, .ok a) => f a r s
      | (s, .error e) => (s, .error e) := rfl

/-- What follows findings is told after them, and not at all after a refusal. -/
theorem told_bind (m : Findings α) (f : α → Findings β) :
    told (m >>= f) = (told m >>= fun a => told (f a) : Run σ β) := by
  funext r s
  obtain ⟨ds, o⟩ := m
  rw [run_bind]
  cases o with
  | error e =>
    -- Nothing follows an error, on either side.
    rw [Findings.error_bind]
    simp only [told, tell]
    rcases r.tellAll s ds with ⟨s, _ | _⟩ <;> rfl
  | ok a =>
    rw [Findings.ok_bind]
    simp only [told, tell, tellAll_append]
    rcases r.tellAll s ds with ⟨s, _ | _⟩ <;> rfl

/-- Telling goes through a comparison part by part. -/
theorem told_bind_congr {m : Findings α} {n : Run σ α} {f : α → Findings β} {g : α → Run σ β}
    (hm : told m = n) (hf : ∀ a, told (f a) = g a) : told (m >>= f) = n >>= g := by
  rw [told_bind, hm]
  congr 1
  funext a
  exact hf a

theorem tellAll_collectAll (kept : Array Failure) (ds : List Difference) :
    collectAll.tellAll kept ds = (kept ++ (ds.map Difference.toFailure).toArray, .ok ()) := by
  induction ds generalizing kept with
  | nil => simp [tellAll]
  | cons d ds ih =>
    simp only [tellAll, collectAll]
    rw [ih]
    simp

/-- Collecting keeps everything that is found. -/
theorem collect_told (m : Findings Unit) :
    Run.collect (told m) = m.outcome.map fun _ => m.differences.map Difference.toFailure := by
  unfold Run.collect told tell
  rw [tellAll_collectAll]
  cases m.outcome with
  | error e => rfl
  | ok u => simp [Except.map]

/-! ## Comparisons -/

-- Findings and the runs in which they are told: every report answers itself.
def telling : Reporting.Simulation Findings (Run σ) where
  rel m n := told m = n
  reported d d' := d = d'
  rel_pure := told_pure
  rel_bind hm hf := told_bind_congr hm hf
  rel_report h := h ▸ told_report _
  rel_fail := told_fail

theorem telling_shows (names : List String) :
    (telling : Reporting.Simulation Findings (Run σ)).Shows names names :=
  ⟨fun _ _ _ _ _ _ _ _ => rfl, fun _ _ => rfl⟩

theorem told_align (sides : Sides Table) (filter : ColumnFilter) (policy : RowCountPolicy) :
    told (Alignment.align sides filter policy) =
      (Alignment.align sides filter policy : Run σ Alignment) :=
  Reporting.Simulation.rel_align (telling_shows []) sides filter policy

theorem told_compareRows (w : RowWalk) (e a : Table) :
    told (w.compareRows e a) = (w.compareRows e a : Run σ Nat) :=
  Reporting.Simulation.rel_compareRows (telling_shows w.additional) w e a

theorem told_compareTable (sides : Sides Table) (comparators : ColumnComparators)
    (options : CompareOptions) :
    told (compareTable sides comparators options) =
      (compareTable sides comparators options : Run σ Unit) :=
  Reporting.Simulation.rel_compareTable (telling_shows options.additional) sides comparators options

theorem collect_compareTable {sides : Sides Table} {comparators : ColumnComparators}
    {options : CompareOptions} {differences : List Difference}
    (h : (compareTable sides comparators options : Findings Unit) = ⟨differences, .ok ()⟩) :
    Run.collect (compareTable sides comparators options) =
      .ok (differences.map Difference.toFailure) := by
  rw [← told_compareTable, h, collect_told]
  rfl

theorem told_compareDatasets (sides : Sides Dataset) (source : ComparatorSource)
    (options : CompareOptions) :
    told (compareDatasets sides source options) =
      (compareDatasets sides source options : Run σ Unit) :=
  Reporting.Simulation.rel_compareDatasets (telling_shows options.additional) sides source options

theorem collect_compareDatasets {sides : Sides Dataset} {source : ComparatorSource}
    {options : CompareOptions} {differences : List Difference}
    (h : (compareDatasets sides source options : Findings Unit) = ⟨differences, .ok ()⟩) :
    Run.collect (compareDatasets sides source options) =
      .ok (differences.map Difference.toFailure) := by
  rw [← told_compareDatasets, h, collect_told]
  rfl

end Reporter

/-- What is compared: two tables under the comparators for them, or two datasets. -/
inductive Comparison where
  | tables (sides : Sides Table) (comparators : ColumnComparators) (options : CompareOptions)
  | datasets (sides : Sides Dataset) (source : ComparatorSource) (options : CompareOptions)

/-- Carries a comparison out. -/
def Comparison.carryOut {m : Type → Type} [Reporting m] : Comparison → m Unit
  | .tables sides comparators options => compareTable sides comparators options
  | .datasets sides source options => compareDatasets sides source options

namespace Reporter

variable {σ : Type}

/-- A comparison under a reporter is its findings told to the reporter. -/
theorem carryOut_eq_tell (c : Comparison) (r : Reporter σ) (s : σ) :
    (c.carryOut : Run σ Unit) r s = r.tell s c.carryOut := by
  cases c with
  | tables sides comparators options =>
    exact (congrFun (congrFun (told_compareTable sides comparators options) r) s).symm
  | datasets sides source options =>
    exact (congrFun (congrFun (told_compareDatasets sides source options) r) s).symm

/-- Collecting a comparison comes to what the comparison finds. -/
theorem collect_carryOut (c : Comparison) :
    Run.collect c.carryOut = (c.carryOut : Findings Unit).outcome.map fun _ =>
      (c.carryOut : Findings Unit).differences.map Difference.toFailure := by
  rw [← collect_told]
  congr 1
  funext r s
  exact carryOut_eq_tell c r s

/-! ## Reporters without refusals -/

/-- A reporter that refuses no failure. -/
def Collecting (r : Reporter σ) : Prop := ∀ s f, (r s f).2 = .ok ()

/-- The state of a reporter that has heard failures. -/
def hear (r : Reporter σ) (s : σ) (failures : List Failure) : σ :=
  failures.foldl (fun s f => (r s f).1) s

theorem collecting_collectAll : collectAll.Collecting := fun _ _ => rfl

theorem tellAll_of_collecting {r : Reporter σ} (hr : r.Collecting) (s : σ)
    (ds : List Difference) : r.tellAll s ds = (r.hear s (ds.map Difference.toFailure), .ok ()) := by
  induction ds generalizing s with
  | nil => rfl
  | cons d ds ih =>
    have hanswer : r s d.toFailure = ((r s d.toFailure).1, .ok ()) := Prod.ext rfl (hr s _)
    unfold tellAll
    rw [hanswer]
    exact ih _

theorem told_of_collecting {α : Type} {r : Reporter σ} (hr : r.Collecting) (m : Findings α)
    (s : σ) : told m r s = (r.hear s (m.differences.map Difference.toFailure), m.outcome) := by
  unfold told tell
  rw [tellAll_of_collecting hr]

/-- A comparison under a reporter without refusals has the outcome that its findings have, and the
reporter hears all of them. -/
theorem carryOut_of_collecting {r : Reporter σ} (hr : r.Collecting) (c : Comparison) (s : σ) :
    (c.carryOut : Run σ Unit) r s =
      (r.hear s ((c.carryOut : Findings Unit).differences.map Difference.toFailure),
        (c.carryOut : Findings Unit).outcome) := by
  rw [carryOut_eq_tell]
  exact told_of_collecting hr _ s

/-! ## Answers -/

/-- The reporter that remembers what it is told, and answers by all of it. -/
def answering (answer : List Failure → Except CheckError Unit) : Reporter (List Failure) :=
  fun heard f => (heard ++ [f], answer (heard ++ [f]))

theorem tell_failFast (m : Findings Unit) :
    failFast.tell () m = ((), match m.differences.map Difference.toFailure with
      | [] => m.outcome
      | f :: _ => .error (.failure f)) := by
  obtain ⟨ds, outcome⟩ := m
  cases ds with
  | nil => rfl
  | cons d ds => rfl

/-- Without a refusal everything is heard. -/
theorem tellAll_answering_of_accepts (answer : List Failure → Except CheckError Unit)
    (held : List Failure) (ds : List Difference)
    (haccepts : ∀ i < ds.length,
      answer (held ++ (ds.map Difference.toFailure).take (i + 1)) = .ok ()) :
    (answering answer).tellAll held ds = (held ++ ds.map Difference.toFailure, .ok ()) := by
  induction ds generalizing held with
  | nil => simp [tellAll]
  | cons d ds ih =>
    have hfirst : answer (held ++ [d.toFailure]) = .ok () := by
      simpa using haccepts 0 (by simp)
    simp only [tellAll, answering, hfirst]
    show (answering answer).tellAll (held ++ [d.toFailure]) ds = _
    rw [ih]
    · simp
    · intro i hi
      simpa using haccepts (i + 1) (by simpa using hi)

/-- The first refusal is the last that is heard. -/
theorem tellAll_answering_of_refuses (answer : List Failure → Except CheckError Unit)
    (held : List Failure) (ds : List Difference) {k : Nat} {x : CheckError} (hk : k < ds.length)
    (haccepts : ∀ i < k, answer (held ++ (ds.map Difference.toFailure).take (i + 1)) = .ok ())
    (hrefuses : answer (held ++ (ds.map Difference.toFailure).take (k + 1)) = .error x) :
    (answering answer).tellAll held ds =
      (held ++ (ds.map Difference.toFailure).take (k + 1), .error x) := by
  induction ds generalizing held k with
  | nil => simp at hk
  | cons d ds ih =>
    cases k with
    | zero =>
      have hfirst : answer (held ++ [d.toFailure]) = .error x := by simpa using hrefuses
      simp [tellAll, answering, hfirst]
    | succ k =>
      have hfirst : answer (held ++ [d.toFailure]) = .ok () := by
        simpa using haccepts 0 (by omega)
      simp only [tellAll, answering, hfirst]
      -- The first report is accepted, so the refusal is number `k` of the rest.
      show (answering answer).tellAll (held ++ [d.toFailure]) ds = _
      rw [ih (k := k) (held ++ [d.toFailure]) (by simpa using hk)]
      · simp
      · intro i hi
        simpa using haccepts (i + 1) (by omega)
      · simpa using hrefuses

/-- A comparison makes the same reports, up to the first refusal, whatever the reporter: `calls`
and `result` are what a reporter without refusals hears and sees, and every other reporter hears
the `calls` up to the first that it refuses, with its refusal as the result. -/
theorem carryOut_substitution (c : Comparison) :
    ∃ (calls : List Failure) (result : Except CheckError Unit),
      (∀ before : Array Failure,
        (c.carryOut : Run (Array Failure) Unit) collectAll before =
          (before ++ calls.toArray, result)) ∧
      (∀ (answer : List Failure → Except CheckError Unit) (held : List Failure),
        (∀ k x, k < calls.length →
          (∀ i < k, answer (held ++ calls.take (i + 1)) = .ok ()) →
          answer (held ++ calls.take (k + 1)) = .error x →
          (c.carryOut : Run (List Failure) Unit) (answering answer) held =
            (held ++ calls.take (k + 1), .error x)) ∧
        ((∀ i < calls.length, answer (held ++ calls.take (i + 1)) = .ok ()) →
          (c.carryOut : Run (List Failure) Unit) (answering answer) held =
            (held ++ calls, result))) ∧
      (c.carryOut : Run Unit Unit) failFast () =
        ((), match calls with
          | [] => result
          | f :: _ => .error (.failure f)) := by
  let findings : Findings Unit := c.carryOut
  refine ⟨findings.differences.map Difference.toFailure, findings.outcome, ?_, ?_, ?_⟩
  · intro before
    rw [carryOut_eq_tell, tell, tellAll_collectAll]
  · intro answer held
    refine ⟨fun k x hk haccepts hrefuses => ?_, fun haccepts => ?_⟩
    · rw [List.length_map] at hk
      rw [carryOut_eq_tell, tell, tellAll_answering_of_refuses answer held _ hk haccepts hrefuses]
    · rw [List.length_map] at haccepts
      rw [carryOut_eq_tell, tell, tellAll_answering_of_accepts answer held _ haccepts]
  · rw [carryOut_eq_tell]
    exact tell_failFast findings

end Reporter

namespace Assertion

/-- A comparison of tables that comes to its end collects what it finds. -/
theorem collectTables_of_findings {assertion : Assertion} {sides : Sides Table}
    {differences : List Difference}
    (h : (assertion.compareTables sides : Findings Unit) = ⟨differences, .ok ()⟩) :
    assertion.collectTables sides = .ok (differences.map Difference.toFailure) :=
  Reporter.collect_compareTable h

/-- A comparison of datasets that comes to its end collects what it finds. -/
theorem collectDatasets_of_findings {assertion : Assertion} {sides : Sides Dataset}
    {differences : List Difference}
    (h : (assertion.compareDatasets sides : Findings Unit) = ⟨differences, .ok ()⟩) :
    assertion.collectDatasets sides = .ok (differences.map Difference.toFailure) :=
  Reporter.collect_compareDatasets h

end Assertion

end TableDiff
