import Mathlib
import TableDiff.Proofs.Reporter

/-!
# Additional columns

The additional columns of a comparison are looked up beside a difference between two cells and show
in its message. Whatever they are, and whether or not a table has them, the comparison meets the
same differences and ends in the same way.
-/

namespace TableDiff

/-! ## Messages without additional information -/

/-- `plain` is the message `shown` without its additional information, which is on the columns
`names`. Only the messages of differences between cells have any. -/
inductive Message.WithoutInfo (names : List String) : (shown plain : String) → Prop where
  | ofCell (table : String) (row : Nat) (column : String) (info : List AdditionalColumn)
      (detail : Option String) (hnames : info.map (·.column) = names) :
    WithoutInfo names (value table row column (additionalInfo info) detail)
      (value table row column none detail)
  | other (message : String) (hother : ¬ "value (".toList <+: message.toList) :
    WithoutInfo names message message

/-- Two failures that are the same once the additional information is taken out of their messages,
that on `names` out of the one and that on `others` out of the other. -/
structure Failure.SameBesides (names others : List String) (f g : Failure) : Prop where
  expected_eq : f.expected = g.expected
  actual_eq : f.actual = g.actual
  message : ∃ plain, Message.WithoutInfo names f.message plain ∧
    Message.WithoutInfo others g.message plain

/-! ## Findings in step -/

/-- Findings that end alike, with as many differences, each related to the one at its place. -/
def Findings.Alike {α : Type} (R : Difference → Difference → Prop) (x y : Findings α) : Prop :=
  x.outcome = y.outcome ∧ List.Forall₂ R x.differences y.differences

theorem Findings.Alike.bind {α β : Type} {R : Difference → Difference → Prop} {x y : Findings α}
    {f g : α → Findings β} (hxy : x.Alike R y) (hfg : ∀ a, (f a).Alike R (g a)) :
    (x >>= f).Alike R (y >>= g) := by
  obtain ⟨ds, outcome⟩ := x
  obtain ⟨ds', outcome'⟩ := y
  obtain ⟨houtcome, hds⟩ := hxy
  change outcome = outcome' at houtcome
  subst houtcome
  cases outcome with
  | error e => exact ⟨rfl, hds⟩
  | ok a =>
    rw [ok_bind, ok_bind]
    exact ⟨(hfg a).1, List.rel_append hds (hfg a).2⟩

def Findings.inStep (R : Difference → Difference → Prop) :
    Reporting.Simulation Findings Findings where
  rel x y := x.Alike R y
  reported := R
  rel_pure _ := ⟨rfl, .nil⟩
  rel_bind hxy hfg := hxy.bind hfg
  rel_report h := ⟨rfl, .cons h .nil⟩
  rel_fail _ := ⟨rfl, .nil⟩

/-- Differences whose failures are the same but for additional columns `names` and `others`. -/
def Difference.SameBesides (names others : List String) (d d' : Difference) : Prop :=
  d.toFailure.SameBesides names others d'.toFailure

theorem Findings.inStep_shows (names others : List String) :
    (inStep (Difference.SameBesides names others)).Shows names others where
  value e a table row column mismatch x y := by
    -- The names are those that were asked for, whatever the lookups say.
    have hnames : ∀ names, (RowWalk.additionalColumns e a row names).map (·.column) = names := by
      intro names
      unfold RowWalk.additionalColumns
      rw [List.map_map]
      exact List.map_id names
    change Failure.SameBesides names others _ _
    refine ⟨rfl, rfl, Message.value table row column none (some mismatch.message), ?_, ?_⟩
    · exact .ofCell table row column _ (some mismatch.message) (hnames names)
    · exact .ofCell table row column _ (some mismatch.message) (hnames others)
  other d h :=
    have hother := Difference.message_not_value h
    ⟨rfl, rfl, _, .other _ hother, .other _ hother⟩

/-! ## Comparisons -/

/-- The comparison with other additional columns. -/
def Comparison.showing (names : List String) : Comparison → Comparison
  | .tables sides comparators options => .tables sides comparators (options.showing names)
  | .datasets sides source options => .datasets sides source (options.showing names)

theorem Comparison.rel_carryOut {m n : Type → Type} [Reporting m] [Reporting n]
    {S : Reporting.Simulation m n} {names others : List String} (hS : S.Shows names others)
    (c : Comparison) : S.rel (c.showing names).carryOut (c.showing others).carryOut := by
  cases c with
  | tables sides comparators options =>
    exact Reporting.Simulation.rel_compareTable hS sides comparators options
  | datasets sides source options =>
    exact Reporting.Simulation.rel_compareDatasets hS sides source options

/-- The additional columns of a comparison are for diagnosis only. With any two lists of them a
collecting run has the same result and collects equally many failures, which are the same at each
place but for the additional information in their messages. So a run that fails on its first failure
fails on the same one, and otherwise has the result of the collecting run. -/
theorem Comparison.run_showing (c : Comparison) (names others : List String) :
    ∃ (found found' : List Failure) (result : Except CheckError Unit),
      (∀ before, ((c.showing names).carryOut : Reporter.Run (Array Failure) Unit)
        Reporter.collectAll before = (before ++ found.toArray, result)) ∧
      (∀ before, ((c.showing others).carryOut : Reporter.Run (Array Failure) Unit)
        Reporter.collectAll before = (before ++ found'.toArray, result)) ∧
      List.Forall₂ (Failure.SameBesides names others) found found' ∧
      ((c.showing names).carryOut : Reporter.Run Unit Unit) Reporter.failFast () =
        ((), found.head?.elim result fun f => .error (.failure f)) ∧
      ((c.showing others).carryOut : Reporter.Run Unit Unit) Reporter.failFast () =
        ((), found'.head?.elim result fun f => .error (.failure f)) := by
  let m : Findings Unit := (c.showing names).carryOut
  let m' : Findings Unit := (c.showing others).carryOut
  obtain ⟨houtcome, hdifferences⟩ : m.Alike (Difference.SameBesides names others) m' :=
    rel_carryOut (Findings.inStep_shows names others) c
  refine ⟨m.differences.map Difference.toFailure, m'.differences.map Difference.toFailure,
    m.outcome, ?_, ?_, ?_, ?_, ?_⟩
  · intro before
    rw [Reporter.carryOut_eq_tell, Reporter.tell, Reporter.tellAll_collectAll]
  · intro before
    rw [Reporter.carryOut_eq_tell, Reporter.tell, Reporter.tellAll_collectAll, houtcome]
  · rw [List.forall₂_map_left_iff, List.forall₂_map_right_iff]
    exact hdifferences
  · rw [Reporter.carryOut_eq_tell, Reporter.tell_failFast]
    cases m.differences <;> rfl
  · rw [Reporter.carryOut_eq_tell, Reporter.tell_failFast, houtcome]
    cases m'.differences <;> rfl

end TableDiff
