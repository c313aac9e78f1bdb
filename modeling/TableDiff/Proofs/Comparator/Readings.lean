import TableDiff.Comparator.Spec
import TableDiff.Proofs.Comparator.Relation
import TableDiff.Proofs.Value.Casting

/-!
# What comparators read of cells

A comparator reads something of each cell: relations its cast to the datatype, other comparators its
text, its number or its instant. It accepts two cells as two others of which it reads the same. So
it judges two cells as their casts if what it reads survives the casts, which depends on the
datatype.
-/

namespace TableDiff

/-! ## Readings -/

/-- What a comparator may read of the value of a cell. -/
inductive Reading where
  | cast
  | text
  | decimal
  | instant
deriving DecidableEq

/-- What a comparator reads; a conditional one reads a text to choose between two others. -/
def Comparator.readings : Comparator → List Reading
  | .relation _ => [.cast]
  | .ignore => []
  | .caseInsensitive | .trimmed | .oneOf _ => [.text]
  | .tolerance _ => [.decimal]
  | .window _ _ => [.instant]
  | .conditional _ thenBy otherwiseBy => .text :: (thenBy.readings ++ otherwiseBy.readings)

namespace Reading

/-- The same is read of two values. -/
def Same (t : Datatype) (v w : Value) : Reading → Prop
  | .cast => v.cast t = w.cast t
  | .text => v.display = w.display
  | .decimal => v.castDecimal? = w.castDecimal?
  | .instant => v.instant? t = w.instant? t

/-- Whether a cast to a datatype leaves what is read as it is. -/
def survives (t : Datatype) : Reading → Bool
  | .cast => true
  | .text => t == .string || t == .unknown
  | .decimal => t == .decimal || t == .unknown || t.isTemporal
  | .instant => t != .string

end Reading

/-- Two cells are empty, or the same is read of their values. -/
inductive Cell.Alike (t : Datatype) (rs : List Reading) : Cell → Cell → Prop where
  | none : Alike t rs none none
  | some {v w : Value} (h : ∀ r ∈ rs, r.Same t v w) : Alike t rs (some v) (some w)

namespace Cell.Alike

variable {t : Datatype} {rs ss : List Reading} {c d e a e' a' : Cell}

theorem mono (h : Alike t rs c d) (hss : ss ⊆ rs) : Alike t ss c d := by
  cases h with
  | none => exact .none
  | some h => exact .some fun r hr => h r (hss hr)

theorem render_eq (h : Alike t rs c d) (htext : .text ∈ rs) : c.render = d.render := by
  cases h with
  | none => rfl
  | some h => exact h .text htext

theorem cast_eq_ok_iff (h : Alike t rs c d) (hcast : .cast ∈ rs) (side : Side) :
    c.cast t side = .ok e ↔ d.cast t side = .ok e := by
  cases h with
  | none => exact Iff.rfl
  | @some v w h =>
    have hsame : v.cast t = w.cast t := h .cast hcast
    rw [cast_some_eq_ok_iff, cast_some_eq_ok_iff, hsame]

theorem sameText_eq (he : Alike t rs e e') (ha : Alike t rs a a') (htext : .text ∈ rs)
    (change : List Char → List Char) :
    Cell.sameText change e a = Cell.sameText change e' a' := by
  cases he with
  | none => cases ha <;> rfl
  | some he =>
    cases ha with
    | none => rfl
    | some ha =>
      have hexpected : _ = _ := he .text htext
      have hactual : _ = _ := ha .text htext
      unfold Cell.sameText
      dsimp only
      rw [hexpected, hactual]

end Cell.Alike

/-! ## Comparators -/

/-- Comparators accept two cells as two others of which they read the same. -/
theorem Comparator.accepts_congr (c : Comparator) {t : Datatype} {e a e' a' : Cell}
    (he : Cell.Alike t c.readings e e') (ha : Cell.Alike t c.readings a a') :
    c.accepts t e a = c.accepts t e' a' := by
  induction c with
  | relation r =>
    rw [Bool.eq_iff_iff, relation_accepts_iff, relation_accepts_iff]
    simp only [he.cast_eq_ok_iff List.mem_cons_self, ha.cast_eq_ok_iff List.mem_cons_self]
  | ignore => rfl
  | caseInsensitive =>
    simp only [accepts, check, he.sameText_eq ha List.mem_cons_self]
    split <;> rfl
  | trimmed =>
    simp only [accepts, check, he.sameText_eq ha List.mem_cons_self]
    split <;> rfl
  | tolerance bound =>
    -- Two empty cells agree, and of two values nothing but the numbers is compared.
    cases he with
    | none => cases ha <;> rfl
    | some he =>
      cases ha with
      | none => rfl
      | some ha =>
        have hexpected : _ = _ := he .decimal List.mem_cons_self
        have hactual : _ = _ := ha .decimal List.mem_cons_self
        simp only [accepts, check]
        rw [hexpected, hactual]
        split
        · split <;> rfl
        · rfl
  | window low high =>
    cases he with
    | none => cases ha <;> rfl
    | some he =>
      cases ha with
      | none => rfl
      | some ha =>
        have hexpected : _ = _ := he .instant List.mem_cons_self
        have hactual : _ = _ := ha .instant List.mem_cons_self
        simp only [accepts, check]
        rw [hexpected, hactual]
        split
        · split <;> rfl
        · rfl
  | oneOf values =>
    simp only [accepts, check, ha.render_eq List.mem_cons_self]
    split <;> rfl
  | conditional when thenBy otherwiseBy ihThen ihOtherwise =>
    -- The choice is made by a text that is read the same, and each branch reads less than the
    -- whole.
    have hthen : thenBy.readings ⊆ (conditional when thenBy otherwiseBy).readings :=
      List.Subset.trans (List.subset_append_left _ _) (List.subset_cons_self _ _)
    have hotherwise : otherwiseBy.readings ⊆ (conditional when thenBy otherwiseBy).readings :=
      List.Subset.trans (List.subset_append_right _ _) (List.subset_cons_self _ _)
    have hbranch : ∀ x y, (conditional when thenBy otherwiseBy).accepts t x y =
        if when.contains x.render then thenBy.accepts t x y else otherwiseBy.accepts t x y := by
      intro x y
      simp only [accepts, check]
      split <;> rfl
    rw [hbranch, hbranch, he.render_eq List.mem_cons_self,
      ihThen (he.mono hthen) (ha.mono hthen),
      ihOtherwise (he.mono hotherwise) (ha.mono hotherwise)]

/-! ## Readings of casts -/

namespace Value

variable {v w : Value} {t : Datatype}

/-- A value that can be cast to a kind of date or time is no number. -/
theorem castDecimal?_eq_none (htemporal : t.isTemporal = true) (h : v.cast t = .ok w) :
    v.castDecimal? = none := by
  have hknown : t ≠ .unknown := by rintro rfl; cases htemporal
  have hstring : t ≠ .string := by rintro rfl; cases htemporal
  cases v with
  | text s =>
    have hread := ((cast_text_eq_ok_iff hknown hstring).mp h).2
    unfold castDecimal?
    split
    · rename_i d hd
      have hdecimal := ((cast_text_eq_ok_iff (by decide) (by decide)).mp hd).2
      obtain ⟨x, hx, -⟩ := exists_of_map_eq_ok hdecimal
      exact absurd hx (readDecimal_ne_ok_of_read htemporal hread)
    · rfl
  | date d | dateTime d | time d => rfl
  | _ =>
    -- The other kinds have no cast to dates or times.
    cases t with
    | date | datetime | time => cases h
    | _ => cases htemporal

/-- A value that can be cast to a kind of numbers, truth values or identifiers is no instant. -/
theorem instant?_eq_none (hkind : t ∈ [.integer, .float, .decimal, .boolean, .guid])
    (h : v.cast t = .ok w) : v.instant? t = none := by
  have hknown : t ≠ .unknown := by rintro rfl; revert hkind; decide
  have hstring : t ≠ .string := by rintro rfl; revert hkind; decide
  have htemporal : t.isTemporal = false := by
    revert hkind
    cases t <;> decide
  have hinstant : v.instant? t = v.instant? .datetime := by
    unfold instant?
    rw [htemporal]
    rfl
  rw [hinstant]
  cases v with
  | text s =>
    have hread := ((cast_text_eq_ok_iff hknown hstring).mp h).2
    cases hcast : (text s).cast .datetime with
    | error x => simp [instant?, Datatype.isTemporal, hcast]
    | ok x =>
      have hdateTime := ((cast_text_eq_ok_iff (by decide) (by decide)).mp hcast).2
      obtain ⟨d, hd, -⟩ := exists_of_elim_eq_ok hdateTime
      exact absurd hread (read_ne_ok_of_readDateTime hkind hd)
  | date d | dateTime d | time d =>
    -- Dates and times have no cast to these kinds.
    simp only [List.mem_cons, List.not_mem_nil, or_false] at hkind
    rcases hkind with rfl | rfl | rfl | rfl | rfl <;> cases h
  | _ => rfl

end Value

theorem Value.display_of_cast_string {v w : Value} (h : v.cast .string = .ok w) :
    w.display = v.display := by
  rw [Value.cast_string, Except.ok.injEq] at h
  subst h
  rfl

/-- Under some datatypes nothing that a cast changes is read. -/
theorem Reading.same_of_cast {r : Reading} {t : Datatype} {v w : Value}
    (hr : r.survives t = true) (h : v.cast t = .ok w) : r.Same t v w := by
  have hw : w.cast t = .ok w := Value.cast_of_cast h
  by_cases hknown : t = .unknown
  · -- Here casts change nothing at all.
    have hself : v.cast t = .ok v := if_pos (.inl hknown)
    rw [hself, Except.ok.injEq] at h
    subst h
    cases r <;> rfl
  cases r with
  | cast => exact h.trans hw.symm
  | text =>
    have hstring : t = .string := by simpa [survives, hknown] using hr
    subst hstring
    exact (Value.display_of_cast_string h).symm
  | decimal =>
    have hkind : t = .decimal ∨ t.isTemporal = true := by simpa [survives, hknown] using hr
    show v.castDecimal? = w.castDecimal?
    rcases hkind with rfl | htemporal
    · unfold Value.castDecimal?
      rw [h, hw]
    · rw [Value.castDecimal?_eq_none htemporal h, Value.castDecimal?_eq_none htemporal hw]
  | instant =>
    have hstring : t ≠ .string := by simpa [survives] using hr
    show v.instant? t = w.instant? t
    by_cases htemporal : t.isTemporal = true
    · unfold Value.instant?
      rw [if_pos htemporal, h, hw]
    · have hkind : t ∈ [.integer, .float, .decimal, .boolean, .guid] := by
        cases t <;> simp_all [Datatype.isTemporal]
      rw [Value.instant?_eq_none hkind h, Value.instant?_eq_none hkind hw]

/-! ## Comparisons of casts -/

/-- A comparator judges cells that have casts to a datatype as it judges the casts. -/
def Comparator.JudgesCasts (c : Comparator) (t : Datatype) : Prop :=
  ∀ e a e' a' : Cell, e.cast t .expected = .ok e' → a.cast t .actual = .ok a' →
    c.accepts t e a = c.accepts t e' a'

theorem Cell.alike_of_cast {c d : Cell} {t : Datatype} {side : Side} {rs : List Reading}
    (hrs : ∀ r ∈ rs, r.survives t = true) (h : c.cast t side = .ok d) : Alike t rs c d := by
  cases c with
  | none =>
    cases h
    exact .none
  | some v =>
    obtain ⟨w, hw, rfl⟩ := Cell.cast_some_eq_ok_iff.mp h
    exact .some fun r hr => Reading.same_of_cast (hrs r hr) hw

theorem Comparator.judgesCasts_of_survives {c : Comparator} {t : Datatype}
    (h : ∀ r ∈ c.readings, r.survives t = true) : c.JudgesCasts t := fun _ _ _ _ he ha =>
  c.accepts_congr (Cell.alike_of_cast h he) (Cell.alike_of_cast h ha)

/-! ## Readings that casts change -/

theorem Comparator.not_judgesCasts_of_values {c : Comparator} {t : Datatype} {v w x y : Value}
    (hv : v.cast t = .ok x) (hw : w.cast t = .ok y)
    (hne : c.accepts t (some v) (some w) ≠ c.accepts t (some x) (some y)) : ¬ c.JudgesCasts t := by
  intro hjudges
  refine hne (hjudges _ _ _ _ ?_ ?_)
  · exact Cell.cast_some_eq_ok_iff.mpr ⟨x, hv, rfl⟩
  · exact Cell.cast_some_eq_ok_iff.mpr ⟨y, hw, rfl⟩

/-- Without regard to case a text is told from the value that it denotes by the text of that. -/
theorem Comparator.not_judgesCasts_of_text {t : Datatype} {s : String} {w : Value}
    (hcast : (Value.text s).cast t = .ok w)
    (hne : Text.lower s.toList ≠ Text.lower w.display.toList) :
    ¬ caseInsensitive.JudgesCasts t := by
  refine not_judgesCasts_of_values hcast (Value.cast_of_cast hcast) ?_
  have htold : Cell.sameText Text.lower (some (.text s)) (some w) = false := beq_false_of_ne hne
  have hsame : Cell.sameText Text.lower (some w) (some w) = true := beq_self_eq_true _
  simp [accepts, check, htold, hsame]

/-- For each reading a comparator that has no other. -/
def Reading.probe : Reading → Comparator
  | .cast => .equality
  | .text => .caseInsensitive
  | .decimal => .tolerance (.ofInt64 0)
  | .instant => .window 0 0

theorem Reading.readings_probe (r : Reading) : r.probe.readings = [r] := by
  cases r <;> rfl

theorem Reading.exists_ofNode_probe (r : Reading) :
    ∃ node, Comparator.ofNode node = .ok r.probe := by
  cases r with
  | cast => exact ⟨.text "equal", by rw [Comparator.ofNode]; rfl⟩
  | text => exact ⟨.text "case_insensitive", by rw [Comparator.ofNode]; rfl⟩
  | decimal =>
    exact ⟨.mapping [(.text "tolerance", .text "0")], by rw [Comparator.ofNode]; rfl⟩
  | instant =>
    exact ⟨.mapping [(.text "timestamp_tolerance_ms", .number (.integer 0))], by
      rw [Comparator.ofNode]; rfl⟩

/-- Where a cast changes what is read, a comparator that reads it tells cells from their casts. -/
theorem Reading.not_judgesCasts_probe {r : Reading} {t : Datatype} (h : r.survives t = false) :
    ¬ r.probe.JudgesCasts t := by
  have hdecimal : ∀ {u : Datatype} {v w x y : Value}, v.cast u = .ok x → w.cast u = .ok y →
      decimal.probe.accepts u (some v) (some w) ≠ decimal.probe.accepts u (some x) (some y) →
        ¬ decimal.probe.JudgesCasts u := Comparator.not_judgesCasts_of_values
  cases r with
  | cast => cases h
  | text =>
    cases t with
    | string | unknown => cases h
    | integer =>
      exact Comparator.not_judgesCasts_of_text
        (show (Value.text "+1").cast .integer = .ok (.integer 1) by decide) (by decide)
    | float =>
      exact Comparator.not_judgesCasts_of_text
        (show (Value.text "+1").cast .float = .ok (.float (.ofInt 1)) by decide +kernel)
        (by decide +kernel)
    | boolean =>
      exact Comparator.not_judgesCasts_of_text
        (show (Value.text "1").cast .boolean = .ok (.boolean true) by decide) (by decide)
    | date =>
      exact Comparator.not_judgesCasts_of_text
        (show (Value.text "1-1-1970").cast .date = .ok (.date .epoch) by decide) (by decide)
    | datetime =>
      exact Comparator.not_judgesCasts_of_text
        (show (Value.text "1970-1-1 0:00").cast .datetime = .ok (.dateTime ⟨.epoch, .midnight⟩) by
          decide)
        (by decide)
    | time =>
      exact Comparator.not_judgesCasts_of_text
        (show (Value.text "0:00").cast .time = .ok (.time .midnight) by decide) (by decide)
    | guid =>
      exact Comparator.not_judgesCasts_of_text
        (show (Value.text "00000000000000000000000000000001").cast .guid =
          .ok (.guid ⟨1, by decide⟩) by decide)
        (by decide)
    | decimal =>
      exact Comparator.not_judgesCasts_of_text
        (show (Value.text "+1").cast .decimal =
          .ok (.decimal ⟨false, 1, 0, by decide, by decide⟩) by decide)
        (by decide)
  | decimal =>
    cases t with
    | decimal | unknown | date | datetime | time => cases h
    | string =>
      -- The binary number above 3 / 10, which keeps fewer places as a number than as a text.
      let x : Binary64 := ⟨false, 4599075939470750516, by decide⟩
      have hfloat : (Value.float x).cast .string = .ok (.text "0.30000000000000004") := by
        decide +kernel
      have hthree : (Value.decimal ⟨false, 3, 1, by decide, by decide⟩).cast .string =
          .ok (.text "0.3") := by decide
      exact hdecimal hfloat hthree (by decide +kernel)
    | integer =>
      have hcast : (Value.boolean true).cast .integer = .ok (.integer 1) := by decide
      exact hdecimal hcast hcast (by decide)
    | float =>
      -- The greatest decimal number, whose nearest binary number is none any more.
      have hcast : (Value.text "79228162514264337593543950335").cast .float =
          .ok (.float (.ofRatio false (Number.twoPow 96) 1)) := by decide +kernel
      exact hdecimal hcast hcast (by decide +kernel)
    | boolean =>
      have hcast : (Value.text "1").cast .boolean = .ok (.boolean true) := by decide
      exact hdecimal hcast hcast (by decide)
    | guid =>
      have hcast : (Value.text "00000000000000000000000000000001").cast .guid =
          .ok (.guid ⟨1, by decide⟩) := by decide
      exact hdecimal hcast hcast (by decide)
  | instant =>
    cases t with
    | string =>
      have hcast : (Value.date .epoch).cast .string = .ok (.text "1970-01-01") := by decide
      exact Comparator.not_judgesCasts_of_values hcast hcast (by decide)
    | _ => cases h

/-- The configured comparators with no other readings than `rs` all judge the casts of cells to a
datatype exactly if these readings survive such casts. -/
theorem judgesCasts_iff_survives (t : Datatype) (rs : List Reading) :
    (∀ node c, Comparator.ofNode node = .ok c → c.readings ⊆ rs → c.JudgesCasts t) ↔
      ∀ r ∈ rs, r.survives t = true := by
  constructor
  · intro hjudges r hr
    by_contra hchanged
    obtain ⟨node, hnode⟩ := r.exists_ofNode_probe
    have hreadings : r.probe.readings ⊆ rs := by
      rw [r.readings_probe]
      exact List.cons_subset.mpr ⟨hr, List.nil_subset rs⟩
    exact Reading.not_judgesCasts_probe (Bool.eq_false_of_not_eq_true hchanged)
      (hjudges node r.probe hnode hreadings)
  · intro hsurvives node c _ hreadings
    exact Comparator.judgesCasts_of_survives fun r hr => hsurvives r (hreadings hr)

/-- Under `decimal` relations and tolerances judge the casts. -/
theorem judgesCasts_decimal :
    (∀ r ∈ [Reading.cast, .decimal], r.survives .decimal = true) ∧
      ∀ node c, Comparator.ofNode node = .ok c → c.readings ⊆ [.cast, .decimal] →
        c.JudgesCasts .decimal :=
  ⟨by decide, (judgesCasts_iff_survives .decimal [.cast, .decimal]).mpr (by decide)⟩

/-- Texts are compared as they are, although one denotes the float on the other side. -/
theorem caseInsensitive_not_judgesCasts :
    Comparator.ofNode (.text "case_insensitive") = .ok .caseInsensitive ∧
      ∃ x : Binary64, (Value.text "1.50").cast .float = .ok (.float x) ∧
        (Value.float x).cast .float = .ok (.float x) ∧
        Comparator.caseInsensitive.accepts .float (some (.text "1.50")) (some (.float x)) = false ∧
        Comparator.caseInsensitive.accepts .float (some (.float x)) (some (.float x)) = true ∧
        ¬ Comparator.caseInsensitive.JudgesCasts .float := by
  have hcast : (Value.text "1.50").cast .float = .ok (.float (.ofRatio false 3 2)) := by
    decide +kernel
  refine ⟨by rw [Comparator.ofNode]; rfl, .ofRatio false 3 2, hcast, rfl, by decide +kernel,
    by decide +kernel, ?_⟩
  exact Comparator.not_judgesCasts_of_text hcast (by decide +kernel)

end TableDiff
