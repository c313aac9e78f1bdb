import TableDiff.Comparator.Spec
import TableDiff.Proofs.Number.Layouts
import TableDiff.Proofs.Number.Signs
import TableDiff.Proofs.Value.Rereading

/-!
# Configured comparators

A mapping of one entry is read by the name of the entry. A tolerance is given by the text of a
decimal number, or by a number, which stands for its text. The text is read as that of a decimal
cell. The sign is looked at and not the value, so a zero with a minus sign is refused; no number of
a configuration is read as one.
-/

namespace TableDiff

/-! ## Entries -/

/-- A node is a mapping of one entry with this name, in which case and blanks around do not
count. -/
def Yaml.Node.HasEntry (node : Yaml.Node) (name : String) (body : Yaml.Node) : Prop :=
  ∃ key given, Comparator.singleEntry? node = some (key, body) ∧ key.text? = some given ∧
    String.ofList (Text.lowerAscii (Text.trim given.toList)) = name

namespace Comparator

variable {node body : Yaml.Node} {name : String} {c : Comparator}

theorem text?_of_singleEntry? {entry : Yaml.Node × Yaml.Node}
    (h : singleEntry? node = some entry) : node.text? = none := by
  unfold singleEntry? Yaml.Node.mapping? at h
  unfold Yaml.Node.text?
  cases hu : node.untagged with
  | mapping entries => rfl
  | _ => simp [hu] at h

/-- The reading of a mapping of one entry, by the name of the entry. -/
theorem ofNode_of_hasEntry (h : node.HasEntry name body) :
    ofNode node =
      if name = "tolerance" then do
        let bound ← readTolerance body
        return .tolerance bound
      else if name = "timestamp_tolerance_ms" then do
        let ms ← readMillis body "timestamp_tolerance_ms"
        return .window ms ms
      else if name = "timestamp_tolerance" then do
        let low ← readMillis (body.field "low_ms") "low_ms"
        let high ← readMillis (body.field "high_ms") "high_ms"
        return .window low high
      else if name = "one_of" then do
        let values ← readTexts body
        return .oneOf values
      else if name = "conditional" then do
        let when ← readTexts (body.field "when")
        let thenBy ← ofNode (body.field "then")
        let otherwiseBy ← ofNode (body.field "otherwise")
        return .conditional when thenBy otherwiseBy
      else .error (.unknownComparator name) := by
  obtain ⟨key, given, hentry, hkey, rfl⟩ := h
  rw [ofNode, text?_of_singleEntry? hentry]
  dsimp only
  split
  · rename_i hnone
    rw [hentry] at hnone
    cases hnone
  · rename_i key' body' hentry'
    obtain ⟨rfl, rfl⟩ := Prod.mk.inj (Option.some.inj (hentry.symm.trans hentry'))
    rw [hkey]

theorem exists_of_ofNode_oneOf (h : node.HasEntry "one_of" body) (hc : ofNode node = .ok c) :
    ∃ values, readTexts body = .ok values ∧ c = .oneOf values := by
  rw [ofNode_of_hasEntry h, if_neg (by decide), if_neg (by decide), if_neg (by decide),
    if_pos rfl] at hc
  obtain ⟨values, hvalues, hc⟩ := exists_of_bind_eq_ok hc
  cases hc
  exact ⟨values, hvalues, rfl⟩

theorem ofNode_conditional (h : node.HasEntry "conditional" body) :
    ofNode node = do
      let when ← readTexts (body.field "when")
      let thenBy ← ofNode (body.field "then")
      let otherwiseBy ← ofNode (body.field "otherwise")
      return .conditional when thenBy otherwiseBy := by
  rw [ofNode_of_hasEntry h, if_neg (by decide), if_neg (by decide), if_neg (by decide),
    if_neg (by decide), if_pos rfl]

theorem exists_of_ofNode_conditional (h : node.HasEntry "conditional" body)
    (hc : ofNode node = .ok c) :
    ∃ when thenBy otherwiseBy, readTexts (body.field "when") = .ok when ∧
      ofNode (body.field "then") = .ok thenBy ∧ c = .conditional when thenBy otherwiseBy := by
  rw [ofNode_conditional h] at hc
  obtain ⟨when, hwhen, hc⟩ := exists_of_bind_eq_ok hc
  obtain ⟨thenBy, hthen, hc⟩ := exists_of_bind_eq_ok hc
  obtain ⟨otherwiseBy, -, hc⟩ := exists_of_bind_eq_ok hc
  cases hc
  exact ⟨when, thenBy, otherwiseBy, hwhen, hthen, rfl⟩

end Comparator

/-! ## Tolerances -/

/-- The text of a number, as it is given or as the number is written. -/
def Yaml.Node.numeralText? : Yaml.Node → Option String
  | .text s => some s
  | .number n => some n.text
  | _ => none

namespace Decimal

variable {d : Decimal} {s : String}

/-- A number with a minus sign that is not below zero is zero. -/
theorem mantissa_eq_zero_of_nonneg (hd : 0 ≤ d.toRat) (hsign : d.negative = true) :
    d.mantissa = 0 := by
  have hone : (0 : ℚ) < Number.tenPow d.scale := Nat.cast_pos.mpr (Number.tenPow_pos _)
  have hnumerator : d.numerator = -(d.mantissa : ℤ) := if_pos hsign
  unfold toRat at hd
  rw [le_div_iff₀ hone, zero_mul, Int.cast_nonneg_iff, hnumerator] at hd
  omega

theorem toRat_of_mantissa (hzero : d.mantissa = 0) : d.toRat = 0 := by
  have hnumerator : d.numerator = 0 := by
    unfold numerator
    rw [hzero]
    split <;> rfl
  unfold toRat
  rw [hnumerator, Int.cast_zero, zero_div]

theorem negative_withoutZeroSign (hd : 0 ≤ d.toRat) : d.withoutZeroSign.negative = false := by
  by_contra hsign
  obtain ⟨hnegative, hne⟩ := Bool.and_eq_true_iff.mp (Bool.not_eq_false _ |>.mp hsign)
  exact absurd (mantissa_eq_zero_of_nonneg hd hnegative) (by simpa using hne)

theorem read_of_cellRead (h : Cell.read s .decimal = .ok (some (.decimal d))) :
    read (Text.trim s.toList) = .ok d := by
  rcases Cell.read_eq_ok_iff.mp h with ⟨-, hnone⟩ | ⟨-, v, hv, hd⟩
  · cases hnone
  · obtain rfl := Option.some.inj hd
    obtain ⟨e, he, hde⟩ := Value.exists_of_map_eq_ok hv
    cases hde
    exact Value.readDecimal_eq_ok_iff.mp he

end Decimal

namespace Yaml

theorem Number.text_float {x : Binary64} (hfinite : x.isFinite = true) :
    (float x).text = String.ofList x.scientificText := by
  have hbounded : ¬ (!x.isFinite) = true := by
    rw [hfinite]
    decide
  unfold text
  dsimp only
  rw [if_neg (Binary64.isNaN_of_isFinite hfinite), if_neg hbounded]

/-- What is not finite is written without an exponent. -/
theorem Number.any_text_of_not_isFinite {x : Binary64} (hfinite : ¬ x.isFinite = true) :
    (Text.trim (float x).text.toList).any Decimal.isExponentMark = false := by
  unfold text
  dsimp only
  split
  · decide
  · rw [if_pos (by simpa using hfinite)]
    split <;> decide

/-- No number of a configuration is read as a zero with a minus sign: with an exponent it does not
begin with a zero. -/
theorem Number.negative_of_read {n : Number} {d : Decimal}
    (h : Decimal.read (Text.trim n.text.toList) = .ok d) (hzero : d.mantissa = 0) :
    d.negative = false := by
  by_contra hsign
  rw [Bool.not_eq_false] at hsign
  obtain ⟨hmark, rest, hrest, hhead⟩ := Decimal.text_of_minusZero h hsign hzero
  cases n with
  | integer i =>
    have htext : (integer i).text.toList = TableDiff.Number.intText i := String.toList_ofList
    rw [htext, trim_of_all (all_intText i), List.any_eq_true] at hmark
    obtain ⟨c, hc, hmark⟩ := hmark
    rw [isExponentMark_of_isNumeralChar (List.all_eq_true.mp (all_intText i) c hc)] at hmark
    cases hmark
  | float x =>
    by_cases hfinite : x.isFinite = true
    · have hblank : ∀ c ∈ x.scientificText, Text.isBlank c = false := by
        intro c hc
        rcases Binary64.of_mem_scientificText hc with hc | rfl
        · exact isBlank_of_isNumeralChar hc
        · decide
      rw [text_float hfinite, String.toList_ofList, Text.trim_eq_self hblank] at hmark hrest
      obtain ⟨c, hc, hdigit, hne⟩ :=
        Binary64.exists_digit_of_scientificText hfinite (Binary64.mark_mem_of_any hmark) hrest
      exact hne (hhead c hc hdigit)
    · rw [any_text_of_not_isFinite hfinite] at hmark
      cases hmark

end Yaml

namespace Comparator

variable {node body : Yaml.Node} {s : String} {d : Decimal}

theorem readTolerance_of_read (hbody : body.numeralText? = some s)
    (h : Decimal.read (Text.trim s.toList) = .ok d) :
    readTolerance body = if d.negative then .error (.negativeTolerance d) else .ok d := by
  cases body with
  | number n | text t =>
    cases hbody
    unfold readTolerance
    dsimp only [bind, Except.bind]
    rw [h]
  | _ => cases hbody

theorem ofNode_tolerance (hnode : node.HasEntry "tolerance" body)
    (hbody : body.numeralText? = some s) (h : Decimal.read (Text.trim s.toList) = .ok d) :
    ofNode node = if d.negative then .error (.negativeTolerance d) else .ok (.tolerance d) := by
  rw [ofNode_of_hasEntry hnode, if_pos rfl, readTolerance_of_read hbody h]
  split <;> rfl

/-- A mapping that gives a tolerance by a text. -/
def toleranceOf (s : String) : Yaml.Node := .mapping [(.text "tolerance", .text s)]

theorem ofNode_tolerance_text (hd : 0 ≤ d.toRat) :
    ofNode (toleranceOf (String.ofList d.text)) = .ok (.tolerance d.withoutZeroSign) := by
  have hnode : (toleranceOf (String.ofList d.text)).HasEntry "tolerance"
      (.text (String.ofList d.text)) := ⟨_, _, rfl, rfl, by decide⟩
  have hread : Decimal.read (Text.trim (String.ofList d.text).toList) = .ok d.withoutZeroSign := by
    rw [String.toList_ofList, trim_of_all (all_decimalText d), d.read_text]
  rw [ofNode_tolerance hnode rfl hread, Decimal.negative_withoutZeroSign hd]
  rfl

/-- A text that a decimal cell reads as a number not below zero is accepted as a tolerance of that
number, whether it is given as a text or as a number with this text, unless the number is a zero
with a minus sign. Such a zero comes from a text in exponent notation alone, which begins with the
sign and a zero or a point. In any case the number is a tolerance by its own text. -/
theorem tolerance_reads_as_cell (hnode : node.HasEntry "tolerance" body)
    (hbody : body.numeralText? = some s) (hcell : Cell.read s .decimal = .ok (some (.decimal d)))
    (hd : 0 ≤ d.toRat) :
    (d.negative = false → ofNode node = .ok (.tolerance d)) ∧
    (d.negative = true →
      ofNode node = .error (.negativeTolerance d) ∧ d.toRat = 0 ∧ body = .text s ∧
        (Text.trim s.toList).any Decimal.isExponentMark = true ∧
        ∃ rest, Text.trim s.toList = '-' :: rest ∧ ∀ c ∈ rest.head?, c.isDigit = true → c = '0') ∧
    ∃ e, ofNode (toleranceOf (String.ofList d.text)) = .ok (.tolerance e) ∧ e.toRat = d.toRat := by
  have hread := Decimal.read_of_cellRead hcell
  have hspec := ofNode_tolerance hnode hbody hread
  refine ⟨fun hsign => ?_, fun hsign => ?_, ?_⟩
  · rw [hspec, hsign]
    rfl
  · have hzero := Decimal.mantissa_eq_zero_of_nonneg hd hsign
    have htext : body = .text s := by
      cases body with
      | number n =>
        cases hbody
        rw [Yaml.Number.negative_of_read hread hzero] at hsign
        cases hsign
      | text t =>
        cases hbody
        rfl
      | _ => cases hbody
    refine ⟨?_, Decimal.toRat_of_mantissa hzero, htext, Decimal.text_of_minusZero hread hsign hzero⟩
    rw [hspec, if_pos hsign]
  · exact ⟨d.withoutZeroSign, ofNode_tolerance_text hd, d.toRat_withoutZeroSign⟩

/-- A configuration writes the least place that there is with an exponent. -/
theorem tolerance_reads_as_cell_leastPlace :
    ∃ (x : Binary64) (d : Decimal), (Yaml.Number.float x).text = "1e-28" ∧
      Cell.read "1e-28" .decimal = .ok (some (.decimal d)) ∧ d.mantissa = 1 ∧ d.scale = 28 ∧
      ofNode (.mapping [(.text " Tolerance", .number (.float x))]) = .ok (.tolerance d) := by
  let x : Binary64 := ⟨false, 4188260752279232537, by decide⟩
  let d : Decimal := ⟨false, 1, 28, by decide, by decide⟩
  have htext : (Yaml.Number.float x).text = "1e-28" := by decide +kernel
  have hread : Cell.read "1e-28" .decimal = .ok (some (.decimal d)) := by decide +kernel
  have hd : 0 ≤ d.toRat := by norm_num [d, Decimal.toRat, Decimal.numerator, Number.cast_tenPow]
  have hnode : (Yaml.Node.mapping [(.text " Tolerance", .number (.float x))]).HasEntry "tolerance"
      (.number (.float x)) := ⟨_, _, rfl, rfl, by decide⟩
  have hbody : (Yaml.Node.number (.float x)).numeralText? = some "1e-28" := congrArg some htext
  exact ⟨x, d, htext, hread, rfl, rfl, (tolerance_reads_as_cell hnode hbody hread hd).1 rfl⟩

/-- A zero that a decimal cell has from a negative number too small for its places is refused. -/
theorem tolerance_refuses_minusZero :
    ∃ d : Decimal, Cell.read "-0.1e-28" .decimal = .ok (some (.decimal d)) ∧ d.toRat = 0 ∧
      ofNode (toleranceOf "-0.1e-28") = .error (.negativeTolerance d) := by
  refine ⟨⟨true, 0, 28, by decide, by decide⟩, by decide +kernel, ?_, ?_⟩
  · exact Decimal.toRat_of_mantissa rfl
  · rw [ofNode]
    rfl

end Comparator

end TableDiff
