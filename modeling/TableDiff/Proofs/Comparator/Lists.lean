import TableDiff.Proofs.Comparator.Specs

/-!
# Numbers in lists of values

A configured list holds texts, and a cell is looked up in it by the text that it shows. A number of
the list is written by one layout and a number in a cell is shown by another, so a listed number is
found in the cells that hold it only where the layouts agree.
-/

namespace TableDiff

/-! ## Numbers in cells -/

namespace Yaml.Number

/-- A cell can hold the number: it is a signed integer of 64 bits or a finite binary number. -/
def InCells : Number → Prop
  | .integer i => ∃ j : Int64, j.toInt = i
  | .float x => x.isFinite = true

/-- The number is the value of a cell, be it as an integer or as a binary number. -/
inductive IsValue : Number → Value → Prop
  | integer (j : Int64) : IsValue (.integer j.toInt) (.integer j)
  | wholeFloat (y : Binary64) (h : y.isIntegral = true) : IsValue (.integer y.truncate) (.float y)
  | wholeNumber (x : Binary64) (j : Int64) (h : x.isIntegral = true) (hj : x.truncate = j.toInt) :
      IsValue (.float x) (.integer j)
  | float (x y : Binary64) (h : x.equals y = true) : IsValue (.float x) (.float y)

/-- The number is written in a configuration as cells show it: an integer always, except the least
one, which a binary number shows rounded; a binary number if it has a fraction, needs no exponent,
and does not lie midway between two shortest numerals. -/
def WrittenAsShown : Number → Prop
  | .integer i => i ≠ -TableDiff.Number.twoPow 63
  | .float x =>
    x.HasFraction ∧ (10 : ℚ) ^ (-5 : ℤ) ≤ x.size ∧ ¬ x.TiesDown

end Yaml.Number

/-! ## Texts -/

namespace Binary64

variable {x y : Binary64}

theorem equals_self (hfinite : x.isFinite = true) : x.equals x = true := by
  have hnumber : x.isNaN = false := Bool.eq_false_iff.mpr (isNaN_of_isFinite hfinite)
  unfold equals
  rw [hnumber, beq_self_eq_true]
  rfl

theorem eq_of_equals (hzero : ¬ x.isZero = true) (h : x.equals y = true) : x = y := by
  unfold equals at h
  simp only [Bool.and_eq_true, Bool.or_eq_true, beq_iff_eq] at h
  rcases h.2 with heq | hzeros
  · exact heq
  · exact absurd hzeros.1 hzero

/-- A number is written as it is shown only if it has a fraction. -/
theorem scientificText_eq_floatText_iff (hfinite : x.isFinite = true) :
    x.scientificText = Value.floatText x ↔
      x.HasFraction ∧ (10 : ℚ) ^ (-5 : ℤ) ≤ x.size ∧ ¬ x.TiesDown := by
  by_cases hx : x.HasFraction
  · have hintegral : ¬ x.isIntegral = true := fun h => (isIntegral_iff.mp h).2 hx
    have hshown : Value.floatText x = x.positionalText := if_neg fun h => hintegral h.1
    rw [hshown, scientificText_eq_positionalText_iff hx, and_iff_right hx]
  · refine iff_of_false (fun htext => ?_) fun h => hx h.1
    have hintegral : x.isIntegral = true := isIntegral_iff.mpr ⟨hfinite, hx⟩
    -- What is shown in digits alone is not written with a point or a mark.
    rcases x.point_or_mark_mem_scientificText with hmem | hmem <;> rw [htext] at hmem <;>
      rcases of_mem_floatText hintegral hmem with h | h <;> cases h

end Binary64

namespace Yaml.Number

variable {n : Number}

/-- The least integer as a binary number. -/
def leastFloat : Binary64 := ⟨true, 1086 * TableDiff.Number.twoPow 52, by decide⟩

theorem text_eq_display_iff (hn : n.InCells) :
    (∀ v, n.IsValue v → n.text = v.display) ↔ n.WrittenAsShown := by
  cases n with
  | integer i =>
    obtain ⟨j, rfl⟩ := hn
    constructor
    · intro htext hleast
      have hvalue : leastFloat.truncate = j.toInt := by
        rw [hleast]
        decide +kernel
      have hsame := htext (.float leastFloat) (hvalue ▸ .wholeFloat leastFloat (by decide +kernel))
      rw [← hvalue] at hsame
      revert hsame
      decide +kernel
    · intro hleast v hv
      have hbound : TableDiff.Number.twoPow 63 = 9223372036854775808 := by decide
      have hleast : j.toInt ≠ -TableDiff.Number.twoPow 63 := hleast
      have hlow := j.le_toInt
      have hhigh := j.toInt_lt
      generalize hi : j.toInt = i at *
      cases hv with
      | integer k => rfl
      | wholeFloat y hy =>
        have hshown : Value.floatText y = TableDiff.Number.intText y.truncate :=
          if_pos ⟨hy, by omega⟩
        exact congrArg String.ofList hshown.symm
  | float x =>
    have hfinite : x.isFinite = true := hn
    have htexts : (float x).text = (Value.float x).display ↔
        x.scientificText = Value.floatText x := by
      rw [text_float hfinite]
      exact String.ofList_inj
    have hself := htexts.trans (Binary64.scientificText_eq_floatText_iff hfinite)
    refine ⟨fun htext => hself.mp (htext _ (.float x x (Binary64.equals_self hfinite))), ?_⟩
    intro hshown v hv
    cases hv with
    | wholeNumber _ j hx => exact absurd hshown.1 (Binary64.isIntegral_iff.mp hx).2
    | float _ y hy =>
      obtain rfl := Binary64.eq_of_equals hshown.1.not_isZero hy
      exact hself.mpr hshown

end Yaml.Number

/-! ## Lists -/

namespace Comparator

variable {n : Yaml.Number} {node body : Yaml.Node} {items : List Yaml.Node} {values : List String}

theorem exists_text_of_mapM {item : Yaml.Node} (h : items.mapM readListItem = .ok values)
    (hitem : item ∈ items) : ∃ s ∈ values, readListItem item = .ok s := by
  induction items generalizing values with
  | nil => cases hitem
  | cons head rest ih =>
    rw [List.mapM_cons] at h
    obtain ⟨s, hhead, h⟩ := exists_of_bind_eq_ok h
    obtain ⟨texts, hrest, h⟩ := exists_of_bind_eq_ok h
    cases h
    rcases List.mem_cons.mp hitem with rfl | hitem
    · exact ⟨s, List.mem_cons_self, hhead⟩
    · obtain ⟨t, ht, hread⟩ := ih hrest hitem
      exact ⟨t, List.mem_cons_of_mem s ht, hread⟩

/-- A number of a list is in it by the text by which it is written. -/
theorem text_mem_of_readTexts (hbody : body.list? = some items) (hn : .number n ∈ items)
    (h : readTexts body = .ok values) : n.text ∈ values := by
  unfold readTexts at h
  rw [hbody] at h
  obtain ⟨s, hs, hread⟩ := exists_text_of_mapM h hn
  cases hread
  exact hs

/-- Every list of permitted values that has the number in it accepts the cells that hold it. -/
def OneOfAccepts (n : Yaml.Number) : Prop :=
  ∀ (node body : Yaml.Node) (items : List Yaml.Node) (c : Comparator),
    node.HasEntry "one_of" body → body.list? = some items → .number n ∈ items →
      ofNode node = .ok c → ∀ (v : Value) (t : Datatype) (e : Cell), n.IsValue v →
        c.accepts t e (some v) = true

/-- Every condition with a list that has the number in it compares by its first branch where the
expected cell holds the number. -/
def ConditionSelects (n : Yaml.Number) : Prop :=
  ∀ (node body : Yaml.Node) (items : List Yaml.Node) (c thenBy : Comparator),
    node.HasEntry "conditional" body → (body.field "when").list? = some items →
      .number n ∈ items → ofNode node = .ok c → ofNode (body.field "then") = .ok thenBy →
        ∀ (v : Value) (t : Datatype) (a : Cell), n.IsValue v →
          c.check t (some v) a = thenBy.check t (some v) a

theorem oneOf_accepts_iff {t : Datatype} {e a : Cell} :
    (oneOf values).accepts t e a = true ↔ a.render ∈ values := by
  unfold accepts check
  split <;> simp_all

theorem ofNode_oneOf_singleton (n : Yaml.Number) :
    ofNode (.mapping [(.text "one_of", .list [.number n])]) = .ok (.oneOf [n.text]) := by
  rw [ofNode]
  rfl

theorem oneOfAccepts_iff : OneOfAccepts n ↔ ∀ v, n.IsValue v → n.text = v.display := by
  constructor
  · intro h v hv
    have haccepts := h _ _ _ _ ⟨_, _, rfl, rfl, by decide⟩ rfl List.mem_cons_self
      (ofNode_oneOf_singleton n) v .unknown none hv
    exact (List.mem_singleton.mp (oneOf_accepts_iff.mp haccepts)).symm
  · intro htext node body items c hnode hbody hn hc v t e hv
    obtain ⟨values, hvalues, rfl⟩ := exists_of_ofNode_oneOf hnode hc
    have hmem := text_mem_of_readTexts hbody hn hvalues
    rw [htext v hv] at hmem
    exact oneOf_accepts_iff.mpr hmem

theorem check_conditional {when : List String} {thenBy otherwiseBy : Comparator} {t : Datatype}
    {e a : Cell} :
    (conditional when thenBy otherwiseBy).check t e a =
      if e.render ∈ when then thenBy.check t e a else otherwiseBy.check t e a := by
  rw [check]
  simp only [List.contains_iff_mem]

/-- A condition on a number with a branch that accepts everything and one that accepts nothing. -/
def probe (n : Yaml.Number) : Yaml.Node :=
  .mapping [(.text "when", .list [.number n]), (.text "then", .text "ignore"),
    (.text "otherwise", .mapping [(.text "one_of", .list [])])]

theorem ofNode_probe (n : Yaml.Number) :
    ofNode ((probe n).field "then") = .ok .ignore ∧
      ofNode (.mapping [(.text "conditional", probe n)]) =
        .ok (.conditional [n.text] .ignore (.oneOf [])) := by
  have hwhen : readTexts ((probe n).field "when") = .ok [n.text] := rfl
  have hthen : ofNode ((probe n).field "then") = .ok .ignore := by
    rw [ofNode]
    rfl
  have hotherwise : ofNode ((probe n).field "otherwise") = .ok (.oneOf []) := by
    rw [ofNode]
    rfl
  refine ⟨hthen, ?_⟩
  rw [ofNode_conditional ⟨_, _, rfl, rfl, by decide⟩, hwhen, hthen, hotherwise]
  rfl

theorem conditionSelects_iff :
    ConditionSelects n ↔ ∀ v, n.IsValue v → n.text = v.display := by
  constructor
  · intro h v hv
    obtain ⟨hthen, hspec⟩ := ofNode_probe n
    have hselects := h _ _ [.number n] _ .ignore ⟨_, _, rfl, rfl, by decide⟩ rfl List.mem_cons_self
      hspec hthen v .unknown none hv
    by_contra htext
    have hmem : Cell.render (some v) ∉ [n.text] := fun hmem =>
      htext (List.mem_singleton.mp hmem).symm
    rw [check_conditional, if_neg hmem] at hselects
    cases hselects
  · intro htext node body items c thenBy hnode hbody hn hc hthen v t a hv
    obtain ⟨when, thenBy', otherwiseBy, hwhen, hthen', rfl⟩ :=
      exists_of_ofNode_conditional hnode hc
    obtain rfl := Except.ok.inj (hthen.symm.trans hthen')
    have hmem := text_mem_of_readTexts hbody hn hwhen
    rw [htext v hv] at hmem
    rw [check_conditional]
    exact if_pos hmem

/-- A number in a list of values matches all the cells that hold it exactly if it is written as they
show it, both where it permits values and where it is a condition. -/
theorem listed_numbers_match_iff (hn : n.InCells) :
    (OneOfAccepts n ↔ n.WrittenAsShown) ∧ (ConditionSelects n ↔ n.WrittenAsShown) :=
  ⟨oneOfAccepts_iff.trans (Yaml.Number.text_eq_display_iff hn),
    conditionSelects_iff.trans (Yaml.Number.text_eq_display_iff hn)⟩

/-- One half, which is written and shown as 0.5. -/
def half : Binary64 := ⟨false, 1022 * Number.twoPow 52, by decide⟩

theorem writtenAsShown_half : (Yaml.Number.float half).WrittenAsShown := by
  have hfraction : half.HasFraction := show half.units % Binary64.unitsPerOne ≠ 0 by decide +kernel
  have hsignificand : half.significand = 2 ^ 52 := by decide
  have hshift : half.shift = 1021 := by decide
  have hspacing : half.spacing = 2 ^ (-53 : ℤ) := by
    rw [Binary64.spacing_eq_zpow, hshift]
    norm_num
  have hsize : half.size = 1 / 2 := by
    rw [Binary64.size_eq, hspacing, hsignificand]
    norm_num
  refine ⟨hfraction, ?_, ?_⟩
  · rw [hsize]
    norm_num
  · rintro ⟨j, q, hodd, hplaces, -⟩
    have hpower : 2 ^ j = 4 * q + 1 := by
      rw [hsize, pow_succ] at hodd
      have hodd : (2 : ℚ) ^ j = 4 * q + 1 := by linarith
      exact_mod_cast hodd
    cases j with
    | zero =>
      rw [hspacing] at hplaces
      norm_num at hplaces
    | succ j =>
      rw [Nat.pow_succ] at hpower
      omega

/-- One half in a list matches the cells that hold it. -/
theorem listed_numbers_match_half :
    (Yaml.Number.float half).InCells ∧ OneOfAccepts (.float half) ∧
      ConditionSelects (.float half) := by
  have hn : (Yaml.Number.float half).InCells := show half.isFinite = true by decide
  obtain ⟨honeOf, hcondition⟩ := listed_numbers_match_iff hn
  exact ⟨hn, honeOf.mpr writtenAsShown_half, hcondition.mpr writtenAsShown_half⟩

/-- A whole binary number is written with a fraction and shown without one. -/
theorem listed_one_not_matched :
    (Yaml.Number.float (.ofInt 1)).InCells ∧
      (Yaml.Number.float (.ofInt 1)).IsValue (.float (.ofInt 1)) ∧
      ofNode (.mapping [(.text "one_of", .list [.number (.float (.ofInt 1))])]) =
        .ok (.oneOf ["1.0"]) ∧
      (oneOf ["1.0"]).check .float none (some (.float (.ofInt 1))) =
        some (.notListed (some (.float (.ofInt 1))) ["1.0"]) ∧
      ¬ OneOfAccepts (.float (.ofInt 1)) ∧ ¬ ConditionSelects (.float (.ofInt 1)) := by
  have hn : (Yaml.Number.float (.ofInt 1)).InCells :=
    show (Binary64.ofInt 1).isFinite = true by decide +kernel
  have hvalue : (Yaml.Number.float (.ofInt 1)).IsValue (.float (.ofInt 1)) :=
    .float _ _ (Binary64.equals_self hn)
  have htext : (Yaml.Number.float (.ofInt 1)).text = "1.0" := by decide +kernel
  have hshown : (Value.float (.ofInt 1)).display = "1" := by decide +kernel
  have hdiffer : ¬ ∀ v, (Yaml.Number.float (.ofInt 1)).IsValue v →
      (Yaml.Number.float (.ofInt 1)).text = v.display := fun h => by
    have hsame := h _ hvalue
    rw [htext, hshown] at hsame
    exact absurd hsame (by decide)
  refine ⟨hn, hvalue, ?_, ?_, fun h => hdiffer (oneOfAccepts_iff.mp h),
    fun h => hdiffer (conditionSelects_iff.mp h)⟩
  · rw [ofNode_oneOf_singleton, htext]
  · refine if_neg ?_
    rw [List.contains_iff_mem, List.mem_singleton]
    show ¬ (Value.float (.ofInt 1)).display = "1.0"
    rw [hshown]
    decide

end Comparator

end TableDiff
