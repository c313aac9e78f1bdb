import TableDiff.Proofs.Comparator.Specs
import TableDiff.Proofs.Comparator.Tolerance
import TableDiff.Proofs.Comparator.Window

/-!
# Bounds of configured comparators

A configuration gives bounds in three forms: a tolerance, one number of milliseconds for both sides
of a window, or a number for each. They may stand at any depth of conditions. Whatever the
configuration, a bound that is read is not negative, so cells that do not differ are within it.
-/

namespace TableDiff

/-! ## Signs and differences -/

theorem Decimal.toRat_nonneg {d : Decimal} (h : d.negative = false) : 0 ≤ d.toRat := by
  have hnumerator : d.numerator = d.mantissa := by
    unfold numerator
    rw [h]
    rfl
  unfold toRat
  rw [hnumerator]
  positivity

theorem DateTime.nanosSince_self (x : DateTime) : x.nanosSince x = 0 := by
  simp [nanosSince, TimeOfDay.nanosSince]

theorem toInt_neg_of_nonneg {i : Int64} (h : 0 ≤ i.toInt) : (-i).toInt = -i.toInt := by
  have hlt := i.toInt_lt
  rw [Int64.toInt_neg, Int.bmod_eq_of_le] <;> omega

namespace Comparator

variable {node body : Yaml.Node} {name field : String} {c p : Comparator} {d bound : Decimal}
  {ms lowMs highMs : Int64}

/-! ## Bounds -/

theorem readMillis_eq_ok_iff :
    readMillis node field = .ok ms ↔ node.int64? = some ms ∧ 0 ≤ ms.toInt := by
  unfold readMillis
  cases node.int64? with
  | none => simp
  | some i =>
    dsimp only
    split
    · rename_i hi
      rw [Except.ok.injEq, Option.some.injEq]
      exact ⟨fun h => ⟨h, h ▸ hi⟩, And.left⟩
    · rename_i hi
      refine iff_of_false nofun ?_
      rintro ⟨h, hms⟩
      exact hi (Option.some.inj h ▸ hms)

theorem readTolerance_eq_ok_iff :
    readTolerance node = .ok d ↔ ∃ s, node.numeralText? = some s ∧
      Decimal.read (Text.trim s.toList) = .ok d ∧ d.negative = false := by
  constructor
  · intro h
    cases node with
    | number n | text t =>
      unfold readTolerance at h
      dsimp only [bind, Except.bind] at h
      split at h
      · cases h
      · rename_i hread
        split at h
        · cases h
        · rename_i hsign
          cases h
          exact ⟨_, rfl, hread, Bool.eq_false_iff.mpr hsign⟩
    | _ => cases h
  · rintro ⟨s, hs, hread, hsign⟩
    rw [readTolerance_of_read hs hread, hsign]
    rfl

/-! ## Forms of configurations -/

/-- What a node stands for: a comparator by its name, or one with parameters by the single entry of
a mapping. -/
inductive Denotes : Yaml.Node → Comparator → Prop where
  | ofName {node : Yaml.Node} {given : String} {c : Comparator} (htext : node.text? = some given)
    (hname : ofName given = .ok c) : Denotes node c
  | tolerance {node body : Yaml.Node} {bound : Decimal} (hentry : node.HasEntry "tolerance" body)
    (hbound : readTolerance body = .ok bound) : Denotes node (.tolerance bound)
  | millis {node body : Yaml.Node} {ms : Int64}
    (hentry : node.HasEntry "timestamp_tolerance_ms" body)
    (hms : readMillis body "timestamp_tolerance_ms" = .ok ms) : Denotes node (.window ms ms)
  | window {node body : Yaml.Node} {lowMs highMs : Int64}
    (hentry : node.HasEntry "timestamp_tolerance" body)
    (hlow : readMillis (body.field "low_ms") "low_ms" = .ok lowMs)
    (hhigh : readMillis (body.field "high_ms") "high_ms" = .ok highMs) :
    Denotes node (.window lowMs highMs)
  | oneOf {node body : Yaml.Node} {values : List String} (hentry : node.HasEntry "one_of" body)
    (hvalues : readTexts body = .ok values) : Denotes node (.oneOf values)
  | conditional {node body : Yaml.Node} {when : List String} {thenBy otherwiseBy : Comparator}
    (hentry : node.HasEntry "conditional" body) (hwhen : readTexts (body.field "when") = .ok when)
    (hthen : Denotes (body.field "then") thenBy)
    (hotherwise : Denotes (body.field "otherwise") otherwiseBy) :
    Denotes node (.conditional when thenBy otherwiseBy)

theorem sizeOf_of_hasEntry (h : node.HasEntry name body) : sizeOf body < sizeOf node := by
  obtain ⟨key, given, hentry, -⟩ := h
  exact sizeOf_singleEntry? hentry

/-- What is read is a name or a mapping of one entry. -/
theorem ofName_or_hasEntry (h : ofNode node = .ok c) :
    (∃ given, node.text? = some given ∧ ofName given = .ok c) ∨
      ∃ name body, node.HasEntry name body := by
  rw [ofNode] at h
  split at h
  · rename_i given htext
    exact .inl ⟨given, htext, h⟩
  · split at h
    · cases h
    · rename_i key body hentry
      dsimp only at h
      split at h
      · cases h
      · rename_i given hkey
        exact .inr ⟨_, body, key, given, hentry, hkey, rfl⟩

/-- A comparator is read from exactly the nodes that stand for it. -/
theorem ofNode_eq_ok_iff : ofNode node = .ok c ↔ Denotes node c := by
  constructor
  · intro h
    induction hsize : sizeOf node using Nat.strong_induction_on generalizing node c with
    | _ n ih =>
      subst hsize
      rcases ofName_or_hasEntry h with ⟨given, htext, hname⟩ | ⟨name, body, hentry⟩
      · exact .ofName htext hname
      have hlt := sizeOf_of_hasEntry hentry
      rw [ofNode_of_hasEntry hentry] at h
      split at h
      · rename_i hname
        obtain ⟨bound, hbound, hc⟩ := exists_of_bind_eq_ok h
        cases hc
        exact .tolerance (hname ▸ hentry) hbound
      split at h
      · rename_i hname
        obtain ⟨ms, hms, hc⟩ := exists_of_bind_eq_ok h
        cases hc
        exact .millis (hname ▸ hentry) hms
      split at h
      · rename_i hname
        obtain ⟨low, hlow, h⟩ := exists_of_bind_eq_ok h
        obtain ⟨high, hhigh, hc⟩ := exists_of_bind_eq_ok h
        cases hc
        exact .window (hname ▸ hentry) hlow hhigh
      split at h
      · rename_i hname
        obtain ⟨values, hvalues, hc⟩ := exists_of_bind_eq_ok h
        cases hc
        exact .oneOf (hname ▸ hentry) hvalues
      split at h
      · rename_i hname
        obtain ⟨when, hwhen, h⟩ := exists_of_bind_eq_ok h
        obtain ⟨thenBy, hthen, h⟩ := exists_of_bind_eq_ok h
        obtain ⟨otherwiseBy, hotherwise, hc⟩ := exists_of_bind_eq_ok h
        cases hc
        have hthenSize := body.sizeOf_field_le "then"
        have hotherwiseSize := body.sizeOf_field_le "otherwise"
        exact .conditional (hname ▸ hentry) hwhen (ih _ (by omega) hthen rfl)
          (ih _ (by omega) hotherwise rfl)
      · cases h
  · intro h
    induction h with
    | ofName htext hname =>
      rw [ofNode, htext]
      exact hname
    | tolerance hentry hbound =>
      rw [ofNode_of_hasEntry hentry, if_pos rfl, hbound]
      rfl
    | millis hentry hms =>
      rw [ofNode_of_hasEntry hentry, if_neg (by decide), if_pos rfl, hms]
      rfl
    | window hentry hlow hhigh =>
      rw [ofNode_of_hasEntry hentry, if_neg (by decide), if_neg (by decide), if_pos rfl, hlow,
        hhigh]
      rfl
    | oneOf hentry hvalues =>
      rw [ofNode_of_hasEntry hentry, if_neg (by decide), if_neg (by decide), if_neg (by decide),
        if_pos rfl, hvalues]
      rfl
    | conditional hentry hwhen _ _ hthen hotherwise =>
      rw [ofNode_conditional hentry, hwhen, hthen, hotherwise]
      rfl

/-! ## Bounds at any depth -/

/-- A comparator with the comparators that its conditions choose from, at any depth. -/
def parts : Comparator → List Comparator
  | .conditional when thenBy otherwiseBy =>
    .conditional when thenBy otherwiseBy :: (thenBy.parts ++ otherwiseBy.parts)
  | c => [c]

/-- The bounds that a comparator itself has are not negative. -/
def Bounded : Comparator → Prop
  | .tolerance bound => bound.negative = false
  | .window lowMs highMs => 0 ≤ lowMs.toInt ∧ 0 ≤ highMs.toInt
  | _ => True

theorem bounded_of_ofName {given : String} (h : ofName given = .ok c) :
    ∀ p ∈ c.parts, p.Bounded := by
  have hnamed : ∀ e ∈ names ++ shortNames, ∀ p ∈ e.2.parts, p.Bounded := by
    simp [names, shortNames, parts, Bounded]
  unfold ofName at h
  dsimp only at h
  split at h
  · rename_i hlookup
    cases h
    obtain ⟨before, after, hsplit, -⟩ := List.lookup_eq_some_iff.mp hlookup
    rw [hsplit] at hnamed
    exact hnamed _ List.mem_append_cons_self
  · cases h

theorem bounded_of_denotes (h : Denotes node c) : ∀ p ∈ c.parts, p.Bounded := by
  induction h with
  | ofName htext hname => exact bounded_of_ofName hname
  | tolerance hentry hbound =>
    obtain ⟨s, -, -, hsign⟩ := readTolerance_eq_ok_iff.mp hbound
    exact List.forall_mem_singleton.mpr hsign
  | millis hentry hms =>
    have hms := (readMillis_eq_ok_iff.mp hms).2
    exact List.forall_mem_singleton.mpr ⟨hms, hms⟩
  | window hentry hlow hhigh =>
    exact List.forall_mem_singleton.mpr
      ⟨(readMillis_eq_ok_iff.mp hlow).2, (readMillis_eq_ok_iff.mp hhigh).2⟩
  | oneOf hentry hvalues => exact List.forall_mem_singleton.mpr trivial
  | conditional hentry hwhen _ _ hthen hotherwise =>
    exact List.forall_mem_cons.mpr
      ⟨trivial, List.forall_mem_append.mpr ⟨hthen, hotherwise⟩⟩

theorem mem_parts_self (c : Comparator) : c ∈ c.parts := by
  cases c <;> exact List.mem_cons_self

theorem parts_subset (hp : p ∈ c.parts) : ∀ q ∈ p.parts, q ∈ c.parts := by
  induction c with
  | conditional when thenBy otherwiseBy hthen hotherwise =>
    rcases List.mem_cons.mp hp with rfl | hp
    · exact fun _ => id
    intro q hq
    apply List.mem_cons_of_mem
    rcases List.mem_append.mp hp with hp | hp
    · exact List.mem_append_left _ (hthen hp q hq)
    · exact List.mem_append_right _ (hotherwise hp q hq)
  | _ =>
    obtain rfl := List.mem_singleton.mp hp
    exact fun _ => id

/-! ## Cells that do not differ -/

/-- The bound that a comparator applies to two cells finds no difference between them: both are
empty, or they hold one number or one instant. -/
inductive NoDifference (t : Datatype) : Comparator → Cell → Cell → Prop where
  | noNumbers (bound : Decimal) : NoDifference t (.tolerance bound) none none
  | numbers (bound : Decimal) {e a : Value} {x y : Decimal} (he : e.castDecimal? = some x)
    (ha : a.castDecimal? = some y) (h : x.toRat = y.toRat) :
    NoDifference t (.tolerance bound) (some e) (some a)
  | noInstants (lowMs highMs : Int64) : NoDifference t (.window lowMs highMs) none none
  | instants (lowMs highMs : Int64) {e a : Value} {x y : DateTime} (he : e.instant? t = some x)
    (ha : a.instant? t = some y) (h : y.nanosSince x = 0) :
    NoDifference t (.window lowMs highMs) (some e) (some a)
  | thenBy {when : List String} {thenBy : Comparator} (otherwiseBy : Comparator) {e a : Cell}
    (hwhen : when.contains e.render = true) (h : NoDifference t thenBy e a) :
    NoDifference t (.conditional when thenBy otherwiseBy) e a
  | otherwiseBy {when : List String} (thenBy : Comparator) {otherwiseBy : Comparator} {e a : Cell}
    (hwhen : when.contains e.render = false) (h : NoDifference t otherwiseBy e a) :
    NoDifference t (.conditional when thenBy otherwiseBy) e a

/-- Bounds that are not negative accept cells that do not differ. -/
theorem accepts_of_noDifference {t : Datatype} {e a : Cell} (hc : ∀ p ∈ c.parts, p.Bounded)
    (h : NoDifference t c e a) : c.accepts t e a = true := by
  induction h with
  | noNumbers bound => rfl
  | noInstants lowMs highMs => rfl
  | @numbers bound e a x y he ha hxy =>
    have hdistance : Decimal.distance x y = 0 := by
      unfold Decimal.distance
      rw [hxy, sub_self, abs_zero]
    rw [accepts_tolerance_eq he ha, Decimal.within_iff, hdistance]
    exact .inl (Decimal.toRat_nonneg (hc _ (mem_parts_self _)))
  | instants lowMs highMs he ha hxy =>
    obtain ⟨hlow, hhigh⟩ := hc _ (mem_parts_self _)
    rw [accepts_window_eq he ha, DateTime.withinWindow_iff_lt hlow hhigh, hxy]
    omega
  | thenBy otherwiseBy hwhen _ ih =>
    have hthen := ih fun p hp => hc p (List.mem_cons_of_mem _ (List.mem_append_left _ hp))
    unfold accepts check
    rw [if_pos hwhen]
    exact hthen
  | otherwiseBy thenBy hwhen _ ih =>
    have hotherwise := ih fun p hp => hc p (List.mem_cons_of_mem _ (List.mem_append_right _ hp))
    unfold accepts check
    rw [hwhen]
    exact hotherwise

/-- Whatever configuration is accepted, no bound in it is negative, at any depth of conditions: a
tolerance is a number from zero on, and the milliseconds of a window can be negated. So cells that
do not differ are accepted, and each cell that can be compared is accepted beside itself. -/
theorem bounds_of_ofNode (h : ofNode node = .ok c) :
    (∀ bound, tolerance bound ∈ c.parts →
      (bound.negative = false ∧ 0 ≤ bound.toRat ∧ bound.toRat < 2 ^ 96) ∧
      ∀ t v x, Value.castDecimal? v = some x →
        (tolerance bound).accepts t (some v) (some v) = true) ∧
    (∀ lowMs highMs, window lowMs highMs ∈ c.parts →
      (0 ≤ lowMs.toInt ∧ lowMs.toInt < 2 ^ 63 ∧ (-lowMs).toInt = -lowMs.toInt) ∧
      (0 ≤ highMs.toInt ∧ highMs.toInt < 2 ^ 63) ∧
      ∀ t v x, Value.instant? t v = some x →
        (window lowMs highMs).accepts t (some v) (some v) = true) ∧
    ∀ p ∈ c.parts, ∀ t e a, NoDifference t p e a → p.accepts t e a = true := by
  have hbounded := bounded_of_denotes (ofNode_eq_ok_iff.mp h)
  have hparts : ∀ p ∈ c.parts, ∀ t e a, NoDifference t p e a → p.accepts t e a = true :=
    fun p hp t e a => accepts_of_noDifference fun q hq => hbounded q (parts_subset hp q hq)
  refine ⟨fun bound hbound => ?tolerances, fun lowMs highMs hwindow => ?windows, hparts⟩
  case tolerances =>
    have hsign : bound.negative = false := hbounded _ hbound
    have hlt : bound.toRat < 2 ^ 96 := bound.toRat_le.trans_lt (by norm_num)
    exact ⟨⟨hsign, Decimal.toRat_nonneg hsign, hlt⟩, fun t v x hx =>
      hparts _ hbound t _ _ (.numbers bound hx hx rfl)⟩
  case windows =>
    obtain ⟨hlow, hhigh⟩ : 0 ≤ lowMs.toInt ∧ 0 ≤ highMs.toInt := hbounded _ hwindow
    exact ⟨⟨hlow, lowMs.toInt_lt, toInt_neg_of_nonneg hlow⟩, ⟨hhigh, highMs.toInt_lt⟩,
      fun t v x hx => hparts _ hwindow t _ _ (.instants lowMs highMs hx hx
        (DateTime.nanosSince_self x))⟩

/-- A window of no milliseconds before the expected instant, within two conditions, and a tolerance
of zero. Both accept a cell beside itself. -/
theorem bounds_of_ofNode_nested :
    let exact : Yaml.Node := .mapping [(.text "tolerance", .number (.integer 0))]
    let late : Yaml.Node := .mapping [(.text "timestamp_tolerance",
      .mapping [(.text "low_ms", .number (.integer 0)), (.text "high_ms", .number (.integer 5))])]
    let choice (otherwise : Yaml.Node) : Yaml.Node := .mapping [(.text "conditional",
      .mapping [(.text "when", .list [.text "x"]), (.text "then", exact),
        (.text "otherwise", otherwise)])]
    let zero : Decimal := ⟨false, 0, 0, by decide, by decide⟩
    ∃ c, ofNode (choice (choice late)) = .ok c ∧
      (tolerance zero ∈ c.parts ∧ 0 ≤ zero.toRat ∧
        (tolerance zero).accepts .decimal (some (.integer 7)) (some (.integer 7)) = true) ∧
      window 0 5 ∈ c.parts ∧ (-(0 : Int64)).toInt = -(0 : Int64).toInt ∧
      (window 0 5).accepts .time (some (.text "12:00:00")) (some (.text "12:00:00")) = true := by
  intro exact late choice zero
  have hexact : Denotes exact (.tolerance zero) :=
    .tolerance ⟨_, _, rfl, rfl, by decide⟩ (readTolerance_eq_ok_iff.mpr ⟨"0", rfl, rfl, rfl⟩)
  have hlate : Denotes late (.window 0 5) := .window ⟨_, _, rfl, rfl, by decide⟩ rfl rfl
  have hchoice : ∀ {otherwise : Yaml.Node} {other : Comparator}, Denotes otherwise other →
      Denotes (choice otherwise) (.conditional ["x"] (.tolerance zero) other) :=
    fun hother => .conditional ⟨_, _, rfl, rfl, by decide⟩ rfl hexact hother
  have hread := ofNode_eq_ok_iff.mpr (hchoice (hchoice hlate))
  have htolerance : tolerance zero ∈ parts (.conditional ["x"] (.tolerance zero)
      (.conditional ["x"] (.tolerance zero) (.window 0 5))) := by decide
  have hwindow : window 0 5 ∈ parts (.conditional ["x"] (.tolerance zero)
      (.conditional ["x"] (.tolerance zero) (.window 0 5))) := by decide
  obtain ⟨htolerances, hwindows, -⟩ := bounds_of_ofNode hread
  obtain ⟨⟨-, hzero, -⟩, hsame⟩ := htolerances zero htolerance
  obtain ⟨⟨-, -, hneg⟩, -, hinstant⟩ := hwindows 0 5 hwindow
  exact ⟨_, hread, ⟨htolerance, hzero, hsame .decimal (.integer 7) _ rfl⟩, hwindow, hneg,
    hinstant .time (.text "12:00:00") ⟨.epoch, ⟨43200, 0, by decide, by decide⟩⟩
      (by decide)⟩

end Comparator

end TableDiff
