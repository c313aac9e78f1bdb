import TableDiff.Proofs.Value.TextOrder

/-!
# Kinds that share an order

The order of cells is pieced together from the order of each kind, the order of numbers, and the
order of texts. Some kinds fit together: their values have one linear order, up to values that
mean the same. Others do not, and then three cells can be found that the order sends in a circle.
-/

namespace TableDiff

/-! ## Groups of kinds -/

namespace Datatype

/-- The kinds that have one order in common. Truth values go with everything but binary numbers,
since their words come after all numbers, dates and times. Times do not go with texts, since a leap
second within a minute shows as the second after it. -/
def orderGroups : List (List Datatype) :=
  [[.string, .boolean, .guid], [.time, .boolean, .guid], [.integer, .decimal, .boolean],
    [.date, .boolean], [.datetime, .boolean], [.float]]

/-- Whether two datatypes have an order in common. -/
def sharesOrder (t u : Datatype) : Bool :=
  orderGroups.any fun group => group.contains t && group.contains u

theorem mem_all (t : Datatype) : t ∈ all := by
  cases t <;> decide

/-- Three kinds of which any two share an order share one. -/
theorem exists_group {t u s : Datatype} (htu : sharesOrder t u = true)
    (hus : sharesOrder u s = true) (hts : sharesOrder t s = true) :
    ∃ group ∈ orderGroups, t ∈ group ∧ u ∈ group ∧ s ∈ group := by
  have hall : ∀ t ∈ all, ∀ u ∈ all, ∀ s ∈ all, sharesOrder t u = true → sharesOrder u s = true →
      sharesOrder t s = true → ∃ group ∈ orderGroups, t ∈ group ∧ u ∈ group ∧ s ∈ group := by
    decide +kernel
  exact hall t (mem_all t) u (mem_all u) s (mem_all s) htu hus hts

end Datatype

/-! ## The order of a group -/

theorem Cell.compare_swap (c d : Cell) : (Cell.compare c d).swap = Cell.compare d c := by
  cases c with
  | none => cases d <;> rfl
  | some v =>
    cases d with
    | none => rfl
    | some w =>
      simp only [compare, ← Value.compare?_swap v w]
      cases v.compare? w with
      | some o => rfl
      | none => exact Std.OrientedOrd.eq_swap.symm

theorem Decimal.toRat_ofInt64 (i : Int64) : (Decimal.ofInt64 i).toRat = i.toInt := by
  have hnumerator : (Decimal.ofInt64 i).numerator = i.toInt := by
    unfold numerator ofInt64
    dsimp only
    split
    · rename_i hneg
      have hneg := of_decide_eq_true hneg
      omega
    · rename_i hneg
      have hneg : ¬i.toInt < 0 := fun h => hneg (decide_eq_true h)
      omega
  have hscale : Number.tenPow (Decimal.ofInt64 i).scale = 1 := rfl
  rw [toRat, hnumerator, hscale, Nat.cast_one, div_one]

namespace Value

variable {v w x : Value}

/-- The place of a value among numbers and truth values, or among dates and truth values. -/
def ordinal (v : Value) : Bool ×ₗ List ℚ := toLex (v.datatype == .boolean, v.rank)

theorem compares_ordinal_of_rank {o : Ordering} (h : o.Compares v.rank w.rank)
    (hkind : (v.datatype == .boolean) = (w.datatype == .boolean)) :
    o.Compares v.ordinal w.ordinal := by
  unfold ordinal
  rw [hkind]
  cases o with
  | lt => exact Prod.Lex.toLex_lt_toLex.mpr (Or.inr ⟨rfl, h⟩)
  | eq => exact congrArg (fun r => toLex (_, r)) h
  | gt => exact Prod.Lex.toLex_lt_toLex.mpr (Or.inr ⟨rfl, h⟩)

/-- Integers and decimal numbers are compared as the numbers they stand for. -/
theorem compares_rank_of_exact (hv : v.datatype = .integer ∨ v.datatype = .decimal)
    (hw : w.datatype = .integer ∨ w.datatype = .decimal) :
    (Cell.compare (some v) (some w)).Compares v.rank w.rank := by
  cases v <;> simp [datatype] at hv <;> cases w <;> simp [datatype] at hw
  case integer.integer i j => exact compares_singleton (compares_intCast ..)
  case integer.decimal i d =>
    have horder := Decimal.compares_toRat (.ofInt64 i) d
    rw [Decimal.toRat_ofInt64] at horder
    exact compares_singleton horder
  case decimal.integer d i =>
    have horder := Decimal.compares_toRat d (.ofInt64 i)
    rw [Decimal.toRat_ofInt64] at horder
    exact compares_singleton horder
  case decimal.decimal d e => exact compares_singleton (d.compares_toRat e)

theorem compares_ordinal_boolean (hv : v.datatype ∈ countingKinds) (hw : w.datatype = .boolean) :
    (Cell.compare (some v) (some w)).Compares v.ordinal w.ordinal := by
  cases w <;> simp only [datatype, reduceCtorEq] at hw
  rename_i b
  have hfirst : (v.datatype == .boolean) = false := by
    cases v <;> simp [datatype, countingKinds] at hv <;> rfl
  rw [compare_boolean hv]
  -- Truth values are behind all others, whatever the ranks are.
  apply Prod.Lex.toLex_lt_toLex.mpr
  rw [hfirst]
  exact Or.inl rfl

/-- In every group without texts, times and identifiers values are ordered by their kind and
rank. -/
theorem compares_ordinal {group : List Datatype} (hgroup : group ∈ Datatype.orderGroups)
    (htextual : group ≠ textualKinds) (hleading : group ≠ leadingKinds)
    (hv : v.datatype ∈ group) (hw : w.datatype ∈ group) :
    (Cell.compare (some v) (some w)).Compares v.ordinal w.ordinal := by
  -- Two kinds of such a group are one, or two kinds of exact numbers, or one of them is `boolean`.
  have hkinds : ∀ group ∈ Datatype.orderGroups, group ≠ textualKinds → group ≠ leadingKinds →
      ∀ t ∈ group, ∀ u ∈ group,
        t = u ∨ (t = .integer ∨ t = .decimal) ∧ (u = .integer ∨ u = .decimal) ∨
          t ∈ countingKinds ∧ u = .boolean ∨ t = .boolean ∧ u ∈ countingKinds := by
    decide
  rcases hkinds group hgroup htextual hleading _ hv _ hw with h | ⟨hv, hw⟩ | ⟨hv, hw⟩ | ⟨hv, hw⟩
  · exact compares_ordinal_of_rank (Cell.compares_rank_some h) (by rw [h])
  · apply compares_ordinal_of_rank (compares_rank_of_exact hv hw)
    rcases hv with hv | hv <;> rcases hw with hw | hw <;> rw [hv, hw] <;> rfl
  · exact compares_ordinal_boolean hv hw
  · have hreversed := compares_ordinal_boolean hw hv
    rw [← Cell.compare_swap]
    exact Ordering.compares_swap.mpr hreversed

/-- The values of a group have one linear order, up to values that mean the same. -/
theorem exists_order {group : List Datatype} (hgroup : group ∈ Datatype.orderGroups) :
    ∃ (α : Type) (_ : LinearOrder α) (place : Value → α), ∀ v w : Value, v.datatype ∈ group →
      w.datatype ∈ group → (Cell.compare (some v) (some w)).Compares (place v) (place w) := by
  by_cases htextual : group = textualKinds
  · subst htextual
    exact ⟨String, inferInstance, display, fun _ _ => compares_display⟩
  by_cases hleading : group = leadingKinds
  · subst hleading
    exact ⟨List Char ×ₗ List ℚ, inferInstance, leading, fun _ _ => compares_leading⟩
  exact ⟨Bool ×ₗ List ℚ, inferInstance, ordinal, fun _ _ =>
    compares_ordinal hgroup htextual hleading⟩

/-- Along a linear order the comparison is transitive. -/
theorem compare_trans {group : List Datatype} (hgroup : group ∈ Datatype.orderGroups)
    (hv : v.datatype ∈ group) (hw : w.datatype ∈ group) (hx : x.datatype ∈ group)
    (hvw : Cell.compare (some v) (some w) ≠ .gt) (hwx : Cell.compare (some w) (some x) ≠ .gt) :
    Cell.compare (some v) (some x) ≠ .gt := by
  obtain ⟨α, _, place, hplace⟩ := exists_order hgroup
  rw [(hplace v w hv hw).ne_gt] at hvw
  rw [(hplace w x hw hx).ne_gt] at hwx
  rw [(hplace v x hv hx).ne_gt]
  exact hvw.trans hwx

end Value

/-! ## Circles -/

/-- Three values of which each is at most the next, and the first is greater than the last. -/
structure Circle where
  high : Value
  middle : Value
  low : Value
deriving DecidableEq

namespace Circle

/-- The order of cells sends the three values in a circle. -/
def Closes (c : Circle) : Prop :=
  Cell.compare (some c.high) (some c.middle) ≠ .gt ∧
    Cell.compare (some c.middle) (some c.low) ≠ .gt ∧ Cell.compare (some c.high) (some c.low) = .gt

instance (c : Circle) : Decidable c.Closes := by
  unfold Closes
  infer_instance

/-- Whether the values are of two datatypes. -/
def isWithin (c : Circle) (t u : Datatype) : Bool :=
  [c.high, c.middle, c.low].all fun v => v.datatype == t || v.datatype == u

/-- Ten and three, or the years 10000 and 3000: where two kinds are compared by text, a text that
starts with `2` is between them, the greater one first. -/
def outers : List (Value × Value) :=
  [(.integer 10, .integer 3),
    (.float (.ofInt 10), .float (.ofInt 3)),
    (.decimal (.ofInt64 10), .decimal (.ofInt64 3)),
    (.date ⟨10000, 1, 1, by decide⟩, .date ⟨3000, 1, 1, by decide⟩),
    (.dateTime ⟨⟨10000, 1, 1, by decide⟩, .midnight⟩,
      .dateTime ⟨⟨3000, 1, 1, by decide⟩, .midnight⟩)]

/-- Values whose text starts with `2`. -/
def middles : List Value :=
  [.text "2", .date ⟨2000, 1, 1, by decide⟩, .dateTime ⟨⟨2000, 1, 1, by decide⟩, .midnight⟩,
    .time { TimeOfDay.midnight with
      secondOfDay := 72000
      secondOfDay_lt := by decide },
    .guid ⟨0x20000000000000000000000000000000, by decide⟩]

/-- Beside a binary number an exact one loses its last bit, and the words `NaN` and `inf` stand on
both sides of `false`, though not in the order of the numbers. -/
def floating : List Circle :=
  [⟨.integer 9007199254740993, .float (.ofInt 9007199254740992), .integer 9007199254740992⟩,
    ⟨.decimal (.ofInt64 9007199254740993), .float (.ofInt 9007199254740992),
      .decimal (.ofInt64 9007199254740992)⟩,
    ⟨.float (.nan false), .boolean false, .float (.infinity false)⟩]

/-- The leap second after 12:34:56 shows as 12:34:57.250, but it is before every time of the second
that it shows. -/
def leaping : Circle :=
  ⟨.time ⟨45297, 100000000, by decide, by decide⟩, .text "12:34:57.2",
    .time ⟨45296, 1250000000, by decide, by decide⟩⟩

/-- A circle for any two datatypes without an order in common. -/
def all : List Circle :=
  leaping :: floating ++ outers.flatMap fun (high, low) =>
    (middles.filter fun m => m.datatype != high.datatype).map fun m => ⟨high, m, low⟩

theorem closes_of_mem_all : ∀ c ∈ all, c.Closes := by
  decide +kernel

theorem exists_isWithin {t u : Datatype} (ht : t ≠ .unknown) (hu : u ≠ .unknown)
    (h : ¬t.sharesOrder u = true) : ∃ c ∈ all, c.isWithin t u = true := by
  have hall : ∀ t ∈ Datatype.all, ∀ u ∈ Datatype.all, t ≠ .unknown → u ≠ .unknown →
      ¬t.sharesOrder u = true → ∃ c ∈ all, c.isWithin t u = true := by
    decide +kernel
  exact hall t (Datatype.mem_all t) u (Datatype.mem_all u) ht hu h

end Circle

/-! ## The order of cells -/

namespace Cell

/-- A cell is empty or holds a value of one of these datatypes. -/
def Among (kinds : Set Datatype) (c : Cell) : Prop := ∀ v ∈ c, v.datatype ∈ kinds

/-- Among cells of these datatypes the order is transitive. -/
def TransitiveAmong (kinds : Set Datatype) : Prop :=
  ∀ x y z : Cell, Among kinds x → Among kinds y → Among kinds z →
    Cell.compare x y ≠ .gt → Cell.compare y z ≠ .gt → Cell.compare x z ≠ .gt

variable {kinds : Set Datatype}

theorem transitiveAmong_of_sharesOrder
    (h : ∀ t ∈ kinds, ∀ u ∈ kinds, t ≠ .unknown → u ≠ .unknown → t.sharesOrder u = true) :
    TransitiveAmong kinds := by
  intro x y z hx hy hz hxy hyz
  -- Empty cells are before all others, so only three values are left to compare.
  cases x with
  | none => cases z <;> simp [Cell.compare]
  | some v =>
    cases y with
    | none => exact absurd rfl hxy
    | some w =>
      cases z with
      | none => exact absurd rfl hyz
      | some u =>
        have hshare : ∀ {v w : Value}, v.datatype ∈ kinds → w.datatype ∈ kinds →
            v.datatype.sharesOrder w.datatype = true := fun hv hw =>
          h _ hv _ hw (Value.datatype_ne_unknown _) (Value.datatype_ne_unknown _)
        have hv := hx v rfl
        have hw := hy w rfl
        have hu := hz u rfl
        obtain ⟨group, hgroup, hvg, hwg, hug⟩ :=
          Datatype.exists_group (hshare hv hw) (hshare hw hu) (hshare hv hu)
        exact Value.compare_trans hgroup hvg hwg hug hxy hyz

theorem sharesOrder_of_transitiveAmong (h : TransitiveAmong kinds) {t u : Datatype}
    (ht : t ∈ kinds) (hu : u ∈ kinds) (htk : t ≠ .unknown) (huk : u ≠ .unknown) :
    t.sharesOrder u = true := by
  by_contra hshare
  -- The circle for the two datatypes is one among the cells that are told to have none.
  obtain ⟨c, hc, hwithin⟩ := Circle.exists_isWithin htk huk hshare
  have hamong : ∀ v ∈ [c.high, c.middle, c.low], Among kinds (some v) := by
    intro v hv w hw
    cases hw
    have hkind := List.all_eq_true.mp hwithin v hv
    rw [Bool.or_eq_true, beq_iff_eq, beq_iff_eq] at hkind
    rcases hkind with hkind | hkind
    · exact hkind ▸ ht
    · exact hkind ▸ hu
  obtain ⟨hhigh, hlow, hcloses⟩ := Circle.closes_of_mem_all c hc
  exact h (some c.high) (some c.middle) (some c.low) (hamong _ (by simp)) (hamong _ (by simp))
    (hamong _ (by simp)) hhigh hlow hcloses

/-- The order of cells is reflexive, and to exchange two cells reverses it. It is transitive among
cells of some datatypes exactly if any two of these have an order in common. -/
theorem compare_transitiveAmong_iff_sharesOrder (kinds : Set Datatype) :
    (∀ x : Cell, Cell.compare x x = .eq) ∧
    (∀ x y : Cell, Cell.compare x y = (Cell.compare y x).swap) ∧
    (TransitiveAmong kinds ↔
      ∀ t ∈ kinds, ∀ u ∈ kinds, t ≠ .unknown → u ≠ .unknown → t.sharesOrder u = true) := by
  refine ⟨compare_self, fun x y => (compare_swap y x).symm, ?_, ?_⟩
  · intro h t ht u hu htk huk
    exact sharesOrder_of_transitiveAmong h ht hu htk huk
  · exact transitiveAmong_of_sharesOrder

/-- Ten is before the text `9`, which is not after the number nine, but ten is after nine. -/
theorem compare_not_transitive :
    ¬∀ x y z : Cell, Cell.compare x y ≠ .gt → Cell.compare y z ≠ .gt →
      Cell.compare x z ≠ .gt := by
  intro h
  exact h (some (.integer 10)) (some (.text "9")) (some (.integer 9)) (by decide +kernel)
    (by decide +kernel) (by decide +kernel)

end Cell

end TableDiff
