import Mathlib
import TableDiff.Comparator

/-!
# Ranks

The values of one kind are ordered linearly up to values that mean the same. A value has a rank,
a list of rational numbers, and values of one kind are compared as their ranks are: the first
numbers that differ decide. The rank of an empty cell is the least one.
-/

namespace TableDiff

/-! ## Comparing lists -/

section Lists

variable {α : Type} [LinearOrder α] {a b : α} {as bs : List α} {o p : Ordering}

/-- The heads of two lists decide, and where they are equal the tails do. -/
theorem compares_cons (h : o.Compares a b) (ht : p.Compares as bs) :
    (o.then p).Compares (a :: as) (b :: bs) := by
  cases o with
  | lt => exact List.cons_lt_cons_iff.mpr (Or.inl h)
  | gt => exact List.cons_lt_cons_iff.mpr (Or.inl h)
  | eq =>
    obtain rfl : a = b := h
    have htail : StrictMono (List.cons a) := fun _ _ h =>
      List.cons_lt_cons_iff.mpr (Or.inr ⟨rfl, h⟩)
    exact htail.compares.mpr ht

theorem compares_singleton (h : o.Compares a b) : o.Compares [a] [b] := by
  have hnil : Ordering.eq.Compares ([] : List α) [] := rfl
  simpa using compares_cons h hnil

end Lists

/-! ## The ranks of values -/

/-- The rational number that a decimal number stands for. -/
def Decimal.toRat (d : Decimal) : ℚ := d.numerator / Number.tenPow d.scale

def Date.rank (d : Date) : List ℚ := [d.year, d.month, d.day]

def TimeOfDay.rank (t : TimeOfDay) : List ℚ := [t.secondOfDay, t.nanosecond]

/-- The place of a value among those of its kind. -/
def Value.rank : Value → List ℚ
  | .text s => s.toList.map fun c => (c.toNat : ℚ)
  | .integer i => [i.toInt]
  | .float x => [x.orderKey]
  | .boolean b => [b.toNat]
  | .date d => d.rank
  | .dateTime d => d.date.rank ++ d.time.rank
  | .time t => t.rank
  | .guid g => [g.value]
  | .decimal d => [d.toRat]

/-- The place of a cell among those of a kind. -/
def Cell.rank : Cell → WithBot (List ℚ)
  | none => ⊥
  | some v => (v.rank : WithBot (List ℚ))

/-! ## Comparing values by rank -/

theorem compares_natCast (m n : Nat) : (compare m n).Compares (m : ℚ) n :=
  Nat.strictMono_cast.compares.mpr ((compare_iff m n).mp rfl)

theorem compares_intCast (i j : Int) : (compare i j).Compares (i : ℚ) j :=
  Int.cast_strictMono.compares.mpr ((compare_iff i j).mp rfl)

theorem compares_text (s t : String) :
    (compare s t).Compares (Value.text s).rank (Value.text t).rank := by
  have hmono : StrictMono fun s : String => s.toList.map fun c => (c.toNat : ℚ) := by
    intro s t h
    apply List.map_lt _ (String.lt_iff_toList_lt.mp h)
    intro c d hcd
    exact Nat.cast_lt.mpr hcd
  exact hmono.compares.mpr ((compare_iff s t).mp rfl)

theorem Date.compares_rank (a b : Date) : (a.compare b).Compares a.rank b.rank :=
  compares_cons (compares_intCast ..)
    (compares_cons (compares_natCast ..) (compares_singleton (compares_natCast ..)))

theorem TimeOfDay.compares_rank (a b : TimeOfDay) : (a.compare b).Compares a.rank b.rank :=
  compares_cons (compares_natCast ..) (compares_singleton (compares_natCast ..))

theorem DateTime.compares_rank (a b : DateTime) :
    (a.compare b).Compares (a.date.rank ++ a.time.rank) (b.date.rank ++ b.time.rank) := by
  unfold DateTime.compare Date.compare
  rw [Ordering.then_assoc, Ordering.then_assoc]
  exact compares_cons (compares_intCast ..) (compares_cons (compares_natCast ..)
    (compares_cons (compares_natCast ..) (TimeOfDay.compares_rank ..)))

/-- The cross products of two decimal numbers are ordered as the numbers are. -/
theorem Decimal.compares_toRat (d e : Decimal) : (d.compare e).Compares d.toRat e.toRat := by
  have hd : (0 : ℚ) < Number.tenPow d.scale := Nat.cast_pos.mpr (Nat.pow_pos (by decide))
  have he : (0 : ℚ) < Number.tenPow e.scale := Nat.cast_pos.mpr (Nat.pow_pos (by decide))
  have hscale : StrictMono fun x : ℚ => x * (Number.tenPow d.scale * Number.tenPow e.scale) :=
    fun x y h => mul_lt_mul_of_pos_right h (mul_pos hd he)
  have hleft : d.toRat * (Number.tenPow d.scale * Number.tenPow e.scale) =
      (d.numerator * Number.tenPow e.scale : Int) := by
    unfold toRat
    push_cast
    field_simp
  have hright : e.toRat * (Number.tenPow d.scale * Number.tenPow e.scale) =
      (e.numerator * Number.tenPow d.scale : Int) := by
    unfold toRat
    push_cast
    field_simp
  rw [← hscale.compares, hleft, hright]
  exact compares_intCast _ _

/-- Values of one kind are compared as their ranks are. -/
theorem Value.compares_rank {v w : Value} (h : v.datatype = w.datatype) :
    ∃ o, v.compare? w = some o ∧ o.Compares v.rank w.rank := by
  cases v <;> cases w <;> simp only [datatype, reduceCtorEq] at h <;> refine ⟨_, rfl, ?_⟩
  case text.text s t => exact compares_text s t
  case integer.integer i j => exact compares_singleton (compares_intCast ..)
  case float.float x y => exact compares_singleton (compares_intCast ..)
  case boolean.boolean a b => exact compares_singleton (compares_natCast ..)
  case date.date a b => exact a.compares_rank b
  case dateTime.dateTime a b => exact a.compares_rank b
  case time.time a b => exact a.compares_rank b
  case guid.guid a b => exact compares_singleton (compares_natCast ..)
  case decimal.decimal d e => exact compares_singleton (d.compares_toRat e)

/-! ## Cells of one kind -/

namespace Cell

/-- A cell is empty or holds a value of a datatype. -/
def IsOf (t : Datatype) (c : Cell) : Prop := ∀ v ∈ c, v.datatype = t

variable {t : Datatype} {c d : Cell}

theorem isOf_none (t : Datatype) : IsOf t none := by
  rintro v ⟨⟩

theorem isOf_some {v : Value} : IsOf t (some v) ↔ v.datatype = t := by
  simp [IsOf]

theorem compares_rank_some {v w : Value} (h : v.datatype = w.datatype) :
    (Cell.compare (some v) (some w)).Compares v.rank w.rank := by
  obtain ⟨o, ho, hcompares⟩ := Value.compares_rank h
  simp only [Cell.compare, ho, Option.getD_some]
  exact hcompares

/-- Cells of one kind are compared as their ranks are. -/
theorem compares_rank (hc : IsOf t c) (hd : IsOf t d) :
    (Cell.compare c d).Compares c.rank d.rank := by
  cases c with
  | none =>
    cases d with
    | none => exact rfl
    | some w => exact WithBot.bot_lt_coe w.rank
  | some v =>
    cases d with
    | none => exact WithBot.bot_lt_coe v.rank
    | some w =>
      have hkind : v.datatype = w.datatype := (isOf_some.mp hc).trans (isOf_some.mp hd).symm
      exact WithBot.coe_strictMono.compares.mpr (compares_rank_some hkind)

theorem compare_eq_eq_iff (hc : IsOf t c) (hd : IsOf t d) :
    Cell.compare c d = .eq ↔ c.rank = d.rank :=
  (compares_rank hc hd).eq_eq

@[simp] theorem compare_self (c : Cell) : Cell.compare c c = .eq := by
  cases c with
  | none => rfl
  | some v => exact (compare_eq_eq_iff (isOf_some.mpr rfl) (isOf_some.mpr rfl)).mpr rfl

theorem order?_of_compare? {v w : Value} {o : Ordering} (h : w.compare? v = some o) :
    Cell.order? (some v) (some w) = some o := by
  simp only [order?, h]

/-- Cells of one kind are equal in order if they have the same rank. -/
theorem order?_eq_eq_iff (hc : IsOf t c) (hd : IsOf t d) :
    Cell.order? c d = some .eq ↔ c.rank = d.rank := by
  cases c with
  | none =>
    cases d with
    | none => exact iff_of_true rfl rfl
    | some w => exact iff_of_false (by simp [order?]) WithBot.bot_ne_coe
  | some v =>
    cases d with
    | none => exact iff_of_false (by simp [order?]) WithBot.coe_ne_bot
    | some w =>
      have hkind : w.datatype = v.datatype := (isOf_some.mp hd).trans (isOf_some.mp hc).symm
      obtain ⟨o, ho, hcompares⟩ := Value.compares_rank hkind
      have hrank : o = .eq ↔ v.rank = w.rank := hcompares.eq_eq.trans eq_comm
      rw [order?_of_compare? ho, Option.some.injEq, hrank]
      exact WithBot.coe_inj.symm

/-- A cell that holds a value has the cast of the value. -/
theorem cast_some_eq_ok_iff {u : Datatype} {v : Value} {side : Side} :
    Cell.cast u side (some v) = .ok d ↔ ∃ w, v.cast u = .ok w ∧ d = some w := by
  unfold Cell.cast
  dsimp only
  cases v.cast u with
  | ok w => simp [eq_comm]
  | error e => simp

/-- The cast of a cell to its own datatype, or to none in particular, changes nothing. -/
theorem cast_of_isOf {u : Datatype} (h : u = .unknown ∨ IsOf u c) (side : Side) :
    c.cast u side = .ok c := by
  cases c with
  | none => rfl
  | some v =>
    have hcast : v.cast u = .ok v := if_pos (h.imp_right isOf_some.mp)
    exact cast_some_eq_ok_iff.mpr ⟨v, hcast, rfl⟩

end Cell

/-- Equality accepts cells of one kind if they have the same rank, under their datatype and under
none in particular. -/
theorem equality_accepts_iff {u t : Datatype} {c d : Cell} (hu : u = .unknown ∨ u = t)
    (hc : Cell.IsOf t c) (hd : Cell.IsOf t d) :
    Comparator.equality.accepts u c d = true ↔ c.rank = d.rank := by
  have hcast : ∀ {x : Cell}, Cell.IsOf t x → ∀ side, x.cast u side = .ok x := fun hx =>
    Cell.cast_of_isOf (hu.imp_right fun h : u = t => h ▸ hx)
  rw [← Cell.order?_eq_eq_iff hc hd]
  unfold Comparator.accepts Comparator.equality Comparator.check Relation.check
  rw [hcast hc, hcast hd]
  dsimp only
  cases Cell.order? c d with
  | none => simp [Relation.holds]
  | some o => cases o <;> simp [Relation.holds]

end TableDiff
