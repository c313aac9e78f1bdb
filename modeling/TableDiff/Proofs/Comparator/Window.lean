import TableDiff.Comparator

/-!
# Windows of time

A window bounds the time from the expected instant to the actual one in milliseconds. The time is
counted in whole milliseconds, and what is left over is dropped toward zero. So a window takes in
what lies beyond either of its bounds by less than a millisecond, and is exact for all else.
-/

namespace TableDiff

/-! ## Whole milliseconds -/

section

variable {d b : Int}

theorem tdiv_le_iff_lt (hd : 0 < d) (hb : 0 ≤ b) (x : Int) : x.tdiv d ≤ b ↔ x < (b + 1) * d := by
  by_cases hx : 0 ≤ x
  · rw [Int.tdiv_eq_ediv_of_nonneg hx, Int.ediv_le_iff_le_mul hd, Int.add_mul, Int.one_mul]
  · -- A quotient toward zero is at most zero here, and so is what it is compared with.
    have hneg : 0 ≤ (-x).tdiv d := Int.tdiv_nonneg (by omega) (by omega)
    rw [Int.neg_tdiv] at hneg
    have hbound : 0 ≤ (b + 1) * d := Int.mul_nonneg (by omega) (by omega)
    constructor <;> intro _ <;> omega

theorem neg_le_tdiv_iff_lt (hd : 0 < d) (hb : 0 ≤ b) (x : Int) :
    -b ≤ x.tdiv d ↔ -((b + 1) * d) < x := by
  have h := tdiv_le_iff_lt hd hb (-x)
  rw [Int.neg_tdiv] at h
  omega

end

namespace DateTime

variable {x y : DateTime}

/-! ## Windows -/

/-- The actual instant is at most `lowMs` milliseconds before the expected one and at most `highMs`
after it, to the nanosecond. -/
def InWindow (lowMs highMs : Int) (expected actual : DateTime) : Prop :=
  -(lowMs * 1000000) ≤ actual.nanosSince expected ∧
    actual.nanosSince expected ≤ highMs * 1000000

/-- The actual instant is outside of the window, by less than a millisecond. -/
def JustOutside (lowMs highMs : Int) (expected actual : DateTime) : Prop :=
  (-((lowMs + 1) * 1000000) < actual.nanosSince expected ∧
      actual.nanosSince expected < -(lowMs * 1000000)) ∨
    (highMs * 1000000 < actual.nanosSince expected ∧
      actual.nanosSince expected < (highMs + 1) * 1000000)

instance (lowMs highMs : Int) (x y : DateTime) : Decidable (InWindow lowMs highMs x y) :=
  inferInstanceAs (Decidable (_ ∧ _))

instance (lowMs highMs : Int) (x y : DateTime) : Decidable (JustOutside lowMs highMs x y) :=
  inferInstanceAs (Decidable (_ ∨ _))

theorem JustOutside.not_inWindow {low high : Int} (h : JustOutside low high x y) :
    ¬ InWindow low high x y := by
  unfold JustOutside at h
  unfold InWindow
  omega

/-- A window is open at one millisecond beyond its bounds. -/
theorem withinWindow_iff_lt {lowMs highMs : Int64} (hlow : 0 ≤ lowMs.toInt)
    (hhigh : 0 ≤ highMs.toInt) (x y : DateTime) :
    withinWindow lowMs highMs x y = true ↔
      -((lowMs.toInt + 1) * 1000000) < y.nanosSince x ∧
        y.nanosSince x < (highMs.toInt + 1) * 1000000 := by
  unfold withinWindow millisSince
  rw [decide_eq_true_iff, neg_le_tdiv_iff_lt (by decide) hlow, tdiv_le_iff_lt (by decide) hhigh]

theorem withinWindow_iff_inWindow_or {lowMs highMs : Int64} (hlow : 0 ≤ lowMs.toInt)
    (hhigh : 0 ≤ highMs.toInt) (x y : DateTime) :
    withinWindow lowMs highMs x y = true ↔
      InWindow lowMs.toInt highMs.toInt x y ∨ JustOutside lowMs.toInt highMs.toInt x y := by
  rw [withinWindow_iff_lt hlow hhigh]
  unfold InWindow JustOutside
  omega

/-! ## Instants on whole milliseconds -/

theorem TimeOfDay.dvd_nanosSince {u v : TimeOfDay} (hu : 1000000 ∣ u.nanosecond)
    (hv : 1000000 ∣ v.nanosecond) : (1000000 : Int) ∣ u.nanosSince v := by
  unfold TimeOfDay.nanosSince nanosPerSecond
  dsimp only
  omega

theorem dvd_nanosSince (hx : 1000000 ∣ x.time.nanosecond) (hy : 1000000 ∣ y.time.nanosecond) :
    (1000000 : Int) ∣ y.nanosSince x := by
  have htime : (1000000 : Int) ∣ y.time.nanosSince x.time := TimeOfDay.dvd_nanosSince hy hx
  unfold nanosSince nanosPerSecond
  omega

/-- Between instants on whole milliseconds nothing is dropped. -/
theorem not_justOutside_of_dvd {low high : Int} (hx : 1000000 ∣ x.time.nanosecond)
    (hy : 1000000 ∣ y.time.nanosecond) : ¬ JustOutside low high x y := by
  have hdvd : (1000000 : Int) ∣ y.nanosSince x := dvd_nanosSince hx hy
  unfold JustOutside
  omega

end DateTime

/-! ## Comparators -/

namespace Comparator

variable {lowMs highMs : Int64} {t : Datatype} {e a : Value} {x y : DateTime}

theorem accepts_window_eq (he : e.instant? t = some x) (ha : a.instant? t = some y) :
    (window lowMs highMs).accepts t (some e) (some a) = DateTime.withinWindow lowMs highMs x y := by
  simp only [accepts, check, he, ha]
  cases DateTime.withinWindow lowMs highMs x y <;> rfl

/-- A window is exact but for the actual instants that it misses by less than a millisecond; these
it accepts. -/
theorem accepts_window_iff_inWindow (hlow : 0 ≤ lowMs.toInt) (hhigh : 0 ≤ highMs.toInt)
    (he : e.instant? t = some x) (ha : a.instant? t = some y) :
    ((window lowMs highMs).accepts t (some e) (some a) = true ↔
        DateTime.InWindow lowMs.toInt highMs.toInt x y) ↔
      ¬ DateTime.JustOutside lowMs.toInt highMs.toInt x y := by
  rw [accepts_window_eq he ha, DateTime.withinWindow_iff_inWindow_or hlow hhigh]
  constructor
  · intro hexact houtside
    exact houtside.not_inWindow (hexact.mp (.inr houtside))
  · intro hnot
    exact or_iff_left hnot

/-- The last instant of a window is accepted and the next millisecond is not. -/
theorem accepts_window_iff_inWindow_bounds :
    (window 0 1000).accepts .datetime (some (.text "2024-01-01 00:00:00"))
        (some (.text "2024-01-01 00:00:01")) = true ∧
      (window 0 1000).accepts .datetime (some (.text "2024-01-01 00:00:00"))
        (some (.text "2024-01-01 00:00:01.001")) = false := by
  let start : DateTime := ⟨⟨2024, 1, 1, by decide⟩, .midnight⟩
  let last : DateTime := ⟨start.date, ⟨1, 0, by decide, by decide⟩⟩
  let next : DateTime := ⟨start.date, ⟨1, 1000000, by decide, by decide⟩⟩
  have hstart : (Value.text "2024-01-01 00:00:00").instant? .datetime = some start := by decide
  have hlast : (Value.text "2024-01-01 00:00:01").instant? .datetime = some last := by decide
  have hnext : (Value.text "2024-01-01 00:00:01.001").instant? .datetime = some next := by decide
  have hlow : 0 ≤ (0 : Int64).toInt := by decide
  have hhigh : 0 ≤ (1000 : Int64).toInt := by decide
  constructor
  · refine ((accepts_window_iff_inWindow hlow hhigh hstart hlast).mpr ?_).mpr (by decide)
    exact DateTime.not_justOutside_of_dvd (by decide) (by decide)
  · rw [Bool.eq_false_iff]
    refine mt ((accepts_window_iff_inWindow hlow hhigh hstart hnext).mpr ?_).mp (by decide)
    exact DateTime.not_justOutside_of_dvd (by decide) (by decide)

/-- Half a millisecond is accepted where no difference is allowed. -/
theorem accepts_window_not_inWindow :
    (window 0 0).accepts .datetime (some (.text "2024-01-01 00:00:00"))
        (some (.text "2024-01-01 00:00:00.0005")) = true ∧
      (Value.text "2024-01-01 00:00:00").instant? .datetime =
        some ⟨⟨2024, 1, 1, by decide⟩, .midnight⟩ ∧
      (Value.text "2024-01-01 00:00:00.0005").instant? .datetime =
        some ⟨⟨2024, 1, 1, by decide⟩, ⟨0, 500000, by decide, by decide⟩⟩ ∧
      ¬ DateTime.InWindow 0 0 ⟨⟨2024, 1, 1, by decide⟩, .midnight⟩
        ⟨⟨2024, 1, 1, by decide⟩, ⟨0, 500000, by decide, by decide⟩⟩ :=
  ⟨by decide, by decide, by decide, by decide⟩

end Comparator

end TableDiff
