import TableDiff.Proofs.Comparator.Laws
import TableDiff.Proofs.Number.Rereading
import TableDiff.Proofs.Value.Casting
import TableDiff.Proofs.Value.Characters

/-!
# Values from their texts

Every value but a binary number has a text that is read as a value of its kind. It is read as the
value itself, up to the sign of a decimal zero, unless the value counts a leap second within a
minute, whose text is that of the second after it. Equality judges the text as the value that is
read.
-/

namespace TableDiff

/-! ## Blanks -/

theorem trim_of_all {cs : List Char} (h : cs.all isNumeralChar = true) : Text.trim cs = cs :=
  Text.trim_eq_self fun c hc => isBlank_of_isNumeralChar (List.all_eq_true.mp h c hc)

theorem Date.text_ne_nil (d : Date) : d.text ≠ [] := by
  simp [Date.text]

theorem TimeOfDay.text_ne_nil (t : TimeOfDay) : t.text ≠ [] := by
  simp [TimeOfDay.text]

/-- The blank of an instant stands between its date and its time of day. -/
theorem DateTime.trim_text (d : DateTime) : Text.trim d.text = d.text := by
  have hdate (c : Char) (hc : c ∈ d.date.text) : Text.isBlank c = false :=
    isBlank_of_isNumeralChar (List.all_eq_true.mp (all_dateText d.date) c hc)
  have htime (c : Char) (hc : c ∈ d.time.text) : Text.isBlank c = false :=
    isBlank_of_isNumeralChar (List.all_eq_true.mp (all_timeText d.time) c hc)
  apply Text.trim_of_ends
  · intro c hc
    rw [text, List.head?_append_of_ne_nil _ d.date.text_ne_nil] at hc
    exact hdate c (List.mem_of_mem_head? hc)
  · intro c hc
    rw [text, List.append_cons, List.getLast?_append_of_ne_nil _ d.time.text_ne_nil] at hc
    exact htime c (List.mem_of_getLast? hc)

/-! ## Reading -/

theorem Decimal.read_text (d : Decimal) : Decimal.read d.text = .ok d.withoutZeroSign := by
  have hplain (c : Char) (hc : c ∈ d.text) : ¬ isExponentMark c = true := by
    rw [isExponentMark_of_isNumeralChar (List.all_eq_true.mp (all_decimalText d) c hc)]
    decide
  have hmark : ¬ d.text.any isExponentMark = true := by
    rw [List.any_eq_true]
    rintro ⟨c, hc, hc'⟩
    exact hplain c hc hc'
  unfold Decimal.read
  rw [if_neg hmark, readPositional_text]

theorem TimeOfDay.rank_shown_iff (t : TimeOfDay) : t.shown.rank = t.rank ↔ t.LeapsLast := by
  refine ⟨fun hrank => ?_, fun h => congrArg rank (shown_of_leapsLast h)⟩
  have hparts : (t.shown.secondOfDay : ℚ) = t.secondOfDay ∧
      (t.shown.nanosecond : ℚ) = t.nanosecond := by
    simpa [rank] using hrank
  exact shown_eq_self_iff.mp
    (TimeOfDay.ext (Nat.cast_inj.mp hparts.1) (Nat.cast_inj.mp hparts.2))

theorem Decimal.toRat_withoutZeroSign (d : Decimal) : d.withoutZeroSign.toRat = d.toRat := by
  unfold toRat
  rw [numerator_withoutZeroSign]
  rfl

theorem Decimal.readDecimal_text (d : Decimal) :
    Value.readDecimal d.text = .ok d.withoutZeroSign :=
  Value.readDecimal_eq_ok_iff.mpr d.read_text

theorem Guid.readGuid_text (g : Guid) : Value.readGuid g.text = .ok g := by
  have hbrace (brace : Char) (h : ∀ d < 16, d.digitChar ≠ brace) (hhyphen : '-' ≠ brace) :
      brace ∉ g.text := fun hmem =>
    forall_mem_text (P := (· ≠ brace)) h hhyphen g brace hmem rfl
  have hopen := hbrace '\x7b' (by decide) (by decide)
  have hclose := hbrace '\x7d' (by decide) (by decide)
  rw [Value.readGuid_of_not_mem hopen hclose, g.read_text]

namespace Value

/-- The value as its text is read: a decimal zero has no sign, and a leap second within a minute is
the second after it. -/
def reread : Value → Value
  | .decimal d => .decimal d.withoutZeroSign
  | .time t => .time t.shown
  | .dateTime d => .dateTime d.shown
  | v => v

/-- A leap second is only counted in the last second of a minute. -/
def LeapsLast : Value → Prop
  | .time t => t.LeapsLast
  | .dateTime d => d.time.LeapsLast
  | _ => True

theorem reread_eq_self_iff {v : Value} (hdecimal : v.datatype ≠ .decimal) :
    v.reread = v ↔ v.LeapsLast := by
  cases v with
  | decimal d => exact absurd rfl hdecimal
  | time t =>
    rw [reread, time.injEq]
    exact TimeOfDay.shown_eq_self_iff
  | dateTime d =>
    rw [reread, dateTime.injEq]
    exact DateTime.shown_eq_self_iff
  | _ => exact iff_of_true rfl trivial

/-- In rank the sign of a decimal zero does not count. -/
theorem rank_reread_iff (v : Value) : v.reread.rank = v.rank ↔ v.LeapsLast := by
  cases v with
  | decimal d =>
    refine iff_of_true ?_ trivial
    show [d.withoutZeroSign.toRat] = [d.toRat]
    rw [d.toRat_withoutZeroSign]
  | time t => exact t.rank_shown_iff
  | dateTime d =>
    show d.date.rank ++ d.time.shown.rank = d.date.rank ++ d.time.rank ↔ _
    rw [List.append_cancel_left_eq]
    exact d.time.rank_shown_iff
  | _ => exact iff_of_true rfl trivial

theorem read_display {v : Value} (hfloat : v.datatype ≠ .float) :
    read v.display v.datatype = .ok v.reread := by
  cases v with
  | text s => rfl
  | integer i =>
    simp only [read, display, datatype, String.toList_ofList, trim_of_all (all_intText _),
      Number.readInteger_intText]
    rfl
  | float x => exact absurd rfl hfloat
  | boolean b => cases b <;> decide +kernel
  | date d =>
    simp only [read, display, datatype, String.toList_ofList, trim_of_all (all_dateText _),
      Date.read?_text]
    rfl
  | dateTime d =>
    simp only [read, display, datatype, String.toList_ofList, DateTime.trim_text,
      DateTime.read?_text]
    rfl
  | time t =>
    simp only [read, display, datatype, String.toList_ofList, trim_of_all (all_timeText _),
      TimeOfDay.read?_text]
    rfl
  | guid g =>
    have hblank : ∀ c ∈ g.text, Text.isBlank c = false :=
      Guid.forall_mem_text (by decide) (by decide) g
    simp only [read, display, datatype, String.toList_ofList, Text.trim_eq_self hblank,
      Guid.readGuid_text]
    rfl
  | decimal d =>
    simp only [read, display, datatype, String.toList_ofList, trim_of_all (all_decimalText _),
      Decimal.readDecimal_text]
    rfl

/-- No empty text is read as a value, except as a text. -/
theorem read_empty_ne_ok {t : Datatype} (hknown : t ≠ .unknown) (hstring : t ≠ .string)
    (v : Value) : read "" t ≠ .ok v := by
  have hfails : (read "" t).isOk = false := by
    cases t with
    | unknown => exact absurd rfl hknown
    | string => exact absurd rfl hstring
    | _ => decide +kernel
  intro hread
  rw [hread] at hfails
  cases hfails

/-- The cast of its text to its own datatype is the value that is read. -/
theorem cast_text_display {v : Value} (hfloat : v.datatype ≠ .float) :
    (text v.display).cast v.datatype = .ok v.reread := by
  by_cases htext : v.datatype = .string
  · cases v with
    | text s => exact if_pos (.inr rfl)
    | _ => cases htext
  · have hread := read_display hfloat
    refine (cast_text_eq_ok_iff v.datatype_ne_unknown htext).mpr ⟨fun hempty => ?_, hread⟩
    rw [hempty] at hread
    exact read_empty_ne_ok v.datatype_ne_unknown htext _ hread

/-- Equality accepts two values if their casts have the same rank. -/
theorem equality_accepts_iff_rank {t : Datatype} {v w x y : Value} (hknown : t ≠ .unknown)
    (hv : v.cast t = .ok x) (hw : w.cast t = .ok y) :
    Comparator.equality.accepts t (some v) (some w) = true ↔ x.rank = y.rank := by
  have hleft : Cell.cast t .expected (some v) = .ok (some x) :=
    Cell.cast_some_eq_ok_iff.mpr ⟨x, hv, rfl⟩
  have hright : Cell.cast t .actual (some w) = .ok (some y) :=
    Cell.cast_some_eq_ok_iff.mpr ⟨y, hw, rfl⟩
  rw [equality_accepts_iff_casts hknown, hleft, hright]
  simp [Cell.rank]

/-- Every value that is no binary number has a text, and the text has a cast to the value's kind.
The cast is the value again, up to the sign of a decimal zero, exactly if the value counts no leap
second within a minute, and exactly then equality accepts the text of a cell beside the cell. -/
theorem cast_display {v : Value} (hfloat : v.datatype ≠ .float) :
    v.cast .string = .ok (.text v.display) ∧
    (text v.display).cast v.datatype = .ok v.reread ∧
    (v.datatype ≠ .decimal → (v.reread = v ↔ v.LeapsLast)) ∧
    (∀ d, v = .decimal d →
      ∃ e, v.reread = .decimal e ∧ e.numerator = d.numerator ∧ e.scale = d.scale) ∧
    (Comparator.equality.accepts v.datatype (some (.text (Cell.render (some v)))) (some v) = true ↔
      v.LeapsLast) ∧
    (Comparator.equality.accepts v.datatype (some v) (some (.text (Cell.render (some v)))) = true ↔
      v.LeapsLast) := by
  have hself : v.cast v.datatype = .ok v := if_pos (.inr rfl)
  have hback := cast_text_display hfloat
  refine ⟨v.cast_string, hback, reread_eq_self_iff, ?_, ?_, ?_⟩
  · rintro d rfl
    exact ⟨d.withoutZeroSign, rfl, d.numerator_withoutZeroSign, rfl⟩
  · exact (equality_accepts_iff_rank v.datatype_ne_unknown hback hself).trans v.rank_reread_iff
  · exact (equality_accepts_iff_rank v.datatype_ne_unknown hself hback).trans
      (eq_comm.trans v.rank_reread_iff)

/-- The middle of the leap second of a minute's end, before the first year. -/
def idesOfMarch : Value :=
  .dateTime ⟨⟨-44, 3, 15, by decide⟩, ⟨86399, 1500000000, by decide, by decide⟩⟩

/-- The text has a sign before the year and the sixtieth second. -/
theorem cast_display_leapSecond :
    idesOfMarch.datatype ≠ .float ∧
    idesOfMarch.cast .string = .ok (.text "-0044-03-15 23:59:60.500") ∧
    (text "-0044-03-15 23:59:60.500").cast .datetime = .ok idesOfMarch ∧
    Comparator.equality.accepts .datetime (some (.text "-0044-03-15 23:59:60.500"))
      (some idesOfMarch) = true := by
  have hfloat : idesOfMarch.datatype ≠ .float := by decide
  have hleaps : idesOfMarch.LeapsLast := fun _ => rfl
  have htext : idesOfMarch.display = "-0044-03-15 23:59:60.500" := by decide +kernel
  obtain ⟨hstring, hback, hsame, -, hequal, -⟩ := cast_display hfloat
  rw [(hsame (by decide)).mpr hleaps] at hback
  exact ⟨hfloat, htext ▸ hstring, htext ▸ hback, htext ▸ hequal.mpr hleaps⟩

/-- A third of the leap second after 23:56:04. -/
def withinMinute : Value := .time ⟨86164, 1333333333, by decide, by decide⟩

/-- A leap second within a minute shows as the second after it and is read as that, so the text and
the cell are not equal. -/
theorem cast_display_withinMinute :
    withinMinute.datatype = .time ∧
    withinMinute.cast .string = .ok (.text "23:56:05.333333333") ∧
    (text "23:56:05.333333333").cast .time =
      .ok (.time ⟨86165, 333333333, by decide, by decide⟩) ∧
    .time ⟨86165, 333333333, by decide, by decide⟩ ≠ withinMinute ∧
    Comparator.equality.accepts .time (some (.text "23:56:05.333333333"))
      (some withinMinute) = false := by
  refine ⟨rfl, ?_, ?_, ?_, ?_⟩ <;> decide +kernel

end Value

end TableDiff
