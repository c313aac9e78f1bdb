import TableDiff.Proofs.Value.Rank

/-!
# Reading early and late

A text can be read under a datatype when its table is loaded, or kept as it is and cast when the
cell is compared. Both ways lead to the same cell, so equality does not tell the text from the
value that is read.
-/

namespace TableDiff

/-! ## Kinds of values that are read -/

/-- The kind of the values that are read under a datatype. -/
def Datatype.kind (t : Datatype) : Datatype := if t = .unknown then .string else t

theorem Datatype.eq_unknown_or_eq_kind (t : Datatype) : t = .unknown ∨ t = t.kind := by
  unfold kind
  split
  · exact Or.inl ‹_›
  · exact Or.inr rfl

namespace Value

variable {ε α : Type} {f : α → Value} {t : Datatype} {v : Value}

theorem exists_of_map_eq_ok {r : Except ε α} {cause : ε → ReadError}
    (h : (r.map f).mapError cause = .ok v) : ∃ a, r = .ok a ∧ v = f a := by
  cases r with
  | error e => cases h
  | ok a =>
    cases h
    exact ⟨a, rfl, rfl⟩

theorem exists_of_elim_eq_ok {r : Option α} {e : ReadError}
    (h : (r.map f).elim (Except.error e) Except.ok = .ok v) : ∃ a, r = some a ∧ v = f a := by
  cases r with
  | none => cases h
  | some a =>
    cases h
    exact ⟨a, rfl, rfl⟩

theorem datatype_of_map_eq_ok {r : Except ε α} {cause : ε → ReadError}
    (hf : ∀ a, (f a).datatype = t) (h : (r.map f).mapError cause = .ok v) : v.datatype = t := by
  obtain ⟨a, -, rfl⟩ := exists_of_map_eq_ok h
  exact hf a

theorem datatype_of_elim_eq_ok {r : Option α} {e : ReadError} (hf : ∀ a, (f a).datatype = t)
    (h : (r.map f).elim (Except.error e) Except.ok = .ok v) : v.datatype = t := by
  obtain ⟨a, -, rfl⟩ := exists_of_elim_eq_ok h
  exact hf a

/-- A value that is read under a datatype is of its kind. -/
theorem datatype_of_read {given : String} (h : Value.read given t = .ok v) :
    v.datatype = t.kind := by
  unfold read at h
  cases t with
  | string => cases h; rfl
  | unknown => cases h; rfl
  | integer => exact datatype_of_map_eq_ok (fun _ => rfl) h
  | float => exact datatype_of_map_eq_ok (fun _ => rfl) h
  | decimal => exact datatype_of_map_eq_ok (fun _ => rfl) h
  | guid => exact datatype_of_map_eq_ok (fun _ => rfl) h
  | boolean => exact datatype_of_elim_eq_ok (fun _ => rfl) h
  | date => exact datatype_of_elim_eq_ok (fun _ => rfl) h
  | datetime => exact datatype_of_elim_eq_ok (fun _ => rfl) h
  | time => exact datatype_of_elim_eq_ok (fun _ => rfl) h

/-! ## Casts of texts -/

variable {w : Value} {s : String}

/-- A text has the cast that is read of it. -/
theorem cast_text_eq_ok_iff (hknown : t ≠ .unknown) (hstring : t ≠ .string) :
    (text s).cast t = .ok w ↔ s ≠ "" ∧ Value.read s t = .ok w := by
  have hkind : ¬ (t = .unknown ∨ (text s).datatype = t) := not_or.mpr ⟨hknown, hstring.symm⟩
  unfold cast
  rw [if_neg hkind, if_neg hstring]
  dsimp only
  by_cases hempty : s = ""
  · simp [Cell.read, hempty]
  · cases hread : Value.read s t with
    | error e => simp [Cell.read, hempty, hread, Except.map]
    | ok v => simp [Cell.read, hempty, hread, Except.map]

/-- The cast of a text that is not empty is what is read of it. -/
theorem cast_text_eq_ok_iff_read (hs : s ≠ "") :
    (text s).cast t = .ok w ↔ Value.read s t = .ok w := by
  by_cases hself : t = .unknown ∨ t = .string
  · -- Here the text is the value of itself.
    have hcast : (text s).cast t = .ok (text s) := if_pos (hself.imp_right Eq.symm)
    rw [hcast]
    rcases hself with rfl | rfl
    · simp [read]
    · simp [read]
  · obtain ⟨hknown, hstring⟩ := not_or.mp hself
    rw [cast_text_eq_ok_iff hknown hstring]
    exact and_iff_right hs

end Value

/-! ## Cells -/

namespace Cell

/-- The cell of a text that is kept as it is. -/
def ofText (given : String) : Cell := if given = "" then none else some (.text given)

theorem read_unknown (given : String) : Cell.read given .unknown = .ok (ofText given) := by
  unfold Cell.read ofText
  split <;> rfl

theorem read_string (given : String) : Cell.read given .string = .ok (ofText given) := by
  unfold Cell.read ofText
  split <;> rfl

variable {given : String} {t : Datatype} {c : Cell}

/-- A cell that is read is empty with its text, or else holds a value that is read. -/
theorem read_eq_ok_iff :
    Cell.read given t = .ok c ↔
      given = "" ∧ c = none ∨ given ≠ "" ∧ ∃ v, Value.read given t = .ok v ∧ c = some v := by
  unfold Cell.read
  by_cases hempty : given = ""
  · simp [hempty, eq_comm]
  · cases Value.read given t with
    | error e => simp [Except.map, hempty]
    | ok v => simp [Except.map, hempty, eq_comm]

theorem isOf_of_read (h : Cell.read given t = .ok c) : IsOf t.kind c := by
  rcases read_eq_ok_iff.mp h with ⟨-, rfl⟩ | ⟨-, v, hv, rfl⟩
  · exact isOf_none _
  · exact isOf_some.mpr (Value.datatype_of_read hv)

/-- The cast of a text is the cell that is read. -/
theorem cast_ofText (h : Cell.read given t = .ok c) (side : Side) :
    (ofText given).cast t side = .ok c := by
  rcases read_eq_ok_iff.mp h with ⟨hempty, rfl⟩ | ⟨hempty, v, hv, rfl⟩
  · unfold ofText
    rw [if_pos hempty]
    rfl
  · have hcast : (Value.text given).cast t = .ok v :=
      (Value.cast_text_eq_ok_iff_read hempty).mpr hv
    unfold ofText
    rw [if_neg hempty]
    exact cast_some_eq_ok_iff.mpr ⟨v, hcast, rfl⟩

/-- What is read needs no cast any more. -/
theorem cast_of_read (h : Cell.read given t = .ok c) (side : Side) : c.cast t side = .ok c :=
  cast_of_isOf (t.eq_unknown_or_eq_kind.imp_right fun ht => ht ▸ isOf_of_read h) side

end Cell

/-! ## Comparison with a text -/

section Comparison

variable {given : String} {t : Datatype} {c d : Cell}

/-- Relations judge a text as the cell that is read. -/
theorem Relation.check_ofText_actual (r : Relation) (h : Cell.read given t = .ok d) :
    r.check t c (.ofText given) = r.check t c d := by
  unfold Relation.check
  rw [Cell.cast_ofText h, Cell.cast_of_read h]

theorem Relation.check_ofText_expected (r : Relation) (h : Cell.read given t = .ok d) :
    r.check t (.ofText given) c = r.check t d c := by
  unfold Relation.check
  rw [Cell.cast_ofText h, Cell.cast_of_read h]

/-- Equality accepts a text beside a cell of the kind if what is read has the same rank. -/
theorem equality_accepts_ofText_actual_iff (hc : Cell.IsOf t.kind c)
    (h : Cell.read given t = .ok d) :
    Comparator.equality.accepts t c (.ofText given) = true ↔ c.rank = d.rank := by
  rw [← equality_accepts_iff t.eq_unknown_or_eq_kind hc (Cell.isOf_of_read h)]
  unfold Comparator.accepts Comparator.equality Comparator.check
  rw [Relation.check_ofText_actual _ h]

theorem equality_accepts_ofText_expected_iff (hc : Cell.IsOf t.kind c)
    (h : Cell.read given t = .ok d) :
    Comparator.equality.accepts t (.ofText given) c = true ↔ d.rank = c.rank := by
  rw [← equality_accepts_iff t.eq_unknown_or_eq_kind (Cell.isOf_of_read h) hc]
  unfold Comparator.accepts Comparator.equality Comparator.check
  rw [Relation.check_ofText_expected _ h]

end Comparison

end TableDiff
