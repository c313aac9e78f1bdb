import Mathlib
import TableDiff.Table.Memory

/-!
# Lookups by name

A column has a name if the two differ at most in ASCII case or have the same key. Both come to the
key, so a lookup finds the first column of a key. A row of a table in memory can therefore be seen
as cells by keys (`MemoryTable.cellOf`), and a lookup reads one of them. Of other tables it is
enough here that all their columns have the same rows (`Table.HasRows`).
-/

namespace TableDiff

/-! ## ASCII case and keys -/

theorem Text.toNat_le_of_isUpper {c : Char} (h : c.isUpper) : c.toNat ≤ 90 := by
  simp only [Char.isUpper, decide_eq_true_eq] at h
  exact h.2

theorem Text.toLower_eq_self {c : Char} (h : 0x80 ≤ c.toNat) : c.toLower = c := by
  apply Char.toLower_eq_of_not_isUpper
  intro hu
  have := toNat_le_of_isUpper hu
  omega

theorem Text.toNat_toLower_lt {c : Char} (h : c.toNat < 0x80) : c.toLower.toNat < 0x80 := by
  by_cases hu : c.isUpper
  · have hz := toNat_le_of_isUpper hu
    have hv : (c.toNat + 32).isValidChar := by
      unfold Nat.isValidChar
      omega
    rw [Char.toLower_eq_of_isUpper hu, Char.toNat_ofNat, if_pos hv]
    omega
  · rw [Char.toLower_eq_of_not_isUpper hu]
    exact h

/-- The characters of an upper-case form depend on a character only up to ASCII case. -/
theorem Text.upper_eq_of_lowerAscii_eq {cs ds : List Char}
    (h : lowerAscii cs = lowerAscii ds) : upper cs = upper ds := by
  induction cs generalizing ds with
  | nil =>
    cases ds with
    | nil => rfl
    | cons d ds => simp [lowerAscii] at h
  | cons c cs ih =>
    cases ds with
    | nil => simp [lowerAscii] at h
    | cons d ds =>
      simp only [lowerAscii, List.map_cons, List.cons.injEq] at h
      obtain ⟨hcd, hrest⟩ := h
      have htail : upper cs = upper ds := ih hrest
      simp only [upper, List.flatMap_cons] at htail ⊢
      rw [htail]
      congr 1
      -- Lower-casing keeps a character on its side of 0x80, so both take the same branch.
      by_cases hc : c.toNat < 0x80
      · have hd : d.toNat < 0x80 := by
          by_contra hd
          have := toNat_toLower_lt hc
          rw [hcd, toLower_eq_self (by omega)] at this
          exact hd this
        rw [if_pos hc, if_pos hd, ← Char.toUpper_toLower_eq_toUpper c, hcd,
          Char.toUpper_toLower_eq_toUpper]
      · have hd : ¬ d.toNat < 0x80 := by
          intro hd
          have := toNat_toLower_lt hd
          rw [← hcd, toLower_eq_self (by omega)] at this
          exact hc this
        rw [toLower_eq_self (by omega), toLower_eq_self (by omega)] at hcd
        rw [hcd]

theorem nameKey_eq_of_sameIgnoringAsciiCase {a b : String} (h : sameIgnoringAsciiCase a b = true) :
    nameKey a = nameKey b := by
  unfold nameKey
  rw [Text.upper_eq_of_lowerAscii_eq (beq_iff_eq.mp h)]

/-- A column has exactly the names of its key. -/
theorem Column.isNamed_iff (c : Column) (name : String) :
    c.isNamed name = true ↔ c.key = nameKey name := by
  unfold Column.isNamed
  rw [Bool.or_eq_true, beq_iff_eq]
  constructor
  · rintro (h | h)
    · exact nameKey_eq_of_sameIgnoringAsciiCase h
    · exact h
  · exact Or.inr

theorem Column.isNamed_eq (c : Column) (name : String) :
    c.isNamed name = (c.key == nameKey name) := by
  rw [Bool.eq_iff_iff, isNamed_iff, beq_iff_eq]

/-! ## Cells by key -/

/-- Finding in the second of two lists by a property of the first is indexing the second. -/
theorem find?_zip_eq {α β : Type} (p : α → Bool) (as : List α) (bs : List β)
    (h : bs.length = as.length) :
    ((as.zip bs).find? fun x => p x.1).map (·.2) = (as.findIdx? p).bind (bs[·]?) := by
  induction as generalizing bs with
  | nil => simp
  | cons a as ih =>
    cases bs with
    | nil => simp at h
    | cons b bs =>
      rw [List.zip_cons_cons, List.find?_cons, List.findIdx?_cons]
      cases hp : p a with
      | true => simp
      | false =>
        rw [ih bs (by simpa using h)]
        cases as.findIdx? p <;> simp

namespace MemoryTable

/-- The cell of a row under the first column of a key. -/
def cellOf (t : MemoryTable) (row : Nat) (key : String) : Cell :=
  ((t.columns.zip (t.rows[row]?.getD [])).find? fun p => p.1.key == key).bind (·.2)

/-- The cell by its position: that of the first column of the key. -/
theorem cellOf_of_lt {t : MemoryTable} {row : Nat} (hrow : row < t.rows.size) (key : String) :
    t.cellOf row key = ((t.columns.findIdx? (·.key == key)).bind (t.rows[row][·]?)).join := by
  have hwidth : t.rows[row].length = t.columns.length := t.width _ (Array.getElem_mem hrow)
  rw [← find?_zip_eq (·.key == key) t.columns t.rows[row] hwidth]
  unfold cellOf
  rw [Array.getElem?_eq_getElem hrow, Option.getD_some, ← Option.bind_id_eq_join, Option.bind_map]
  rfl

theorem cellOf_eq_getElem {t : MemoryTable} {row i : Nat} {key : String} (hrow : row < t.rows.size)
    (hfind : t.columns.findIdx? (·.key == key) = some i) (hi : i < t.rows[row].length) :
    t.cellOf row key = t.rows[row][i] := by
  rw [cellOf_of_lt hrow, hfind, Option.bind_some, List.getElem?_eq_getElem hi, Option.join_some]

/-- A name of a column is found at the first column of its key. -/
theorem columnIndex_of_mem {t : MemoryTable} {name : String}
    (hname : nameKey name ∈ t.columns.map Column.key) :
    ∃ i, t.columns.findIdx? (·.key == nameKey name) = some i ∧ t.columnIndex name = .ok i := by
  obtain ⟨c, hc, hkey⟩ := List.mem_map.mp hname
  have hsome : (t.columns.findIdx? (·.key == nameKey name)).isSome := by
    rw [List.findIdx?_isSome, List.any_eq_true]
    exact ⟨c, hc, beq_iff_eq.mpr hkey⟩
  obtain ⟨i, hi⟩ := Option.isSome_iff_exists.mp hsome
  refine ⟨i, hi, ?_⟩
  unfold columnIndex
  simp only [Column.isNamed_eq]
  rw [hi]

/-- A lookup within the table reads a cell by the key of the name. -/
theorem value_of_lt {t : MemoryTable} {row : Nat} {name : String} (hrow : row < t.rows.size)
    (hname : nameKey name ∈ t.columns.map Column.key) :
    t.value row name = .ok (t.cellOf row (nameKey name)) := by
  obtain ⟨i, hi, hindex⟩ := columnIndex_of_mem hname
  have hcell : t.cellOf row (nameKey name) = (t.rows[row][i]?).join := by
    rw [cellOf_of_lt hrow, hi, Option.bind_some]
  unfold value
  rw [hindex, hcell, Array.getElem?_eq_getElem hrow]

/-- A lookup beyond the rows fails for that reason, if there is a column of the name. -/
theorem value_of_le {t : MemoryTable} {row : Nat} {name : String} (hrow : t.rows.size ≤ row)
    (hname : nameKey name ∈ t.columns.map Column.key) :
    t.value row name = .error (.rowOutOfBounds t.name row) := by
  obtain ⟨i, -, hindex⟩ := columnIndex_of_mem hname
  unfold value
  rw [hindex, Array.getElem?_eq_none hrow]

/-- A lookup fails at every row if there is no column of the name. -/
theorem value_of_not_mem {t : MemoryTable} {name : String}
    (hname : nameKey name ∉ t.columns.map Column.key) (row : Nat) :
    t.value row name = .error (.noSuchColumn t.name name) := by
  have hnone : t.columns.findIdx? (·.isNamed name) = none := by
    rw [List.findIdx?_eq_none_iff]
    intro c hc
    rw [Column.isNamed_eq]
    exact beq_false_of_ne fun hkey => hname (hkey ▸ List.mem_map_of_mem hc)
  unfold value columnIndex
  rw [hnone]

end MemoryTable

/-! ## Tables that read as tables in memory -/

/-- A table shows the rows of a table in memory. Beyond the rows it is asked for names of columns
only. -/
structure Table.ReadsAs (s : Table) (t : MemoryTable) : Prop where
  name_eq : s.name = t.name
  columns_eq : s.columns = t.columns
  rowCount_eq : s.rowCount = some t.rows.size
  value_eq : ∀ row < t.rows.size, ∀ name, s.value row name = t.value row name
  value_beyond_eq : ∀ row, t.rows.size ≤ row → ∀ name, nameKey name ∈ t.columns.map Column.key →
    s.value row name = .error (.rowOutOfBounds t.name row)

theorem MemoryTable.toTable_readsAs (t : MemoryTable) : t.toTable.ReadsAs t where
  name_eq := rfl
  columns_eq := rfl
  rowCount_eq := rfl
  value_eq _ _ _ := rfl
  value_beyond_eq _ hrow _ hname := value_of_le hrow hname

namespace Table.ReadsAs

variable {s : Table} {t : MemoryTable}

theorem value_of_lt (h : s.ReadsAs t) {row : Nat} {name : String} (hrow : row < t.rows.size)
    (hname : nameKey name ∈ t.columns.map Column.key) :
    s.value row name = .ok (t.cellOf row (nameKey name)) := by
  rw [h.value_eq row hrow, MemoryTable.value_of_lt hrow hname]

/-- The rows that a table has, judged by a column of it. -/
theorem hasRow_eq (h : s.ReadsAs t) {name : String} (row : Nat)
    (hname : nameKey name ∈ t.columns.map Column.key) :
    s.hasRow row name = .ok (decide (row < t.rows.size)) := by
  unfold Table.hasRow
  by_cases hrow : row < t.rows.size
  · rw [h.value_of_lt hrow hname, decide_eq_true hrow]
  · rw [h.value_beyond_eq row (by omega) name hname, decide_eq_false hrow]

end Table.ReadsAs

/-! ## Tables of a number of rows -/

/-- A table has `n` rows: every name of a column finds exactly these. It announces their number, or
says nothing of it. -/
structure Table.HasRows (t : Table) (n : Nat) : Prop where
  hasRow_eq : ∀ name, nameKey name ∈ t.columns.map Column.key →
    ∀ row, t.hasRow row name = .ok (decide (row < n))
  rowCount_eq : t.rowCount = none ∨ t.rowCount = some n

/-- The cell that a lookup finds, and the empty cell if it finds none. -/
def Table.cellAt (t : Table) (row : Nat) (name : String) : Cell :=
  match t.value row name with
  | .ok cell => cell
  | .error _ => none

namespace Table.HasRows

variable {t : Table} {n : Nat}

theorem value_eq (h : t.HasRows n) {row : Nat} (hrow : row < n) {name : String}
    (hname : nameKey name ∈ t.columns.map Column.key) :
    t.value row name = .ok (t.cellAt row name) := by
  have hfound := h.hasRow_eq name hname row
  rw [decide_eq_true hrow] at hfound
  unfold hasRow at hfound
  unfold cellAt
  cases hvalue : t.value row name with
  | ok cell => rfl
  | error e => cases e <;> simp [hvalue] at hfound

theorem uncounted (h : t.HasRows n) : (t.withRowCount none).HasRows n where
  hasRow_eq := h.hasRow_eq
  rowCount_eq := Or.inl rfl

end Table.HasRows

theorem Table.ReadsAs.hasRows {s : Table} {t : MemoryTable} (h : s.ReadsAs t) :
    s.HasRows t.rows.size where
  hasRow_eq _ hname row := h.hasRow_eq row (h.columns_eq ▸ hname)
  rowCount_eq := Or.inr h.rowCount_eq

end TableDiff
