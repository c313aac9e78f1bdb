import TableDiff.Number.Digits
import TableDiff.Proofs.Calendar.Writing
import TableDiff.Proofs.Message

/-!
# Locations in messages

The message of a difference between two cells names the table, the row and the column before it
quotes any cell. So its location is read from the start: the name of the table goes to the first
separator, then comes a number, and the name of the column goes to the next separator. What follows
is not looked at, and may imitate a message.
-/

namespace TableDiff

namespace Message

open Layout (takeWhile_append_of_head dropWhile_append_of_head)

/-- Where a difference between two cells is. -/
structure Location where
  table : String
  row : Nat
  column : String
deriving DecidableEq

/-- Whether a character may end a name in a message. -/
def isSeparator (c : Char) : Bool := c == ',' || c == ')'

/-- A name that a message shows without a separator in it. -/
def Plain (name : String) : Prop := ∀ c ∈ name.toList, c ≠ ',' ∧ c ≠ ')'

/-! ## Reading -/

/-- The text after a mark, as far as its characters are of a kind, and what comes behind it. -/
def field? (mark : String) (inside : Char → Bool) (cs : List Char) :
    Option (List Char × List Char) :=
  (mark.toList.isPrefixOf? cs).map fun rest => (rest.takeWhile inside, rest.dropWhile inside)

/-- Reads the location at the start of a message. -/
def location? (message : String) : Option Location := do
  let table ← field? "value (table=" (!isSeparator ·) message.toList
  let row ← field? ", row=" Char.isDigit table.2
  let column ← field? ", col=" (!isSeparator ·) row.2
  return ⟨String.ofList table.1, Number.ofDigits row.1, String.ofList column.1⟩

theorem field?_append {mark : String} {inside : Char → Bool} {text rest : List Char}
    (htext : ∀ c ∈ text, inside c = true) (hrest : ∀ c ∈ rest.head?, inside c = false) :
    field? mark inside (mark.toList ++ (text ++ rest)) = some (text, rest) := by
  unfold field?
  rw [List.isPrefixOf?_eq_some_iff_append_eq.mpr rfl, Option.map_some,
    takeWhile_append_of_head htext hrest, dropWhile_append_of_head htext hrest]

/-! ## Messages of differences between cells -/

section

variable {table table' column column' : String} {row row' : Nat}
  {info info' detail detail' : Option String}

theorem Plain.isSeparator_eq (h : Plain table) : ∀ c ∈ table.toList, (!isSeparator c) = true := by
  intro c hc
  simp [isSeparator, h c hc]

/-- Behind its location a message goes on with a separator. -/
theorem toList_value (table : String) (row : Nat) (column : String) (info detail : Option String) :
    ∃ separator tail, isSeparator separator = true ∧
      (value table row column info detail).toList =
        "value (table=".toList ++ (table.toList ++ (", row=".toList ++ (Number.digits row ++
          (", col=".toList ++ (column.toList ++ separator :: tail))))) := by
  have hrow : (toString row).toList = Number.digits row := Nat.toList_repr
  delta value
  -- The separator begins the additional information, or ends the location where there is none.
  cases info with
  | none => exact ⟨')', _, rfl, by simp only [String.toList_append, hrow, List.append_assoc]; rfl⟩
  | some text =>
    exact ⟨',', _, rfl, by simp only [String.toList_append, hrow, List.append_assoc]; rfl⟩

/-- A message is read to the location that it was written for. -/
theorem location?_value (row : Nat) (info detail : Option String) (htable : Plain table)
    (hcolumn : Plain column) :
    location? (value table row column info detail) = some ⟨table, row, column⟩ := by
  obtain ⟨separator, tail, hseparator, hvalue⟩ := toList_value table row column info detail
  have hend : ∀ c ∈ (separator :: tail).head?, (!isSeparator c) = false := by
    rintro c ⟨⟩
    rw [hseparator]
    rfl
  unfold location?
  simp only [Option.bind_eq_bind]
  rw [hvalue, field?_append htable.isSeparator_eq (by rintro c ⟨⟩; rfl), Option.bind_some,
    field?_append (fun _ => Number.isDigit_of_mem_digits) (by rintro c ⟨⟩; rfl), Option.bind_some,
    field?_append hcolumn.isSeparator_eq hend]
  simp

/-- Equal messages of differences between cells are about the same cell, whatever they quote. -/
theorem location_eq_of_value_eq (htable : Plain table) (hcolumn : Plain column)
    (htable' : Plain table') (hcolumn' : Plain column')
    (h : value table row column info detail = value table' row' column' info' detail') :
    table = table' ∧ row = row' ∧ column = column' := by
  have hlocation := location?_value row info detail htable hcolumn
  rw [h, location?_value row' info' detail' htable' hcolumn', Option.some.injEq,
    Location.mk.injEq] at hlocation
  exact ⟨hlocation.1.symm, hlocation.2.1.symm, hlocation.2.2.symm⟩

/-- A cell of an additional column imitates the end of the information and a detail, so that one
message has two readings. Both are at one location. -/
theorem location_eq_of_value_eq_quoted :
    value "T" 3 "C" (additionalInfo [⟨"A", "1", "2>)): x"⟩]) none =
        value "T" 3 "C" (additionalInfo [⟨"A", "1", "2"⟩]) (some "x>))") ∧
      "T" = "T" ∧ 3 = 3 ∧ "C" = "C" := by
  have hmessage : value "T" 3 "C" (additionalInfo [⟨"A", "1", "2>)): x"⟩]) none =
      value "T" 3 "C" (additionalInfo [⟨"A", "1", "2"⟩]) (some "x>))") := by decide +kernel
  have hplain : Plain "T" ∧ Plain "C" := by simp [Plain]
  exact ⟨hmessage, location_eq_of_value_eq hplain.1 hplain.2 hplain.1 hplain.2 hmessage⟩

end

end Message

end TableDiff
