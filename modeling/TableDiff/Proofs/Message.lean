import TableDiff.Difference

/-!
# Kinds of messages

The message of a difference between two cells begins with a word of its own, and so do the messages
of most other kinds of differences. The first letter is enough to tell them apart.
-/

namespace TableDiff

namespace Message

theorem head?_rowCount (table : String) : (rowCount table).toList.head? = some 'r' := by
  delta rowCount
  split <;> simp

theorem head?_columnCount (table : String) (expected actual : Nat) :
    (columnCount table expected actual).toList.head? = some 'c' := by
  delta columnCount
  simp

theorem head?_columnMismatch (table : String) :
    (columnMismatch table).toList.head? = some 'c' := by
  delta columnMismatch
  simp

theorem head?_incompatibleTypes (table column : String) :
    (incompatibleTypes table column).toList.head? = some 'I' := by
  delta incompatibleTypes
  simp

theorem not_value_of_head? (message : String) {c : Char}
    (hhead : message.toList.head? = some c) (hc : c ≠ 'v') :
    ¬ "value (".toList <+: message.toList := by
  rintro ⟨rest, hrest⟩
  have hv : message.toList.head? = some 'v' := by
    rw [← hrest, List.head?_append]
    rfl
  rw [hhead, Option.some.injEq] at hv
  exact hc hv

end Message

/-- The differences whose messages show additional columns. -/
def Difference.OfCell : Difference → Prop
  | .value .. => True
  | _ => False

theorem Difference.message_not_value {d : Difference} (h : ¬ d.OfCell) :
    ¬ "value (".toList <+: d.toFailure.message.toList := by
  cases d with
  | value => exact absurd trivial h
  | tableCount e a => exact Message.not_value_of_head? Message.tableCount (c := 't') rfl (by decide)
  | tables es as => exact Message.not_value_of_head? Message.tables (c := 't') rfl (by decide)
  | rowCount table e a =>
    exact Message.not_value_of_head? _ (Message.head?_rowCount table) (by decide)
  | columnCount table es as =>
    exact Message.not_value_of_head? _ (Message.head?_columnCount table _ _) (by decide)
  | columns table es as =>
    exact Message.not_value_of_head? _ (Message.head?_columnMismatch table) (by decide)
  | datatypes table column e a =>
    exact Message.not_value_of_head? _ (Message.head?_incompatibleTypes table column) (by decide)

end TableDiff
