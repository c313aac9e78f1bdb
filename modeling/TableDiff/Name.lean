import TableDiff.Text.Case

/-!
# Names

Columns and tables are identified by their names without regard to case: two names are the same
if their upper-case forms are. The upper-case form is the key of a name.
-/

namespace TableDiff

/-- The key by which a name is identified. -/
def nameKey (name : String) : String := String.ofList (Text.upper name.toList)

/-- Whether two names differ at most in the case of ASCII letters. -/
def sameIgnoringAsciiCase (a b : String) : Bool :=
  Text.lowerAscii a.toList == Text.lowerAscii b.toList

/-- Names in brackets, as structural differences list them. -/
def namesText (names : List String) : String := "[" ++ ", ".intercalate names ++ "]"

/-! ## Maps by name -/

/-- A map whose keys are names; each key is there once. -/
structure NameMap (α : Type) where
  entries : List (String × α)

namespace NameMap

variable {α : Type}

def empty : NameMap α := ⟨[]⟩

/-- The entry for a name. -/
def find? (m : NameMap α) (name : String) : Option α := m.entries.lookup (nameKey name)

/-- The map with an entry for a name, in place of the one it had. -/
def insert (m : NameMap α) (name : String) (a : α) : NameMap α :=
  ⟨(nameKey name, a) :: m.entries.filter (·.1 != nameKey name)⟩

/-- The map of a list of entries; the last one for a name stays. -/
def ofList (entries : List (String × α)) : NameMap α :=
  entries.foldl (fun m (name, a) => m.insert name a) empty

def keys (m : NameMap α) : List String := m.entries.map (·.1)

theorem find?_empty (name : String) : (empty : NameMap α).find? name = none := rfl

theorem lookup_filter_ne {key other : String} (h : key ≠ other) (entries : List (String × α)) :
    (entries.filter (·.1 != other)).lookup key = entries.lookup key := by
  induction entries with
  | nil => rfl
  | cons e rest ih =>
    obtain ⟨k, a⟩ := e
    by_cases hk : k = other
    · have hne : (key == k) = false := by simpa [hk] using h
      simp [hk, ih, List.lookup_cons, hk ▸ hne]
    · have hkeep : (k != other) = true := by simpa using hk
      simp only [List.filter_cons, hkeep, if_true, List.lookup_cons, ih]

/-- Reading after writing, for names that are the same or not. -/
theorem find?_insert (m : NameMap α) (name other : String) (a : α) :
    (m.insert name a).find? other =
      if nameKey other = nameKey name then some a else m.find? other := by
  unfold find? insert
  by_cases h : nameKey other = nameKey name
  · simp [h]
  · have hkey : (nameKey other == nameKey name) = false := by simpa using h
    rw [if_neg h, ← lookup_filter_ne h m.entries, List.lookup_cons, hkey]

end NameMap

end TableDiff
