import TableDiff.Proofs.Filter.Pattern

/-!
# Patterns for one name

A name whose dots are escaped is a pattern for the columns of this name, in every table. Blanks at
the ends of the name do not count in the pattern, so they have to be taken by a wildcard.
-/

namespace TableDiff

/-! ## Escaped dots -/

namespace ColumnPattern

/-- The text with a backslash before each dot. -/
def escapeDots (cs : List Char) : List Char :=
  cs.flatMap fun c => if c = '.' then ['\\', '.'] else [c]

variable {c : Char} (cs : List Char)

theorem escapeDots_dot_cons : escapeDots ('.' :: cs) = '\\' :: '.' :: escapeDots cs := rfl

theorem escapeDots_cons (hc : c ≠ '.') : escapeDots (c :: cs) = c :: escapeDots cs := by
  unfold escapeDots
  rw [List.flatMap_cons, if_neg hc]
  rfl

@[simp] theorem escapeDots_eq_nil_iff : escapeDots cs = [] ↔ cs = [] := by
  cases cs with
  | nil => simp [escapeDots]
  | cons c cs =>
    by_cases hc : c = '.'
    · simp [hc, escapeDots_dot_cons]
    · simp [escapeDots_cons cs hc]

theorem head?_escapeDots_ne_dot : (escapeDots cs).head? ≠ some '.' := by
  cases cs with
  | nil => simp [escapeDots]
  | cons c cs =>
    by_cases hc : c = '.'
    · simp [hc, escapeDots_dot_cons]
    · simp [escapeDots_cons cs hc, hc]

/-- Escaped dots become plain again, and no backslash of the text is lost. -/
theorem unescapeDots_escapeDots : unescapeDots (escapeDots cs) = cs := by
  induction cs with
  | nil => rfl
  | cons c cs ih =>
    by_cases hdot : c = '.'
    · rw [hdot, escapeDots_dot_cons, unescapeDots, ih]
    · -- A backslash of the text never stands right before an escaped dot.
      rw [escapeDots_cons cs hdot, unescapeDots, ih]
      intro rest _ hrest
      exact head?_escapeDots_ne_dot cs (by rw [hrest]; rfl)

theorem trimStart_escapeDots : Text.trimStart (escapeDots cs) = escapeDots (Text.trimStart cs) := by
  unfold Text.trimStart
  induction cs with
  | nil => rfl
  | cons c cs ih =>
    by_cases hdot : c = '.'
    · subst hdot
      rfl
    · rw [escapeDots_cons cs hdot]
      by_cases hblank : Text.isBlank c = true
      · rw [List.dropWhile_cons_of_pos hblank, List.dropWhile_cons_of_pos hblank, ih]
      · rw [List.dropWhile_cons_of_neg hblank, List.dropWhile_cons_of_neg hblank,
          escapeDots_cons cs hdot]

theorem trimEnd_escapeDots : Text.trimEnd (escapeDots cs) = escapeDots (Text.trimEnd cs) := by
  induction cs with
  | nil => rfl
  | cons c cs ih =>
    by_cases hdot : c = '.'
    · subst hdot
      have hplain := Text.trimEnd_append_cons [] (show Text.isBlank '.' = false by decide) cs
      have hescaped := Text.trimEnd_append_cons ['\\'] (show Text.isBlank '.' = false by decide)
        (escapeDots cs)
      rw [List.nil_append, List.nil_append] at hplain
      rw [escapeDots_dot_cons, hplain, escapeDots_dot_cons, ← ih]
      exact hescaped
    · rw [escapeDots_cons cs hdot, Text.trimEnd_cons, Text.trimEnd_cons, ih]
      simp only [escapeDots_eq_nil_iff]
      split
      · rfl
      · rw [escapeDots_cons _ hdot]

theorem partGlob_escapeDots : partGlob (escapeDots cs) = Glob.ofText (Text.trim cs) := by
  unfold partGlob Text.trim
  rw [trimStart_escapeDots, trimEnd_escapeDots, unescapeDots_escapeDots]

/-! ## Backslashes before dots -/

theorem escapesNext_iff_odd :
    escapesNext false cs = true ↔ Odd (cs.rtakeWhile (· == '\\')).length := by
  induction cs using List.reverseRecOn with
  | nil => simp [escapesNext]
  | append_singleton cs c ih =>
    rw [escapesNext_append, List.rtakeWhile_concat]
    by_cases hc : c = '\\'
    · simp [hc, Nat.odd_add_one, ← ih]
    · simp [hc]

/-- Each dot of the text stands behind an even number of backslashes. -/
def EvenBackslashes (cs : List Char) : Prop :=
  ∀ before after, cs = before ++ '.' :: after → Even (before.rtakeWhile (· == '\\')).length

theorem forall_dots_escapeDots_iff (escaped : Bool) :
    (∀ before after, escapeDots cs = before ++ '.' :: after → escapesNext escaped before = true) ↔
      ∀ before after, cs = before ++ '.' :: after → escapesNext escaped before = false := by
  induction cs generalizing escaped with
  | nil => simp [escapeDots]
  | cons c cs ih =>
    rw [forall_dots_cons escaped c cs false]
    by_cases hdot : c = '.'
    · -- The backslash before the dot escapes it unless it is escaped itself.
      subst hdot
      rw [escapeDots_dot_cons, forall_dots_cons, forall_dots_cons]
      simp [ih]
    · rw [escapeDots_cons cs hdot, forall_dots_cons, ih]
      simp [hdot]

theorem noPlainDot_escapeDots_iff : NoPlainDot (escapeDots cs) ↔ EvenBackslashes cs := by
  unfold NoPlainDot EvenBackslashes
  rw [forall_dots_escapeDots_iff]
  simp only [← Bool.not_eq_true, escapesNext_iff_odd, Nat.not_odd_iff_even]

instance : Decidable (EvenBackslashes cs) := decidable_of_iff _ (noPlainDot_escapeDots_iff cs)

end ColumnPattern

/-! ## The pattern of a name -/

namespace PatternFilter

/-- The filter that leaves out the columns of one name, by the name with its dots escaped. -/
def excludingName (name : String) : PatternFilter :=
  excluding [String.ofList (ColumnPattern.escapeDots name.toList)]

/-- Where no dot is behind an odd number of backslashes, the filter of a name rejects its column in
every table if the name has no blanks at its ends. With blanks it does if the rest of the name,
taken as a pattern, matches the name. -/
theorem accepts_excludingName {name : String}
    (hdots : ColumnPattern.EvenBackslashes name.toList) :
    (∀ table column, column.name = name →
      ((excludingName name).accepts table column = false ↔
        (Glob.ofText (Text.trim name.toList)).isMatch name.toList = true)) ∧
    (Text.trim name.toList = name.toList →
      ∀ table column, column.name = name → (excludingName name).accepts table column = false) := by
  have hplain : ColumnPattern.NoPlainDot
      (String.ofList (ColumnPattern.escapeDots name.toList)).toList := by
    rw [String.toList_ofList]
    exact (ColumnPattern.noPlainDot_escapeDots_iff _).mpr hdots
  have haccepts (table : String) (column : Column) (hname : column.name = name) :
      (excludingName name).accepts table column =
        !(Glob.ofText (Text.trim name.toList)).isMatch name.toList := by
    unfold excludingName
    rw [accepts_excluding_singleton, ColumnPattern.isMatch_of_noPlainDot hplain,
      String.toList_ofList, ColumnPattern.partGlob_escapeDots, hname]
  refine ⟨fun table column hname => ?_, fun htrim table column hname => ?_⟩
  · rw [haccepts table column hname, Bool.not_eq_false']
  · rw [haccepts table column hname, htrim, Glob.isMatch_ofText_self]
    rfl

/-- The blank at the start of a name is not taken by the pattern of the name. -/
theorem accepts_excludingName_blank :
    " A" ≠ "" ∧ (excludingName " A").accepts "T" (.untyped " A") = true := by
  decide +kernel

/-- A name with dots, wildcards and backslashes, and one whose blanks a wildcard takes. -/
theorem accepts_excludingName_wildcards :
    ColumnPattern.EvenBackslashes "a\\b?.c\\\\.*".toList ∧
    (excludingName "a\\b?.c\\\\.*").accepts "T" (.untyped "a\\b?.c\\\\.*") = false ∧
    ColumnPattern.EvenBackslashes " * ".toList ∧
    (excludingName " * ").accepts "T" (.untyped " * ") = false := by
  have hname : ColumnPattern.EvenBackslashes "a\\b?.c\\\\.*".toList := by decide +kernel
  have hblanks : ColumnPattern.EvenBackslashes " * ".toList := by decide +kernel
  refine ⟨hname, ?_, hblanks, ?_⟩
  · exact (accepts_excludingName hname).2 (by decide +kernel) "T" _ rfl
  · exact ((accepts_excludingName hblanks).1 "T" _ rfl).mpr (by decide +kernel)

end PatternFilter

end TableDiff
