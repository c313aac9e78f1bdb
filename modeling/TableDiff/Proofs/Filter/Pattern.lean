import TableDiff.Filter.Pattern
import TableDiff.Proofs.Filter.Glob

/-!
# What a qualified pattern means

A pattern is split at its first plain dot. Behind a name without dots and a dot, any text is the
column part of a pattern for the table of this name. Behind a name with dots it is not: the name is
split at its own first dot.
-/

namespace TableDiff

/-! ## Blanks at the ends -/

namespace Text

theorem trimEnd_cons (c : Char) (cs : List Char) :
    trimEnd (c :: cs) = if isBlank c ∧ trimEnd cs = [] then [] else c :: trimEnd cs := by
  unfold trimEnd
  rw [List.reverse_cons, List.dropWhile_append]
  by_cases hcs : cs.reverse.dropWhile isBlank = []
  · by_cases hc : isBlank c = true
    · simp [hcs, hc]
    · simp [hcs, hc]
  · simp [hcs]

theorem trimEnd_append_cons (before : List Char) {c : Char} (hc : isBlank c = false)
    (after : List Char) : trimEnd (before ++ c :: after) = before ++ c :: trimEnd after := by
  induction before with
  | nil =>
    rw [List.nil_append, trimEnd_cons, if_neg (by simp [hc])]
    rfl
  | cons b before ih =>
    rw [List.cons_append, trimEnd_cons, ih, if_neg (by simp)]
    rfl

/-- The ends are trimmed independently of each other. -/
theorem trimStart_trimEnd (cs : List Char) : trimStart (trimEnd cs) = trimEnd (trimStart cs) := by
  unfold trimStart
  induction cs with
  | nil => rfl
  | cons c cs ih =>
    rw [trimEnd_cons]
    -- A blank at the start goes on either side; a first character that is not blank stays.
    by_cases hc : isBlank c = true
    · rw [List.dropWhile_cons_of_pos hc, ← ih]
      by_cases hcs : trimEnd cs = []
      · rw [if_pos ⟨hc, hcs⟩, hcs]
      · rw [if_neg (by simp [hcs]), List.dropWhile_cons_of_pos hc]
    · rw [if_neg (by simp [hc]), List.dropWhile_cons_of_neg hc, List.dropWhile_cons_of_neg hc,
        trimEnd_cons, if_neg (by simp [hc])]

theorem trim_trimEnd (cs : List Char) : trim (trimEnd cs) = trim cs := by
  unfold trim
  rw [trimStart_trimEnd]
  exact List.rdropWhile_idempotent isBlank _

theorem trim_trim (cs : List Char) : trim (trim cs) = trim cs := by
  unfold trim
  rw [trimStart_trimEnd]
  unfold trimStart
  rw [List.dropWhile_idempotent]
  exact List.rdropWhile_idempotent isBlank _

theorem mem_of_mem_trim {c : Char} {cs : List Char} (h : c ∈ trim cs) : c ∈ cs := by
  have hend : trim cs <+: trimStart cs := List.rdropWhile_prefix isBlank _
  have hstart : trimStart cs <:+ cs := List.dropWhile_suffix isBlank
  exact hstart.subset (hend.subset h)

end Text

/-! ## Plain dots -/

namespace ColumnPattern

/-- Whether the next character is escaped, behind a text at whose start it is `escaped` or not. -/
def escapesNext (escaped : Bool) (cs : List Char) : Bool :=
  cs.foldl (fun escaped c => c == '\\' && !escaped) escaped

theorem escapesNext_append (escaped : Bool) (cs : List Char) (c : Char) :
    escapesNext escaped (cs ++ [c]) = (c == '\\' && !escapesNext escaped cs) := by
  unfold escapesNext
  rw [List.foldl_append]
  rfl

/-- A text whose dots are escaped. -/
def NoPlainDot (cs : List Char) : Prop :=
  ∀ before after, cs = before ++ '.' :: after → escapesNext false before = true

/-- The dots of a text, from its first character on. -/
theorem forall_dots_cons (escaped : Bool) (c : Char) (cs : List Char) (b : Bool) :
    (∀ before after, c :: cs = before ++ '.' :: after → escapesNext escaped before = b) ↔
      (c = '.' → escaped = b) ∧ ∀ before after, cs = before ++ '.' :: after →
        escapesNext (c == '\\' && !escaped) before = b := by
  constructor
  · intro h
    refine ⟨fun hc => ?_, fun before after hcs => ?_⟩
    · exact h [] cs (by rw [hc, List.nil_append])
    · exact h (c :: before) after (by rw [hcs, List.cons_append])
  · rintro ⟨hfirst, hrest⟩ before after hcs
    cases before with
    | nil => exact hfirst (List.cons.inj hcs).1
    | cons b before =>
      obtain ⟨rfl, htail⟩ := List.cons.inj hcs
      exact hrest before after htail

theorem splitAtDot_cons (escaped : Bool) (c : Char) (cs : List Char) :
    splitAtDot escaped (c :: cs) =
      if c = '.' ∧ escaped = false then some ([], cs)
      else (splitAtDot (c == '\\' && !escaped) cs).map fun p => (c :: p.1, p.2) := by
  rw [splitAtDot]
  by_cases hbackslash : c = '\\' ∧ !escaped
  · obtain ⟨rfl, hescaped⟩ := hbackslash
    simp [hescaped]
  · have hnext : (c == '\\' && !escaped) = false := by
      rw [← Bool.not_eq_true, Bool.and_eq_true, beq_iff_eq]
      exact hbackslash
    rw [if_neg hbackslash, hnext]
    simp

/-- Only a text whose dots are escaped is not split. -/
theorem splitAtDot_eq_none_iff (escaped : Bool) (cs : List Char) :
    splitAtDot escaped cs = none ↔
      ∀ before after, cs = before ++ '.' :: after → escapesNext escaped before = true := by
  -- On the text, for either state at its start: a backslash changes the state for the rest.
  induction cs generalizing escaped with
  | nil => simp [splitAtDot]
  | cons c cs ih =>
    rw [forall_dots_cons, ← ih, splitAtDot_cons]
    by_cases hplain : c = '.' ∧ escaped = false
    · rw [if_pos hplain]
      simp [hplain.1, hplain.2]
    · have hfirst : c = '.' → escaped = true := fun hc =>
        Bool.of_not_eq_false fun hescaped => hplain ⟨hc, hescaped⟩
      rw [if_neg hplain, Option.map_eq_none_iff]
      exact ⟨fun h => ⟨hfirst, h⟩, And.right⟩

/-- A text is split at its first plain dot. -/
theorem splitAtDot_eq_some_iff {escaped : Bool} {cs l r : List Char} :
    splitAtDot escaped cs = some (l, r) ↔
      cs = l ++ '.' :: r ∧ escapesNext escaped l = false ∧
        ∀ before after, l = before ++ '.' :: after → escapesNext escaped before = true := by
  induction cs generalizing escaped l with
  | nil => simp [splitAtDot]
  | cons c cs ih =>
    rw [splitAtDot_cons]
    by_cases hplain : c = '.' ∧ escaped = false
    · obtain ⟨rfl, rfl⟩ := hplain
      rw [if_pos ⟨rfl, rfl⟩, Option.some.injEq, Prod.mk.injEq]
      constructor
      · rintro ⟨rfl, rfl⟩
        exact ⟨rfl, rfl, by simp⟩
      · rintro ⟨hcs, -, hfirst⟩
        cases l with
        | nil => exact ⟨rfl, (List.cons.inj hcs).2⟩
        | cons d l =>
          -- The text would start with a dot that is escaped by nothing.
          obtain ⟨rfl, -⟩ := List.cons.inj hcs
          exact absurd (hfirst [] l rfl) (by decide)
    · rw [if_neg hplain, Option.map_eq_some_iff]
      constructor
      · rintro ⟨⟨before, after⟩, hsplit, heq⟩
        obtain ⟨rfl, rfl⟩ := Prod.mk.inj heq
        obtain ⟨rfl, hlast, hfirst⟩ := ih.mp hsplit
        refine ⟨rfl, hlast, (forall_dots_cons escaped c before true).mpr ⟨fun hc => ?_, hfirst⟩⟩
        exact Bool.of_not_eq_false fun hescaped => hplain ⟨hc, hescaped⟩
      · rintro ⟨hcs, hlast, hfirst⟩
        cases l with
        | nil =>
          obtain ⟨rfl, -⟩ := List.cons.inj hcs
          exact absurd ⟨rfl, hlast⟩ hplain
        | cons d l =>
          obtain ⟨rfl, htail⟩ := List.cons.inj hcs
          refine ⟨(l, r), ih.mpr ⟨htail, hlast, ?_⟩, rfl⟩
          exact ((forall_dots_cons escaped c l true).mp hfirst).2

instance (cs : List Char) : Decidable (NoPlainDot cs) :=
  decidable_of_iff _ (splitAtDot_eq_none_iff false cs)

theorem escapesNext_of_no_backslash {cs : List Char} (h : '\\' ∉ cs) :
    escapesNext false cs = false := by
  induction cs with
  | nil => rfl
  | cons c cs ih =>
    rw [List.mem_cons, not_or] at h
    have hc : (c == '\\') = false := beq_eq_false_iff_ne.mpr (Ne.symm h.1)
    show escapesNext (c == '\\' && !false) cs = false
    rw [hc]
    exact ih h.2

theorem NoPlainDot.trim {cs : List Char} (h : NoPlainDot cs) : NoPlainDot (Text.trim cs) := by
  -- A blank escapes nothing, so the dots of what is left are escaped by what is left.
  have hblanks : '\\' ∉ cs.takeWhile Text.isBlank := fun hmem =>
    absurd (List.mem_takeWhile_imp hmem) (by decide)
  obtain ⟨rest, hrest⟩ : Text.trim cs <+: Text.trimStart cs := List.rdropWhile_prefix _ _
  intro before after hcs
  have hsplit : cs = (cs.takeWhile Text.isBlank ++ before) ++ '.' :: (after ++ rest) := by
    calc cs = cs.takeWhile Text.isBlank ++ Text.trimStart cs :=
          List.takeWhile_append_dropWhile.symm
      _ = _ := by
          rw [← hrest, hcs]
          simp
  have hescaped := h _ _ hsplit
  unfold escapesNext at hescaped
  rw [List.foldl_append] at hescaped
  rwa [show (cs.takeWhile Text.isBlank).foldl _ false = false from
    escapesNext_of_no_backslash hblanks] at hescaped

theorem splitAtDot_append {head : List Char} (hdot : '.' ∉ head) (hbackslash : '\\' ∉ head)
    (tail : List Char) : splitAtDot false (head ++ '.' :: tail) = some (head, tail) := by
  induction head with
  | nil => simp [splitAtDot]
  | cons c head ih =>
    rw [List.mem_cons, not_or] at hdot hbackslash
    rw [List.cons_append, splitAtDot, if_neg fun h => hbackslash.1 h.1.symm,
      if_neg fun h => hdot.1 h.1.symm, ih hdot.2 hbackslash.2]
    rfl

theorem unescapeDots_cons {c : Char} (hc : c ≠ '\\') (cs : List Char) :
    unescapeDots (c :: cs) = c :: unescapeDots cs := by
  rw [unescapeDots]
  exact fun _ h _ => hc h

theorem unescapeDots_of_no_backslash {cs : List Char} (h : '\\' ∉ cs) : unescapeDots cs = cs := by
  induction cs with
  | nil => rfl
  | cons c cs ih =>
    rw [List.mem_cons, not_or] at h
    rw [unescapeDots_cons (Ne.symm h.1), ih h.2]

/-! ## Qualified patterns -/

theorem partGlob_trimEnd (cs : List Char) : partGlob (Text.trimEnd cs) = partGlob cs := by
  unfold partGlob
  rw [Text.trim_trimEnd]

theorem partGlob_trim (cs : List Char) : partGlob (Text.trim cs) = partGlob cs := by
  unfold partGlob
  rw [Text.trim_trim]

section Split

variable {given : String} {l r : List Char} (table column : String)

/-- A pattern with a plain dot behind its first character is one for the columns of a table. -/
theorem isMatch_of_split (hsplit : splitAtDot false (Text.trim given.toList) = some (l, r))
    (hl : l ≠ []) :
    (ofText given).isMatch table column =
      ((partGlob l).isMatch table.toList && (partGlob r).isMatch column.toList) := by
  have hqualifier : splitQualifier (Text.trim given.toList) = some (l, r) := by
    unfold splitQualifier
    rw [hsplit, Option.filter_some, if_pos (decide_eq_true hl)]
  unfold ofText
  dsimp only
  rw [hqualifier]
  rfl

/-- Every other pattern is one for the columns of all tables. -/
theorem isMatch_of_no_split
    (hsplit : ∀ l r, splitAtDot false (Text.trim given.toList) = some (l, r) → l = []) :
    (ofText given).isMatch table column = (partGlob given.toList).isMatch column.toList := by
  have hqualifier : splitQualifier (Text.trim given.toList) = none := by
    unfold splitQualifier
    rw [Option.filter_eq_none_iff]
    rintro ⟨l, r⟩ h
    simpa using hsplit l r h
  unfold ofText
  dsimp only
  rw [hqualifier]
  show (true && (partGlob (Text.trim given.toList)).isMatch column.toList) = _
  rw [Bool.true_and, partGlob_trim]

end Split

/-- A text that a pattern takes as it is, apart from its dots. -/
def Literal (cs : List Char) : Prop :=
  ∀ c ∈ cs, c.toNat < 0x80 ∧ c ≠ '*' ∧ c ≠ '?' ∧ c ≠ '\\' ∧ Text.isBlank c = false

-- Through the characters of the text; to search all characters would not end.
instance (cs : List Char) : Decidable (Literal cs) := List.decidableBAll _ cs

namespace Literal

variable {head : List Char}

theorem no_backslash (h : Literal head) : '\\' ∉ head := fun hmem => (h _ hmem).2.2.2.1 rfl

theorem partGlob_eq (h : Literal head) : partGlob head = head.map .letter := by
  unfold partGlob
  rw [Text.trim_eq_self fun c hc => (h c hc).2.2.2.2, unescapeDots_of_no_backslash h.no_backslash]
  exact Glob.ofText_of_literal fun c hc => ⟨(h c hc).2.1, (h c hc).2.2.1⟩

theorem isMatch_partGlob (h : Literal head) {cs : List Char} (hcs : ∀ c ∈ cs, c.toNat < 0x80) :
    (partGlob head).isMatch cs = (Text.lowerAscii cs == Text.lowerAscii head) := by
  rw [h.partGlob_eq]
  exact Glob.isMatch_map_letter (fun c hc => (h c hc).1) hcs

end Literal

theorem trim_append {head : List Char} (h : Literal head) (tail : List Char) :
    Text.trim (head ++ '.' :: tail) = head ++ '.' :: Text.trimEnd tail := by
  have hstart : Text.trimStart (head ++ '.' :: tail) = head ++ '.' :: tail := by
    unfold Text.trimStart
    cases head with
    | nil => exact List.dropWhile_cons_of_neg (by decide)
    | cons c head =>
      have hc := (h c List.mem_cons_self).2.2.2.2
      exact List.dropWhile_cons_of_neg (by simp [hc])
  unfold Text.trim
  rw [hstart]
  exact Text.trimEnd_append_cons head (by decide) tail

/-- A pattern whose dots are escaped is one for the columns of all tables. -/
theorem isMatch_of_noPlainDot {given : String} (h : NoPlainDot given.toList)
    (table column : String) :
    (ofText given).isMatch table column = (partGlob given.toList).isMatch column.toList := by
  apply isMatch_of_no_split
  rw [(splitAtDot_eq_none_iff false _).mpr h.trim]
  simp

/-- Behind a name without dots and a dot, any text is a pattern for the columns of this table. -/
theorem isMatch_append {first : String} (hfirst : Literal first.toList) (hdot : '.' ∉ first.toList)
    (tail table column : String) :
    (ofText (first ++ "." ++ tail)).isMatch table column =
      if first = "" then (partGlob (first ++ "." ++ tail).toList).isMatch column.toList
      else (partGlob first.toList).isMatch table.toList &&
        (partGlob tail.toList).isMatch column.toList := by
  have htext : (first ++ "." ++ tail).toList = first.toList ++ '.' :: tail.toList := by simp
  have hsplit : splitAtDot false (Text.trim (first ++ "." ++ tail).toList) =
      some (first.toList, Text.trimEnd tail.toList) := by
    rw [htext, trim_append hfirst]
    exact splitAtDot_append hdot hfirst.no_backslash _
  by_cases hempty : first = ""
  · -- Without a table part, the dot belongs to the column part.
    rw [if_pos hempty, isMatch_of_no_split]
    intro l r h
    rw [hsplit, Option.some.injEq, Prod.mk.injEq] at h
    rw [← h.1, hempty]
    rfl
  · rw [if_neg hempty, isMatch_of_split table column hsplit (by simpa using hempty),
      partGlob_trimEnd]

end ColumnPattern

/-! ## Filters -/

namespace PatternFilter

theorem foldl_addInclude (f : PatternFilter) (patterns : List String) :
    patterns.foldl addInclude f =
      ⟨f.includes ++ patterns.map ColumnPattern.ofText, f.excludes⟩ := by
  induction patterns generalizing f with
  | nil => simp
  | cons p patterns ih =>
    rw [List.foldl_cons, ih]
    simp [addInclude]

theorem foldl_addExclude (f : PatternFilter) (patterns : List String) :
    patterns.foldl addExclude f =
      ⟨f.includes, f.excludes ++ patterns.map ColumnPattern.ofText⟩ := by
  induction patterns generalizing f with
  | nil => simp
  | cons p patterns ih =>
    rw [List.foldl_cons, ih]
    simp [addExclude]

theorem accepts_excluding_singleton (given table : String) (column : Column) :
    (excluding [given]).accepts table column =
      !(ColumnPattern.ofText given).isMatch table column.name := by
  unfold excluding accepts
  simp [addExclude, empty]

end PatternFilter

end TableDiff
