import TableDiff.Proofs.Filter.Pattern

/-!
# What a pattern says

A pattern says of a table and a column what can be read off its text: which part of it is for the
table and which for the column, and how the characters of a part stand for those of a name, one
after the other. A filter that excludes by the pattern rejects just the columns of which it says so.
-/

namespace TableDiff

/-! ## The reading of a pattern -/

/-- What a part of a pattern says of a whole name. A star stands for any run of characters, a
question mark for any one character, a dot behind a backslash for a dot, and every other character
for itself in either case. -/
inductive PartSays : List Char → List Char → Prop where
  | nil : PartSays [] []
  | run {part rest : List Char} (skipped : List Char) (h : PartSays part rest) :
    PartSays ('*' :: part) (skipped ++ rest)
  | one {part rest : List Char} (c : Char) (h : PartSays part rest) :
    PartSays ('?' :: part) (c :: rest)
  | dot {part rest : List Char} (h : PartSays part rest) :
    PartSays ('\\' :: '.' :: part) ('.' :: rest)
  | letter {part rest : List Char} {a c : Char} (hstar : a ≠ '*') (hmark : a ≠ '?')
    (hbackslash : a ≠ '\\') (hcase : a.toLower = c.toLower) (h : PartSays part rest) :
    PartSays (a :: part) (c :: rest)

/-- The text has a first dot without a backslash right before it, between `before` and `after`. -/
structure FirstPlainDot (cs before after : List Char) : Prop where
  eq_append : cs = before ++ '.' :: after
  plain : before.getLast? ≠ some '\\'
  first : ∀ l r, before = l ++ '.' :: r → l.getLast? = some '\\'

/-- What a pattern without blanks at its ends says of a table and a column. What stands before its
first plain dot is for the table and the rest is for the column; without such a dot, or with one at
the very start, the whole is for the column. Blanks around a part do not count. -/
inductive PatternSays (cs table column : List Char) : Prop where
  | ofTable {before after : List Char} (hdot : FirstPlainDot cs before after) (hne : before ≠ [])
    (htable : PartSays (Text.trim before) table) (hcolumn : PartSays (Text.trim after) column)
  | ofAll (hdot : ∀ before after, FirstPlainDot cs before after → before = [])
    (hcolumn : PartSays (Text.trim cs) column)

/-! ## Backslashes -/

/-- A text in which every backslash stands before a dot. -/
def EscapesDots (cs : List Char) : Prop :=
  ∀ before after, cs = before ++ '\\' :: after → after.head? = some '.'

namespace EscapesDots

variable {c : Char} {cs l r : List Char}

theorem nil : EscapesDots [] := by
  intro before after h
  simp at h

theorem cons_iff : EscapesDots (c :: cs) ↔ (c = '\\' → cs.head? = some '.') ∧ EscapesDots cs := by
  constructor
  · intro h
    refine ⟨fun hc => h [] cs (by rw [hc, List.nil_append]), fun before after hcs => ?_⟩
    exact h (c :: before) after (by rw [hcs, List.cons_append])
  · rintro ⟨hfirst, hrest⟩ before after hcs
    cases before with
    | nil =>
      obtain ⟨rfl, rfl⟩ := List.cons.inj hcs
      exact hfirst rfl
    | cons b before => exact hrest before after (List.cons.inj hcs).2

instance instDecidable : (cs : List Char) → Decidable (EscapesDots cs)
  | [] => isTrue nil
  | c :: cs =>
    have := instDecidable cs
    decidable_of_iff ((c = '\\' → cs.head? = some '.') ∧ EscapesDots cs) cons_iff.symm

theorem of_append_right (h : EscapesDots (l ++ r)) : EscapesDots r := fun before after hr =>
  h (l ++ before) after (by rw [hr, List.append_assoc])

theorem of_append_left (h : EscapesDots (l ++ r)) (hlast : l.getLast? ≠ some '\\') :
    EscapesDots l := by
  intro before after hl
  cases after with
  | nil => simp [hl] at hlast
  | cons d after => exact h before (d :: after ++ r) (by rw [hl, List.append_assoc]; rfl)

/-- A backslash at the end is one before what follows. -/
theorem head?_of_getLast? (h : EscapesDots (l ++ r)) (hlast : l.getLast? = some '\\') :
    r.head? = some '.' := by
  obtain ⟨before, rfl⟩ := List.getLast?_eq_some_iff.mp hlast
  exact h before r (by rw [List.append_assoc]; rfl)

theorem trim (h : EscapesDots cs) : EscapesDots (Text.trim cs) := by
  have hstart : EscapesDots (Text.trimStart cs) := by
    apply of_append_right (l := cs.takeWhile Text.isBlank)
    unfold Text.trimStart
    rwa [List.takeWhile_append_dropWhile]
  -- What is taken from the end are blanks, and a backslash stands before none.
  have hsplit : Text.trim cs ++ (Text.trimStart cs).rtakeWhile Text.isBlank = Text.trimStart cs :=
    List.rdropWhile_append_rtakeWhile
  rw [← hsplit] at hstart
  refine hstart.of_append_left fun hlast => ?_
  have hdot : '.' ∈ (Text.trimStart cs).rtakeWhile Text.isBlank :=
    List.mem_of_mem_head? (hstart.head?_of_getLast? hlast)
  exact absurd (List.mem_rtakeWhile_imp hdot) (by decide)

end EscapesDots

/-! ## Dots -/

namespace ColumnPattern

theorem getLast?_of_escapesNext {cs : List Char} (h : escapesNext false cs = true) :
    cs.getLast? = some '\\' := by
  rcases List.eq_nil_or_concat' cs with rfl | ⟨before, c, rfl⟩
  · cases h
  · rw [escapesNext_append, Bool.and_eq_true, beq_iff_eq] at h
    rw [List.getLast?_concat, h.1]

/-- Where every backslash stands before a dot, a dot is escaped by a backslash right before it. -/
theorem escapesNext_iff_getLast? {l r : List Char} (h : EscapesDots (l ++ r)) :
    escapesNext false l = true ↔ l.getLast? = some '\\' := by
  refine ⟨getLast?_of_escapesNext, fun hlast => ?_⟩
  obtain ⟨before, rfl⟩ := List.getLast?_eq_some_iff.mp hlast
  rw [escapesNext_append, Bool.and_eq_true, beq_self_eq_true, Bool.not_eq_true']
  refine ⟨rfl, Bool.eq_false_iff.mpr fun hescaped => ?_⟩
  -- The backslash before that one would stand before a backslash.
  rw [List.append_assoc] at h
  have hdot := h.head?_of_getLast? (getLast?_of_escapesNext hescaped)
  simp at hdot

theorem splitAtDot_iff_firstPlainDot {cs before after : List Char} (h : EscapesDots cs) :
    splitAtDot false cs = some (before, after) ↔ FirstPlainDot cs before after := by
  rw [splitAtDot_eq_some_iff]
  constructor
  · rintro ⟨rfl, hplain, hfirst⟩
    refine ⟨rfl, fun hlast => ?_, fun l r hl => getLast?_of_escapesNext (hfirst l r hl)⟩
    rw [(escapesNext_iff_getLast? h).mpr hlast] at hplain
    cases hplain
  · rintro ⟨rfl, hplain, hfirst⟩
    refine ⟨rfl, ?_, fun l r hl => ?_⟩
    · exact Bool.eq_false_iff.mpr fun hescaped => hplain (getLast?_of_escapesNext hescaped)
    · rw [hl, List.append_assoc] at h
      exact (escapesNext_iff_getLast? h).mpr (hfirst l r hl)

end ColumnPattern

/-! ## Parts -/

/-- The names in ASCII and on one line. -/
def PlainName (cs : List Char) : Prop := ∀ c ∈ cs, c.toNat < 0x80 ∧ c ≠ '\n'

instance (cs : List Char) : Decidable (PlainName cs) := List.decidableBAll _ cs

namespace PartSays

variable {part name : List Char} {a : Char}

theorem run_iff : PartSays ('*' :: part) name ↔
    ∃ skipped rest, name = skipped ++ rest ∧ PartSays part rest := by
  constructor
  · intro h
    cases h with
    | run skipped h => exact ⟨skipped, _, rfl, h⟩
    | letter hstar => exact absurd rfl hstar
  · rintro ⟨skipped, rest, rfl, h⟩
    exact h.run skipped

theorem one_iff :
    PartSays ('?' :: part) name ↔ ∃ c rest, name = c :: rest ∧ PartSays part rest := by
  constructor
  · intro h
    cases h with
    | one c h => exact ⟨c, _, rfl, h⟩
    | letter hstar hmark => exact absurd rfl hmark
  · rintro ⟨c, rest, rfl, h⟩
    exact h.one c

theorem dot_iff : PartSays ('\\' :: '.' :: part) name ↔
    ∃ rest, name = '.' :: rest ∧ PartSays part rest := by
  constructor
  · intro h
    cases h with
    | dot h => exact ⟨_, rfl, h⟩
    | letter hstar hmark hbackslash => exact absurd rfl hbackslash
  · rintro ⟨rest, rfl, h⟩
    exact h.dot

theorem letter_iff (hstar : a ≠ '*') (hmark : a ≠ '?') (hbackslash : a ≠ '\\') :
    PartSays (a :: part) name ↔
      ∃ c rest, name = c :: rest ∧ a.toLower = c.toLower ∧ PartSays part rest := by
  constructor
  · intro h
    cases h with
    | run => exact absurd rfl hstar
    | one => exact absurd rfl hmark
    | dot => exact absurd rfl hbackslash
    | letter _ _ _ hcase h => exact ⟨_, _, rfl, hcase, h⟩
  · rintro ⟨c, rest, rfl, hcase, h⟩
    exact h.letter hstar hmark hbackslash hcase

end PartSays

namespace ColumnPattern

/-- The glob of a text says what the text says. -/
theorem isMatch_ofText_unescapeDots_iff {part name : List Char} (hescapes : EscapesDots part)
    (hpart : Text.IsAscii part) (hname : PlainName name) :
    (Glob.ofText (unescapeDots part)).isMatch name = true ↔ PartSays part name := by
  -- On the text, from one character that is not escaped to the next.
  induction part using unescapeDots.induct generalizing name with
  | case1 part ih =>
    have hafter : EscapesDots part := EscapesDots.of_append_right (l := ['\\', '.']) hescapes
    have hrest {name : List Char} (hname : PlainName name) := ih hafter
      (fun c hc => hpart c (List.mem_cons_of_mem _ (List.mem_cons_of_mem _ hc))) hname
    rw [unescapeDots]
    show Glob.isMatch (.letter '.' :: Glob.ofText (unescapeDots part)) name = true ↔ _
    rw [Glob.isMatch_letter_iff, PartSays.dot_iff]
    constructor
    · rintro ⟨c, rest, rfl, hc, hmatch⟩
      obtain rfl := (Text.sameLetter_iff_eq_of_lt (by decide)).mp hc
      exact ⟨rest, rfl, (hrest (List.forall_mem_cons.mp hname).2).mp hmatch⟩
    · rintro ⟨rest, rfl, hsays⟩
      exact ⟨'.', rest, rfl, rfl, (hrest (List.forall_mem_cons.mp hname).2).mpr hsays⟩
  | case2 a part hdot ih =>
    obtain ⟨hbefore, hafter⟩ := EscapesDots.cons_iff.mp hescapes
    obtain ⟨ha, hpart⟩ := List.forall_mem_cons.mp hpart
    have hrest {name : List Char} (hname : PlainName name) := ih hafter hpart hname
    have hbackslash : a ≠ '\\' := by
      intro heq
      obtain ⟨rest, hrest⟩ := List.head?_eq_some_iff.mp (hbefore heq)
      exact hdot rest heq hrest
    rw [unescapeDots_cons hbackslash]
    by_cases hstar : a = '*'
    · subst hstar
      show Glob.isMatch (.anyRun :: Glob.ofText (unescapeDots part)) name = true ↔ _
      rw [Glob.isMatch_anyRun_iff, PartSays.run_iff]
      refine exists₂_congr fun run rest => and_congr_right ?_
      rintro rfl
      obtain ⟨hrun, hname⟩ := List.forall_mem_append.mp hname
      rw [hrest hname]
      exact and_iff_right fun hmem => (hrun _ hmem).2 rfl
    by_cases hmark : a = '?'
    · subst hmark
      show Glob.isMatch (.anyOne :: Glob.ofText (unescapeDots part)) name = true ↔ _
      rw [Glob.isMatch_anyOne_iff, PartSays.one_iff]
      refine exists₂_congr fun c rest => and_congr_right ?_
      rintro rfl
      obtain ⟨hc, hname⟩ := List.forall_mem_cons.mp hname
      rw [hrest hname]
      exact and_iff_right hc.2
    have hletter : Glob.ofText (a :: unescapeDots part) =
        .letter a :: Glob.ofText (unescapeDots part) := by
      simp [Glob.ofText, hstar, hmark]
    rw [hletter, Glob.isMatch_letter_iff, PartSays.letter_iff hstar hmark hbackslash]
    refine exists₂_congr fun c rest => and_congr_right ?_
    rintro rfl
    obtain ⟨hc, hname⟩ := List.forall_mem_cons.mp hname
    rw [hrest hname, Text.sameLetter_of_ascii ha hc.1, beq_iff_eq]
  | case3 =>
    cases name with
    | nil => exact ⟨fun _ => .nil, fun _ => rfl⟩
    | cons c rest => exact ⟨fun h => (by cases h), fun h => (by cases h)⟩

theorem isMatch_partGlob_iff {part name : List Char} (hescapes : EscapesDots part)
    (hpart : Text.IsAscii part) (hname : PlainName name) :
    (partGlob part).isMatch name = true ↔ PartSays (Text.trim part) name :=
  isMatch_ofText_unescapeDots_iff hescapes.trim (fun c hc => hpart c (Text.mem_of_mem_trim hc))
    hname

/-- A pattern matches just the columns of which its text says so. -/
theorem isMatch_ofText_iff {given table column : String}
    (hgiven : Text.IsAscii given.toList) (hescapes : EscapesDots given.toList)
    (htable : PlainName table.toList) (hcolumn : PlainName column.toList) :
    (ofText given).isMatch table column = true ↔
      PatternSays (Text.trim given.toList) table.toList column.toList := by
  have hsplit {before after : List Char} :
      splitAtDot false (Text.trim given.toList) = some (before, after) ↔
        FirstPlainDot (Text.trim given.toList) before after :=
    splitAtDot_iff_firstPlainDot hescapes.trim
  have hascii : Text.IsAscii (Text.trim given.toList) := fun c hc =>
    hgiven c (Text.mem_of_mem_trim hc)
  -- With a plain dot behind the start there are two parts, and their backslashes escape dots, too.
  have hqualified {before after : List Char}
      (hdot : FirstPlainDot (Text.trim given.toList) before after) (hne : before ≠ []) :
      (ofText given).isMatch table column = true ↔
        PartSays (Text.trim before) table.toList ∧ PartSays (Text.trim after) column.toList := by
    have hparts : EscapesDots (before ++ '.' :: after) := hdot.eq_append ▸ hescapes.trim
    have hrest : EscapesDots after := (EscapesDots.cons_iff.mp hparts.of_append_right).2
    rw [hdot.eq_append] at hascii
    obtain ⟨hbefore, hafter⟩ := List.forall_mem_append.mp hascii
    rw [isMatch_of_split _ _ (hsplit.mpr hdot) hne, Bool.and_eq_true,
      isMatch_partGlob_iff (hparts.of_append_left hdot.plain) hbefore htable,
      isMatch_partGlob_iff hrest (List.forall_mem_cons.mp hafter).2 hcolumn]
  have hplain (hdot : ∀ before after, FirstPlainDot (Text.trim given.toList) before after →
      before = []) : (ofText given).isMatch table column = true ↔
        PartSays (Text.trim (Text.trim given.toList)) column.toList := by
    rw [isMatch_of_no_split _ _ fun l r h => hdot l r (hsplit.mp h), Text.trim_trim,
      isMatch_partGlob_iff hescapes hgiven hcolumn]
  constructor
  · intro hmatch
    by_cases hdot :
      ∀ before after, FirstPlainDot (Text.trim given.toList) before after → before = []
    · exact .ofAll hdot ((hplain hdot).mp hmatch)
    · push Not at hdot
      obtain ⟨before, after, hdot, hne⟩ := hdot
      obtain ⟨htable, hcolumn⟩ := (hqualified hdot hne).mp hmatch
      exact .ofTable hdot hne htable hcolumn
  · rintro (⟨hdot, hne, htable, hcolumn⟩ | ⟨hdot, hcolumn⟩)
    · exact (hqualified hdot hne).mpr ⟨htable, hcolumn⟩
    · exact (hplain hdot).mpr hcolumn

end ColumnPattern

namespace PatternFilter

/-- A filter that excludes by one pattern rejects just the columns of which the pattern says so. -/
theorem accepts_excluding_eq_false_iff {given table : String} {column : Column}
    (hgiven : Text.IsAscii given.toList) (hescapes : EscapesDots given.toList)
    (htable : PlainName table.toList) (hcolumn : PlainName column.name.toList) :
    (excluding [given]).accepts table column = false ↔
      PatternSays (Text.trim given.toList) table.toList column.name.toList := by
  rw [accepts_excluding_singleton, Bool.not_eq_false',
    ColumnPattern.isMatch_ofText_iff hgiven hescapes htable hcolumn]

/-- A pattern for a table, with dots that are escaped on both sides of its plain one. -/
theorem accepts_excluding_eq_false_iff_dotted :
    let given := " Orders\\.v? .(a+b)\\.* "
    let column := Column.untyped "(A+B).c.d"
    Text.IsAscii given.toList ∧ EscapesDots given.toList ∧
    PlainName "orders.V1".toList ∧ PlainName column.name.toList ∧
    PatternSays (Text.trim given.toList) "orders.V1".toList column.name.toList ∧
    ¬ PatternSays (Text.trim given.toList) "orders.V".toList column.name.toList := by
  intro given column
  have hgiven : Text.IsAscii given.toList := by decide +kernel
  have hescapes : EscapesDots given.toList := by decide +kernel
  have hcolumn : PlainName column.name.toList := by decide
  have hsays (table : String) (htable : PlainName table.toList) :
      (excluding [given]).accepts table column = false ↔
        PatternSays (Text.trim given.toList) table.toList column.name.toList :=
    accepts_excluding_eq_false_iff hgiven hescapes htable hcolumn
  refine ⟨hgiven, hescapes, by decide, hcolumn, ?_, ?_⟩
  · rw [← hsays "orders.V1" (by decide)]
    decide +kernel
  · rw [← hsays "orders.V" (by decide)]
    decide +kernel

end PatternFilter

end TableDiff
