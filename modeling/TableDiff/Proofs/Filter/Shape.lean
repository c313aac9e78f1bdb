import TableDiff.Proofs.Filter.OwnName

/-!
# What patterns can tell apart

A pattern sees of a name its letters, each in either case, and of the characters with which
wildcards are written only that they stand there. Names with the same of this are matched by the
same patterns, and any other two names are told apart by a pattern.
-/

namespace TableDiff

/-! ## The shape of a name -/

namespace Glob

/-- What a glob can see of a character. -/
def seen (c : Char) : Option Char := if c = '*' ∨ c = '?' then none else some (Text.foldChar c)

/-- What a glob can see of a name. -/
def shape (cs : List Char) : List (Option Char) := cs.map seen

variable {c d : Char} {cs ds : List Char}

theorem seen_eq_none_iff : seen c = none ↔ c = '*' ∨ c = '?' := by
  unfold seen
  split <;> simp [*]

theorem seen_eq_line_end_iff : seen c = some '\n' ↔ c = '\n' := by
  unfold seen
  split
  · rename_i hwild
    simp only [reduceCtorEq, false_iff]
    rintro rfl
    revert hwild
    decide
  · rw [Option.some.injEq, Text.foldChar_eq_iff_of_lt (by decide)]

/-- A letter that is no wildcard tells characters by what is seen of them. -/
theorem sameLetter_iff_seen_eq (hwild : ¬ (c = '*' ∨ c = '?')) :
    Text.sameLetter c d = true ↔ seen c = seen d := by
  unfold seen
  rw [if_neg hwild]
  split
  · rename_i hd
    have hlt : d.toNat < 0x41 := by rcases hd with rfl | rfl <;> decide
    simp only [reduceCtorEq, iff_false]
    intro hsame
    have hfold : Text.foldChar c = Text.foldChar d := beq_iff_eq.mp hsame
    rw [(Text.foldChar_eq_iff_of_lt hlt).mpr rfl, Text.foldChar_eq_iff_of_lt hlt] at hfold
    exact hwild (hfold ▸ hd)
  · rw [Option.some.injEq]
    exact beq_iff_eq

theorem mem_line_end_iff : '\n' ∈ cs ↔ some '\n' ∈ shape cs := by
  unfold shape
  rw [List.mem_map]
  constructor
  · exact fun h => ⟨'\n', h, seen_eq_line_end_iff.mpr rfl⟩
  · rintro ⟨c, hc, hseen⟩
    exact seen_eq_line_end_iff.mp hseen ▸ hc

/-! ## Names of one shape -/

/-- A glob in which the characters of wildcards are wildcards. -/
def HasNoWildLetter (glob : Glob) : Prop :=
  ∀ a, GlobItem.letter a ∈ glob → ¬ (a = '*' ∨ a = '?')

theorem hasNoWildLetter_ofText (cs : List Char) : HasNoWildLetter (ofText cs) := by
  intro a ha
  unfold ofText at ha
  obtain ⟨c, -, hc⟩ := List.mem_map.mp ha
  split at hc
  · cases hc
  · split at hc
    · cases hc
    · obtain rfl := GlobItem.letter.inj hc
      rename_i hstar hmark
      exact not_or.mpr ⟨hstar, hmark⟩

theorem takes_of_shape_eq {item : GlobItem} (hitem : HasNoWildLetter [item])
    (hshape : shape cs = shape ds) (h : Takes item cs) : Takes item ds := by
  cases item with
  | anyRun =>
    show '\n' ∉ ds
    rw [mem_line_end_iff, ← hshape, ← mem_line_end_iff]
    exact h
  | anyOne =>
    obtain ⟨c, rfl, hc⟩ := h
    obtain ⟨d, rfl, hd⟩ := List.map_eq_singleton_iff.mp hshape.symm
    exact ⟨d, rfl, fun hline => hc (seen_eq_line_end_iff.mp (hd ▸ seen_eq_line_end_iff.mpr hline))⟩
  | letter a =>
    have ha := hitem a (List.mem_singleton_self _)
    obtain ⟨c, rfl, hc⟩ := h
    obtain ⟨d, rfl, hd⟩ := List.map_eq_singleton_iff.mp hshape.symm
    have hseen : seen a = seen c := (sameLetter_iff_seen_eq ha).mp hc
    exact ⟨d, rfl, (sameLetter_iff_seen_eq ha).mpr (hseen.trans hd.symm)⟩

theorem isMatch_of_shape_eq {glob : Glob} (hglob : HasNoWildLetter glob)
    (hshape : shape cs = shape ds) (h : isMatch glob cs = true) : isMatch glob ds = true := by
  induction glob generalizing cs ds with
  | nil =>
    rw [isMatch_nil_iff] at h
    subst h
    rw [isMatch_nil_iff]
    exact List.map_eq_nil_iff.mp hshape.symm
  | cons item glob ih =>
    obtain ⟨taken, rest, rfl, htaken, hrest⟩ := (isMatch_cons_iff item glob cs).mp h
    obtain ⟨taken', rest', rfl, htaken', hrest'⟩ :=
      List.map_eq_append_iff.mp (hshape.symm.trans List.map_append)
    refine (isMatch_cons_iff item glob _).mpr ⟨taken', rest', rfl, ?_, ?_⟩
    · refine takes_of_shape_eq (fun a ha => hglob a ?_) htaken'.symm htaken
      exact List.mem_cons.mpr (.inl (List.mem_singleton.mp ha))
    · exact ih (fun a ha => hglob a (List.mem_cons_of_mem item ha)) hrest'.symm hrest

/-- A glob that a text denotes answers alike for names of one shape. -/
theorem isMatch_ofText_congr (text : List Char) (hshape : shape cs = shape ds) :
    isMatch (ofText text) cs = isMatch (ofText text) ds :=
  Bool.eq_iff_iff.mpr ⟨isMatch_of_shape_eq (hasNoWildLetter_ofText text) hshape,
    isMatch_of_shape_eq (hasNoWildLetter_ofText text) hshape.symm⟩

/-! ## A glob for one shape -/

/-- The name with question marks for its stars. -/
def maskText (cs : List Char) : List Char := cs.map fun c => if c = '*' then '?' else c

/-- The glob of the names that have the characters of `cs` one by one. -/
abbrev mask (cs : List Char) : Glob := ofText (maskText cs)

theorem mask_cons (c : Char) (cs : List Char) :
    mask (c :: cs) = (if c = '*' ∨ c = '?' then .anyOne else .letter c) :: mask cs := by
  unfold mask maskText ofText
  by_cases hstar : c = '*'
  · simp [hstar]
  · by_cases hmark : c = '?' <;> simp [hstar, hmark]

theorem isMatch_mask_self (cs : List Char) : isMatch (mask cs) cs = true := by
  induction cs with
  | nil => rfl
  | cons c cs ih =>
    rw [mask_cons]
    split
    · rename_i hwild
      refine (isMatch_anyOne_iff _ _).mpr ⟨c, cs, rfl, ?_, ih⟩
      rcases hwild with rfl | rfl <;> decide
    · exact (isMatch_letter_iff _ _ c).mpr ⟨c, cs, rfl, beq_self_eq_true _, ih⟩

theorem length_eq_of_isMatch_mask (h : isMatch (mask cs) ds = true) : ds.length = cs.length := by
  induction cs generalizing ds with
  | nil =>
    rw [(isMatch_nil_iff ds).mp h]
  | cons c cs ih =>
    rw [mask_cons] at h
    split at h
    · obtain ⟨d, rest, rfl, -, hrest⟩ := (isMatch_anyOne_iff _ _).mp h
      simp [ih hrest]
    · obtain ⟨d, rest, rfl, -, hrest⟩ := (isMatch_letter_iff _ _ c).mp h
      simp [ih hrest]

theorem head_of_isMatch_mask (h : isMatch (mask (c :: cs)) (d :: ds) = true) :
    ((c = '*' ∨ c = '?') ∨ seen c = seen d) ∧ isMatch (mask cs) ds = true := by
  rw [mask_cons] at h
  split at h
  · rename_i hwild
    rw [isMatch_anyOne_cons, Bool.and_eq_true] at h
    exact ⟨.inl hwild, h.2⟩
  · rename_i hwild
    rw [isMatch_letter_cons, Bool.and_eq_true, sameLetter_iff_seen_eq hwild] at h
    exact ⟨.inr h.1, h.2⟩

/-- Two names that have each the characters of the other are of one shape. -/
theorem shape_eq_of_isMatch_mask (hcs : isMatch (mask cs) ds = true)
    (hds : isMatch (mask ds) cs = true) : shape cs = shape ds := by
  induction cs generalizing ds with
  | nil => rw [(isMatch_nil_iff ds).mp hcs]
  | cons c cs ih =>
    cases ds with
    | nil => cases (isMatch_nil_iff _).mp hds
    | cons d ds =>
      obtain ⟨hc, hcs⟩ := head_of_isMatch_mask hcs
      obtain ⟨hd, hds⟩ := head_of_isMatch_mask hds
      have hhead : seen c = seen d := by
        rcases hc with hc | hc
        · rcases hd with hd | hd
          · rw [seen_eq_none_iff.mpr hc, seen_eq_none_iff.mpr hd]
          · exact hd.symm
        · exact hc
      show seen c :: shape cs = seen d :: shape ds
      rw [hhead, ih hcs hds]

/-- The glob of the names that have those characters in one place, among others of its line. -/
def containing (cs : List Char) : Glob := .anyRun :: mask cs ++ [.anyRun]

theorem isMatch_containing_iff :
    isMatch (containing cs) ds = true ↔ ∃ before inner after, ds = before ++ inner ++ after ∧
      '\n' ∉ before ∧ '\n' ∉ after ∧ isMatch (mask cs) inner = true := by
  unfold containing
  simp only [List.cons_append, isMatch_anyRun_iff, isMatch_append_iff, isMatch_nil_iff]
  constructor
  · rintro ⟨before, rest, rfl, hbefore, inner, r, rfl, hinner, after, _, rfl, hafter, rfl⟩
    exact ⟨before, inner, after, by simp, hbefore, hafter, hinner⟩
  · rintro ⟨before, inner, after, rfl, hbefore, hafter, hinner⟩
    exact ⟨before, inner ++ after, by simp, hbefore, inner, after, rfl, hinner, after, [], by simp,
      hafter, rfl⟩

theorem isMatch_containing_self (cs : List Char) : isMatch (containing cs) cs = true :=
  isMatch_containing_iff.mpr ⟨[], cs, [], by simp, by simp, by simp, isMatch_mask_self cs⟩

/-- Two names that contain each other are of one shape. -/
theorem shape_eq_of_isMatch_containing (hcs : isMatch (containing cs) ds = true)
    (hds : isMatch (containing ds) cs = true) : shape cs = shape ds := by
  obtain ⟨b, inner, a, hcsplit, -, -, hinner⟩ := isMatch_containing_iff.mp hcs
  obtain ⟨b', inner', a', hdsplit, -, -, hinner'⟩ := isMatch_containing_iff.mp hds
  have hlength := length_eq_of_isMatch_mask hinner
  have hlength' := length_eq_of_isMatch_mask hinner'
  have hcs := congrArg List.length hcsplit
  have hds := congrArg List.length hdsplit
  simp only [List.length_append] at hcs hds
  -- Neither name is longer, so nothing stands around the characters.
  obtain rfl : b = [] := List.length_eq_zero_iff.mp (by omega)
  obtain rfl : a = [] := List.length_eq_zero_iff.mp (by omega)
  obtain rfl : b' = [] := List.length_eq_zero_iff.mp (by omega)
  obtain rfl : a' = [] := List.length_eq_zero_iff.mp (by omega)
  rw [List.nil_append, List.append_nil] at hcsplit hdsplit
  exact shape_eq_of_isMatch_mask (hcsplit ▸ hinner) (hdsplit ▸ hinner')

end Glob

/-! ## Patterns for one table and one shape -/

namespace ColumnPattern

theorem exists_column_eq_ofText (given : String) :
    ∃ text, (ofText given).column = Glob.ofText text := by
  unfold ofText
  dsimp only
  split <;> exact ⟨_, rfl⟩

/-- Patterns answer alike for columns whose names are of one shape. -/
theorem isMatch_congr {column other : String} (given table : String)
    (hshape : Glob.shape column.toList = Glob.shape other.toList) :
    (ofText given).isMatch table column = (ofText given).isMatch table other := by
  obtain ⟨text, htext⟩ := exists_column_eq_ofText given
  unfold isMatch
  rw [htext, Glob.isMatch_ofText_congr text hshape]

/-- A text with the line ends of a table's name and a question mark for each other character. -/
def tableMask (cs : List Char) : List Char := cs.map fun c => if c = '\n' then c else '?'

theorem isMatch_tableMask (cs : List Char) : (Glob.ofText (tableMask cs)).isMatch cs = true := by
  induction cs with
  | nil => rfl
  | cons c cs ih =>
    by_cases hline : c = '\n'
    · subst hline
      exact (Glob.isMatch_letter_iff _ _ '\n').mpr ⟨'\n', cs, rfl, by decide, ih⟩
    · have hmask : Glob.ofText (tableMask (c :: cs)) = .anyOne :: Glob.ofText (tableMask cs) := by
        simp [tableMask, Glob.ofText, hline]
      rw [hmask]
      exact (Glob.isMatch_anyOne_iff _ _).mpr ⟨c, cs, rfl, hline, ih⟩

/-- The text between stars, which no blanks can be cut from. -/
def starred (cs : List Char) : List Char := '*' :: cs ++ ['*']

theorem trim_starred : Text.trim (starred cs) = starred cs := by
  have hlast : (starred cs).getLast? = some '*' := List.getLast?_concat
  have hstar : ∀ c ∈ some '*', Text.isBlank c = false := fun c hc => Option.some.inj hc ▸ rfl
  exact Text.trim_of_ends hstar (hlast ▸ hstar)

theorem ofText_starred : Glob.ofText (starred cs) = .anyRun :: Glob.ofText cs ++ [.anyRun] := by
  simp [starred, Glob.ofText]

theorem escapeDots_starred : escapeDots (starred cs) = starred (escapeDots cs) := by
  unfold starred escapeDots
  rw [List.cons_append, List.flatMap_cons, List.flatMap_append]
  rfl

/-- A pattern for the columns of a table whose names contain a name. -/
def containing (table name : String) : String :=
  String.ofList
    (starred (tableMask table.toList) ++ '.' :: starred (escapeDots (Glob.maskText name.toList)))

theorem not_mem_starred_tableMask {c : Char} (hc : c ≠ '*' ∧ c ≠ '?' ∧ c ≠ '\n') (cs : List Char) :
    c ∉ starred (tableMask cs) := by
  unfold starred tableMask
  simp only [List.cons_append, List.mem_cons, List.mem_append, List.mem_map, List.not_mem_nil,
    or_false, not_or, not_exists, not_and]
  refine ⟨hc.1, fun d _ => ?_, hc.1⟩
  split
  · rename_i hline
    exact hline ▸ hc.2.2.symm
  · exact hc.2.1.symm

theorem isMatch_containing (table name column : String) :
    (ofText (containing table name)).isMatch table column =
      (Glob.containing name.toList).isMatch column.toList := by
  have hsplit : splitAtDot false (Text.trim (containing table name).toList) =
      some (starred (tableMask table.toList),
        starred (escapeDots (Glob.maskText name.toList))) := by
    have hstarred : (containing table name).toList = starred (tableMask table.toList ++
        '*' :: '.' :: '*' :: escapeDots (Glob.maskText name.toList)) := by
      simp [containing, starred]
    rw [hstarred, trim_starred, ← hstarred, containing, String.toList_ofList]
    exact splitAtDot_append (not_mem_starred_tableMask (by decide) _)
      (not_mem_starred_tableMask (by decide) _) _
  have htable : (partGlob (starred (tableMask table.toList))).isMatch table.toList = true := by
    unfold partGlob
    rw [trim_starred, unescapeDots_of_no_backslash (not_mem_starred_tableMask (by decide) _),
      ofText_starred]
    simp only [List.cons_append, Glob.isMatch_anyRun_iff, Glob.isMatch_append_iff]
    exact ⟨[], _, rfl, by simp, table.toList, [], (List.append_nil _).symm, isMatch_tableMask _, [],
      [], rfl, by simp, rfl⟩
  rw [isMatch_of_split _ _ hsplit (by simp [starred]), htable, Bool.true_and, ← escapeDots_starred,
    partGlob_escapeDots, trim_starred, ofText_starred]
  rfl

end ColumnPattern

/-! ## Filters of patterns -/

namespace PatternFilter

/-- The filter of patterns to include and to exclude. -/
def ofPatterns (includes excludes : List String) : PatternFilter :=
  excludes.foldl addExclude (includes.foldl addInclude empty)

theorem ofPatterns_eq (includes excludes : List String) :
    ofPatterns includes excludes =
      ⟨includes.map ColumnPattern.ofText, excludes.map ColumnPattern.ofText⟩ := by
  unfold ofPatterns
  rw [foldl_addInclude, foldl_addExclude]
  rfl

theorem accepts_ofPatterns (includes excludes : List String) (table : String) (column : Column) :
    (ofPatterns includes excludes).accepts table column =
      ((includes.isEmpty ||
          includes.any fun p => (ColumnPattern.ofText p).isMatch table column.name) &&
        !excludes.any fun p => (ColumnPattern.ofText p).isMatch table column.name) := by
  rw [ofPatterns_eq]
  unfold accepts
  rw [List.any_map, List.any_map, List.isEmpty_map]
  rfl

/-- What patterns see of a column. -/
def shapeOf (column : Column) : List (Option Char) := Glob.shape column.name.toList

theorem accepts_congr {a b : Column} (hshape : shapeOf a = shapeOf b)
    (includes excludes : List String) (table : String) :
    (ofPatterns includes excludes).accepts table a =
      (ofPatterns includes excludes).accepts table b := by
  have hmatch (p : String) : (ColumnPattern.ofText p).isMatch table a.name =
      (ColumnPattern.ofText p).isMatch table b.name := ColumnPattern.isMatch_congr p table hshape
  simp only [accepts_ofPatterns, hmatch]

/-- Filters answer alike for two columns exactly if patterns see the same of them. -/
theorem forall_accepts_eq_iff (table : String) (a b : Column) :
    (∀ includes excludes, (ofPatterns includes excludes).accepts table a =
      (ofPatterns includes excludes).accepts table b) ↔ shapeOf a = shapeOf b := by
  refine ⟨fun h => ?_, fun hshape includes excludes => accepts_congr hshape includes excludes table⟩
  have hcontaining (c d : Column) :
      (ofPatterns [] [ColumnPattern.containing table c.name]).accepts table d =
        !(Glob.containing c.name.toList).isMatch d.name.toList := by
    rw [accepts_ofPatterns]
    simp [ColumnPattern.isMatch_containing]
  -- Each name is contained in itself, so each is contained in the other one.
  have ha := h [] [ColumnPattern.containing table a.name]
  have hb := h [] [ColumnPattern.containing table b.name]
  rw [hcontaining, hcontaining, Glob.isMatch_containing_self, eq_comm, Bool.not_eq_eq_eq_not,
    Bool.not_not] at ha
  rw [hcontaining, hcontaining, Glob.isMatch_containing_self, Bool.not_eq_eq_eq_not,
    Bool.not_not] at hb
  exact Glob.shape_eq_of_isMatch_containing ha hb

end PatternFilter

end TableDiff
