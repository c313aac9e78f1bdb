import TableDiff.Proofs.Comparator.Relation
import TableDiff.Proofs.Number.Rereading
import TableDiff.Proofs.Value.Characters

/-!
# Texts in the order of the values they show

Identifiers and truth values are written so that their texts are ordered as they are. Times are so
only up to the hour, since a leap second within a minute shows as the second after it; but the colon
behind the hour tells their texts from all identifiers and truth values. Numbers, dates and instants
are written with characters that come before all letters, and so before the words for truth values,
however the number or the date may be written.
-/

namespace TableDiff

open Number (padded paddedDigits padded_lt_padded length_padded)

/-! ## Times of day -/

namespace TimeOfDay

theorem twoDigits_lt {m n : Nat} {xs ys : List Char} (hmn : m < n) (hn : n < 100) :
    paddedDigits 2 m ++ xs < paddedDigits 2 n ++ ys := by
  rw [Number.paddedDigits_eq, Number.paddedDigits_eq]
  apply append_lt_append_of_lt
  · rw [length_padded (by omega) (by omega) (by omega),
      length_padded (by omega) (by omega) (by omega)]
  · exact padded_lt_padded (by omega) (by omega) (by omega) hmn (by omega)

/-- The text of a time begins with its hour and a colon. -/
theorem take_text (t : TimeOfDay) : t.text.take 3 = paddedDigits 2 t.hour ++ [':'] := by
  have hseconds := t.secondOfDay_lt
  have hlength : (paddedDigits 2 t.hour).length = 2 :=
    length_padded (by omega) (by omega) (by unfold hour; omega)
  simp [text, List.take_append, hlength]

/-- The hour never goes back, though within a minute a leap second shows as the second after it and
may so go ahead of that. -/
theorem hour_le {a b : TimeOfDay} (h : a.compare b ≠ .gt) : a.hour ≤ b.hour := by
  rw [Ne, compare, Ordering.then_eq_gt, Nat.compare_eq_gt] at h
  unfold hour
  omega

theorem take_text_le {a b : TimeOfDay} (h : a.compare b ≠ .gt) :
    a.text.take 3 ≤ b.text.take 3 := by
  rw [take_text, take_text]
  rcases (hour_le h).lt_or_eq with hlt | heq
  · have hseconds := b.secondOfDay_lt
    exact (twoDigits_lt hlt (by unfold hour; omega)).le
  · rw [heq]

end TimeOfDay

/-! ## Identifiers -/

namespace Guid

/-- Hyphens between groups of the same lengths do not change the order. -/
theorem intercalate_splitGroups_lt {ns : List Nat} {as bs : List Char}
    (ha : as.length = ns.sum) (hb : bs.length = ns.sum) (h : as < bs) :
    ['-'].intercalate (splitGroups ns as) < ['-'].intercalate (splitGroups ns bs) := by
  induction ns generalizing as bs with
  | nil =>
    rw [List.eq_nil_of_length_eq_zero hb] at h
    exact absurd h (List.not_lt_nil as)
  | cons n ns ih =>
    rw [List.sum_cons] at ha hb
    have hcut : ∀ {cs : List Char}, cs.length = n + ns.sum →
        (cs.take n).length = n ∧ (cs.drop n).length = ns.sum := by
      intro cs hcs
      rw [List.length_take, List.length_drop, hcs]
      omega
    cases ns with
    | nil =>
      -- The last group is all that is left.
      have htake : ∀ {cs : List Char}, cs.length = n + ([] : List Nat).sum → cs.take n = cs := by
        intro cs hcs
        exact List.take_of_length_le (by simpa using hcs.le)
      simpa [splitGroups, htake ha, htake hb] using h
    | cons k ks =>
      have hsplit : ∀ cs, ['-'].intercalate (splitGroups (n :: k :: ks) cs) =
          cs.take n ++ (['-'] ++ ['-'].intercalate (splitGroups (k :: ks) (cs.drop n))) := by
        intro cs
        rw [← List.append_assoc]
        exact List.intercalate_cons_cons
      rw [hsplit, hsplit]
      rcases take_lt_or_drop_lt n h with hfirst | ⟨hfirst, hrest⟩
      · exact append_lt_append_of_lt ((hcut ha).1.trans (hcut hb).1.symm) hfirst
      · rw [hfirst]
        apply List.append_left_lt
        apply List.append_left_lt
        exact ih (hcut ha).2 (hcut hb).2 hrest

theorem text_lt {g h : Guid} (hlt : g.value < h.value) : g.text < h.text := by
  apply intercalate_splitGroups_lt g.length_hexDigits h.length_hexDigits
  rw [Number.hexDigits_eq, Number.hexDigits_eq]
  exact padded_lt_padded (by omega) (by omega) (by omega) hlt h.value_lt

end Guid

/-! ## Values by their texts -/

theorem compares_ofList {o : Ordering} {as bs : List Char} (h : o.Compares as bs) :
    o.Compares (String.ofList as) (String.ofList bs) := by
  have hmono : ∀ as bs : List Char, as < bs → String.ofList as < String.ofList bs := by
    intro as bs hlt
    rw [String.lt_iff_toList_lt, String.toList_ofList, String.toList_ofList]
    exact hlt
  cases o with
  | lt => exact hmono as bs h
  | eq => exact congrArg String.ofList h
  | gt => exact hmono bs as h

theorem Guid.compares_text (g h : Guid) : (Ord.compare g.value h.value).Compares g.text h.text := by
  cases horder : Ord.compare g.value h.value with
  | lt => exact text_lt (Nat.compare_eq_lt.mp horder)
  | eq =>
    have hgh : g = h := by
      cases g
      cases h
      simpa using Nat.compare_eq_eq.mp horder
    exact congrArg text hgh
  | gt => exact text_lt (Nat.compare_eq_gt.mp horder)

namespace Value

variable {v w : Value}

/-- The kinds whose values are in the order of their texts. -/
def textualKinds : List Datatype := [.string, .boolean, .guid]

/-- Values without an order between them are ordered by their texts. -/
theorem compares_display_of_none (h : v.compare? w = none) :
    (Cell.compare (some v) (some w)).Compares v.display w.display := by
  simp only [Cell.compare, h, Option.getD_none]
  exact (compare_iff v.display w.display).mp rfl

theorem compares_display (hv : v.datatype ∈ textualKinds) (hw : w.datatype ∈ textualKinds) :
    (Cell.compare (some v) (some w)).Compares v.display w.display := by
  by_cases hkind : v.datatype = w.datatype
  · cases v <;> cases w <;> simp [datatype, textualKinds] at hkind hv
    case text.text s t => exact (compare_iff s t).mp rfl
    case boolean.boolean a b =>
      have hwords : "false" < "true" := by decide
      cases a <;> cases b
      exacts [rfl, hwords, hwords, rfl]
    case guid.guid g h => exact compares_ofList (g.compares_text h)
  · apply compares_display_of_none
    cases v <;> cases w <;> simp [datatype, textualKinds] at hkind hv hw <;> rfl

/-! ## Times beside identifiers and truth values -/

/-- The kinds of which the first three characters of a text tell which it is. -/
def leadingKinds : List Datatype := [.time, .boolean, .guid]

/-- The first three characters of the text. -/
def lead (v : Value) : List Char := v.display.toList.take 3

/-- The place of a value among times, identifiers and truth values. -/
def leading (v : Value) : List Char ×ₗ List ℚ := toLex (v.lead, v.rank)

theorem lead_le_of_display_le (h : v.display ≤ w.display) : v.lead ≤ w.lead := by
  rcases h.lt_or_eq with hlt | heq
  · rcases take_lt_or_drop_lt 3 (String.lt_iff_toList_lt.mp hlt) with hlead | ⟨hlead, -⟩
    · exact hlead.le
    · exact hlead.le
  · unfold lead
    rw [heq]

/-- Within one of the kinds the first three characters go with the rank. -/
theorem lead_le_of_rank_le (hkind : v.datatype = w.datatype) (hv : v.datatype ∈ leadingKinds)
    (h : v.rank ≤ w.rank) : v.lead ≤ w.lead := by
  have horder : Cell.compare (some v) (some w) ≠ .gt :=
    (Cell.compares_rank_some hkind).ne_gt.mpr h
  by_cases htime : v.datatype = .time
  · cases v <;> simp only [datatype, reduceCtorEq] at htime
    cases w <;> simp only [datatype, reduceCtorEq] at hkind
    simp only [lead, display, String.toList_ofList]
    exact TimeOfDay.take_text_le horder
  · have hrest : ∀ t ∈ leadingKinds, t ≠ .time → t ∈ textualKinds := by decide
    have htext : v.datatype ∈ textualKinds := hrest _ hv htime
    exact lead_le_of_display_le ((compares_display htext (hkind ▸ htext)).ne_gt.mp horder)

theorem colon_mem_lead (t : TimeOfDay) : ':' ∈ (time t).lead := by
  unfold lead display
  rw [String.toList_ofList, TimeOfDay.take_text]
  exact List.mem_append_right _ List.mem_cons_self

theorem ne_of_mem_lead_guid {g : Guid} {c : Char} (h : c ∈ (guid g).lead) :
    c ≠ ':' ∧ c ≠ 'l' ∧ c ≠ 'r' := by
  unfold lead display at h
  rw [String.toList_ofList] at h
  exact Guid.forall_mem_text (P := fun c => c ≠ ':' ∧ c ≠ 'l' ∧ c ≠ 'r') (by decide) (by decide)
    g c (List.mem_of_mem_take h)

/-- A time has a colon there, and a truth value has a letter that is no digit. -/
theorem lead_ne (hkind : v.datatype ≠ w.datatype) (hv : v.datatype ∈ leadingKinds)
    (hw : w.datatype ∈ leadingKinds) : v.lead ≠ w.lead := by
  have hword (b : Bool) (t : TimeOfDay) : (boolean b).lead ≠ (time t).lead := by
    intro heq
    have hcolon := colon_mem_lead t
    rw [← heq] at hcolon
    revert hcolon
    cases b <;> decide +kernel
  have hletter (b : Bool) (g : Guid) : (boolean b).lead ≠ (guid g).lead := by
    intro heq
    obtain ⟨c, hc, hmem⟩ : ∃ c, (c = 'l' ∨ c = 'r') ∧ c ∈ (boolean b).lead := by
      cases b
      · exact ⟨'l', Or.inl rfl, by decide +kernel⟩
      · exact ⟨'r', Or.inr rfl, by decide +kernel⟩
    rw [heq] at hmem
    exact hc.elim (ne_of_mem_lead_guid hmem).2.1 (ne_of_mem_lead_guid hmem).2.2
  have hcolon (t : TimeOfDay) (g : Guid) : (time t).lead ≠ (guid g).lead := by
    intro heq
    have hmem := colon_mem_lead t
    rw [heq] at hmem
    exact (ne_of_mem_lead_guid hmem).1 rfl
  cases v <;> cases w <;> simp [datatype, leadingKinds] at hkind hv hw
  case boolean.time b t => exact hword b t
  case boolean.guid b g => exact hletter b g
  case time.boolean t b => exact (hword b t).symm
  case time.guid t g => exact hcolon t g
  case guid.boolean g b => exact (hletter b g).symm
  case guid.time g t => exact (hcolon t g).symm

theorem compares_leading_of_rank {o : Ordering} (h : o.Compares v.rank w.rank)
    (hkind : v.datatype = w.datatype) (hv : v.datatype ∈ leadingKinds) :
    o.Compares v.leading w.leading := by
  have hle : v.rank ≤ w.rank → v.lead ≤ w.lead := lead_le_of_rank_le hkind hv
  have hge : w.rank ≤ v.rank → w.lead ≤ v.lead := lead_le_of_rank_le hkind.symm (hkind ▸ hv)
  cases o with
  | lt => exact Prod.Lex.toLex_lt_toLex.mpr ((hle h.le).lt_or_eq.imp_right fun heq => ⟨heq, h⟩)
  | eq => exact congrArg toLex (Prod.ext ((hle h.le).antisymm (hge h.ge)) h)
  | gt => exact Prod.Lex.toLex_lt_toLex.mpr ((hge h.le).lt_or_eq.imp_right fun heq => ⟨heq, h⟩)

theorem compares_leading_of_display {o : Ordering} (h : o.Compares v.display w.display)
    (hne : v.lead ≠ w.lead) : o.Compares v.leading w.leading := by
  cases o with
  | lt =>
    have hlead : v.lead ≤ w.lead := lead_le_of_display_le h.le
    exact Prod.Lex.toLex_lt_toLex.mpr (Or.inl (hlead.lt_of_ne hne))
  | eq =>
    have hlead : v.lead = w.lead := congrArg (fun s : String => s.toList.take 3) h
    exact absurd hlead hne
  | gt =>
    have hlead : w.lead ≤ v.lead := lead_le_of_display_le h.le
    exact Prod.Lex.toLex_lt_toLex.mpr (Or.inl (hlead.lt_of_ne hne.symm))

/-- Times, identifiers and truth values are in the order of the first three characters of their
texts, and where these are the same in the order of their kind. -/
theorem compares_leading (hv : v.datatype ∈ leadingKinds) (hw : w.datatype ∈ leadingKinds) :
    (Cell.compare (some v) (some w)).Compares v.leading w.leading := by
  by_cases hkind : v.datatype = w.datatype
  · exact compares_leading_of_rank (Cell.compares_rank_some hkind) hkind hv
  · apply compares_leading_of_display _ (lead_ne hkind hv hw)
    apply compares_display_of_none
    cases v <;> cases w <;> simp [datatype, leadingKinds] at hkind hv hw <;> rfl

/-! ## Numbers and dates before truth values -/

/-- The characters of numbers and dates come before the letters. -/
def isBeforeLetters (c : Char) : Bool := c < 'f'

theorem isBeforeLetters_of_isNumeralChar {c : Char} (h : isNumeralChar c = true) :
    isBeforeLetters c = true := by
  refine of_isNumeralChar (P := fun c => isBeforeLetters c = true) (fun c hc => ?_) (by decide) h
  simp only [Char.isDigit, Bool.and_eq_true, decide_eq_true_eq] at hc
  have hnine : '9' < 'f' := by decide
  exact decide_eq_true (lt_of_le_of_lt hc.2 hnine)

theorem all_isBeforeLetters {cs : List Char} (h : cs.all isNumeralChar = true) :
    cs.all isBeforeLetters = true :=
  List.all_eq_true.mpr fun c hc =>
    isBeforeLetters_of_isNumeralChar (List.all_eq_true.mp h c hc)

/-- The kinds that are written in digits and marks, other than binary numbers. -/
def countingKinds : List Datatype := [.integer, .decimal, .date, .datetime]

theorem all_display (hv : v.datatype ∈ countingKinds) :
    v.display.toList.all isBeforeLetters = true := by
  cases v <;> simp [datatype, countingKinds] at hv <;> rw [display, String.toList_ofList]
  case integer i => exact all_isBeforeLetters (all_intText _)
  case date d => exact all_isBeforeLetters (all_dateText d)
  case dateTime d =>
    rw [DateTime.text, List.all_append, List.all_cons, all_isBeforeLetters (all_dateText d.date),
      all_isBeforeLetters (all_timeText d.time)]
    decide
  case decimal d => exact all_isBeforeLetters (all_decimalText d)

theorem compare_boolean (hv : v.datatype ∈ countingKinds) (b : Bool) :
    Cell.compare (some v) (some (.boolean b)) = .lt := by
  have hnone : v.compare? (.boolean b) = none := by
    cases v <;> simp [datatype, countingKinds] at hv <;> rfl
  have hlt : v.display < (Value.boolean b).display := by
    rw [String.lt_iff_toList_lt]
    have hall := all_display hv
    -- The words begin with a letter.
    obtain ⟨c, cs, hword, hc⟩ : ∃ c cs, (Value.boolean b).display.toList = c :: cs ∧ 'f' ≤ c := by
      cases b
      · exact ⟨'f', _, rfl, le_refl _⟩
      · exact ⟨'t', _, rfl, by decide⟩
    rw [hword]
    cases hd : v.display.toList with
    | nil => exact List.nil_lt_cons c cs
    | cons d ds =>
      rw [hd, List.all_cons, Bool.and_eq_true] at hall
      exact List.cons_lt_cons_iff.mpr (Or.inl (lt_of_lt_of_le (of_decide_eq_true hall.1) hc))
  have horder := compares_display_of_none hnone
  exact horder.eq_lt.mpr hlt

end Value

end TableDiff
