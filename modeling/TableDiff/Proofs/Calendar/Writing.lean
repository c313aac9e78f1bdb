import TableDiff.Calendar.Layout
import TableDiff.Proofs.Number.Padding

/-!
# What layouts write

A layout can be read the other way: each part writes its number, its mark or a blank. What a layout
writes it reads again, provided that each part has its end before the next one. The texts of dates,
instants and times of day are what the first of their layouts write. A leap second within a minute
has the text of the second after it, and is read as that.
-/

namespace TableDiff

open Number (paddedDigits paddedDigits_ne_nil)

/-! ## Blanks -/

namespace Text

theorem isBlank_of_isDigit {c : Char} (h : c.isDigit = true) : isBlank c = false := by
  have hcode : 48 ≤ c.toNat ∧ c.toNat ≤ 57 := by
    simp only [Char.isDigit, Bool.and_eq_true, decide_eq_true_eq] at h
    exact h
  unfold isBlank
  simp
  omega

end Text

/-! ## Fractions of a second -/

namespace TimeOfDay

/-- The digits behind the point: three, six or nine. -/
def fractionDigits (n : Nat) : List Char :=
  if n % 1000000 = 0 then paddedDigits 3 (n / 1000000)
  else if n % 1000 = 0 then paddedDigits 6 (n / 1000)
  else paddedDigits 9 n

theorem fractionText_eq (t : TimeOfDay) :
    t.fractionText = if t.nanosecond % nanosPerSecond = 0 then []
      else '.' :: fractionDigits (t.nanosecond % nanosPerSecond) := by
  unfold fractionText fractionDigits
  dsimp only
  split
  · rfl
  · split
    · rfl
    · split <;> rfl

/-- Zeros fill the digits up to all nine of them. -/
theorem exists_fractionDigits_append (n : Nat) :
    ∃ k, fractionDigits n ++ List.replicate k '0' = paddedDigits 9 n := by
  unfold fractionDigits
  simp only [Number.paddedDigits_eq]
  split
  · rename_i hmillis
    have hn : n / 1000000 * 10 ^ 6 = n := by omega
    refine ⟨6, ?_⟩
    rw [← Number.padded_mul_pow (by omega) (by omega), hn]
  · split
    · rename_i hmicros
      have hn : n / 1000 * 10 ^ 3 = n := by omega
      refine ⟨3, ?_⟩
      rw [← Number.padded_mul_pow (by omega) (by omega), hn]
    · exact ⟨0, List.append_nil _⟩

theorem isDigit_of_mem_fractionDigits {n : Nat} {c : Char} (h : c ∈ fractionDigits n) :
    c.isDigit = true := by
  obtain ⟨k, hk⟩ := exists_fractionDigits_append n
  exact Number.isDigit_of_mem_paddedDigits (hk ▸ List.mem_append_left _ h)

theorem fractionDigits_ne_nil (n : Nat) : fractionDigits n ≠ [] := by
  unfold fractionDigits
  split
  · exact paddedDigits_ne_nil _ _
  · split
    · exact paddedDigits_ne_nil _ _
    · exact paddedDigits_ne_nil _ _

/-- The digits that are not written are zeros. -/
theorem ofDigits_fractionDigits {n : Nat} (hn : n < 1000000000) :
    (fractionDigits n).length ≤ 9 ∧
      Number.ofDigits (fractionDigits n) * Number.tenPow (9 - (fractionDigits n).length) = n := by
  -- With the zeros there are nine digits, so the power of ten counts the zeros.
  obtain ⟨k, hk⟩ := exists_fractionDigits_append n
  have hnine : (paddedDigits 9 n).length = 9 := Number.length_padded (by decide) (by decide) hn
  have hlength : (fractionDigits n).length + k = 9 := by
    rw [← hnine, ← hk, List.length_append, List.length_replicate]
  have hzeros : 9 - (fractionDigits n).length = k := by omega
  refine ⟨by omega, ?_⟩
  rw [hzeros, ← Number.ofDigits_append_replicate_zero, hk, Number.ofDigits_paddedDigits]

end TimeOfDay

namespace Layout

open Text (isBlank isBlank_of_isDigit trimStart trimStart_of_head)
open TimeOfDay (fractionDigits fractionDigits_ne_nil isDigit_of_mem_fractionDigits
  ofDigits_fractionDigits)

/-! ## Parts -/

/-- What a part writes of the numbers. -/
def Item.write (f : Fields) : Item → List Char
  | .year => Date.yearText f.year
  | .month => paddedDigits 2 f.month
  | .day => paddedDigits 2 f.day
  | .hour => paddedDigits 2 f.hour
  | .minute => paddedDigits 2 f.minute
  | .second => paddedDigits 2 f.second
  | .fraction => if f.nanosecond = 0 then [] else '.' :: fractionDigits f.nanosecond
  | .blanks => [' ']
  | .mark c => [c]

/-- The numbers `g` with that of a part taken from `f`. -/
def Item.store (f g : Fields) : Item → Fields
  | .year => { g with year := f.year }
  | .month => { g with month := f.month }
  | .day => { g with day := f.day }
  | .hour => { g with hour := f.hour }
  | .minute => { g with minute := f.minute }
  | .second => { g with second := f.second }
  | .fraction => { g with nanosecond := f.nanosecond }
  | .blanks => g
  | .mark _ => g

/-- Numbers of two digits, and a fraction of a second. -/
structure Fields.Fits (f : Fields) : Prop where
  month : f.month < 100
  day : f.day < 100
  hour : f.hour < 100
  minute : f.minute < 100
  second : f.second < 100
  nanosecond : f.nanosecond < 1000000000

/-- Whether a part has its end where `rest` begins. A year goes on with digits, a fraction with
digits or with its point, and blanks go on with blanks. -/
def Item.EndsBefore (rest : List Char) : Item → Prop
  | .year => ∀ c ∈ rest.head?, c.isDigit = false
  | .fraction => ∀ c ∈ rest.head?, c.isDigit = false ∧ c ≠ '.'
  | .blanks => ∀ c ∈ rest.head?, isBlank c = false
  | _ => True

variable {f g : Fields} {item : Item} {items : List Item} {ds rest : List Char} {n width : Nat}

/-! ### Digits -/

theorem takeWhile_append_of_head {p : Char → Bool} (hds : ∀ c ∈ ds, p c = true)
    (hrest : ∀ c ∈ rest.head?, p c = false) : (ds ++ rest).takeWhile p = ds := by
  rw [List.takeWhile_append_of_pos hds]
  cases rest with
  | nil => simp
  | cons c rest => simp [hrest c rfl]

theorem dropWhile_append_of_head {p : Char → Bool} (hds : ∀ c ∈ ds, p c = true)
    (hrest : ∀ c ∈ rest.head?, p c = false) : (ds ++ rest).dropWhile p = rest := by
  rw [List.dropWhile_append_of_pos hds]
  cases rest with
  | nil => simp
  | cons c rest => simp [hrest c rfl]

/-- As many digits as are asked for are read, whatever follows. -/
theorem digits?_of_length (hds : ∀ c ∈ ds, c.isDigit = true) (hlength : ds.length = width)
    (hne : ds ≠ []) : digits? width (ds ++ rest) = some (Number.ofDigits ds, rest) := by
  have hread : ((ds ++ rest).take width).takeWhile Char.isDigit = ds := by
    rw [← hlength, List.take_left, List.takeWhile_eq_self_iff.mpr hds]
  unfold digits?
  dsimp only
  rw [hread, if_neg hne, List.drop_left]

theorem takeWhile_take_append {p : Char → Bool} (hds : ∀ c ∈ ds, p c = true)
    (hlength : ds.length ≤ width) (hrest : ∀ c ∈ rest.head?, p c = false) :
    ((ds ++ rest).take width).takeWhile p = ds := by
  have htail : ∀ c ∈ (rest.take (width - ds.length)).head?, p c = false := by
    intro c hc
    rw [List.head?_take] at hc
    split at hc
    · cases hc
    · exact hrest c hc
  rw [List.take_append, List.take_of_length_le hlength, takeWhile_append_of_head hds htail]

/-- Fewer digits are read up to a character that is none. -/
theorem digits?_of_head (hds : ∀ c ∈ ds, c.isDigit = true) (hlength : ds.length ≤ width)
    (hne : ds ≠ []) (hrest : ∀ c ∈ rest.head?, c.isDigit = false) :
    digits? width (ds ++ rest) = some (Number.ofDigits ds, rest) := by
  unfold digits?
  dsimp only
  rw [takeWhile_take_append hds hlength hrest, if_neg hne, List.drop_left]

theorem isDigit_head (hds : ∀ c ∈ ds, c.isDigit = true) (hne : ds ≠ []) :
    ∀ c ∈ (ds ++ rest).head?, c.isDigit = true := by
  obtain ⟨d, ds, rfl⟩ := List.exists_cons_of_ne_nil hne
  rintro c hc
  obtain rfl : d = c := Option.some.inj hc
  exact hds d List.mem_cons_self

theorem isBlank_head_paddedDigits (width n : Nat) :
    ∀ c ∈ (paddedDigits width n ++ rest).head?, isBlank c = false := fun c hc =>
  isBlank_of_isDigit (isDigit_head (fun _ => Number.isDigit_of_mem_paddedDigits)
    (paddedDigits_ne_nil width n) c hc)

theorem digits?_paddedDigits (hwidth : 0 < width) (hn : n < 10 ^ width) :
    digits? width (paddedDigits width n ++ rest) = some (n, rest) := by
  have hlength : (paddedDigits width n).length = width :=
    Number.length_padded (by decide) hwidth hn
  rw [digits?_of_length (fun _ => Number.isDigit_of_mem_paddedDigits) hlength
    (paddedDigits_ne_nil width n), Number.ofDigits_paddedDigits]

theorem number?_paddedDigits (hn : n < 100) :
    number? (paddedDigits 2 n ++ rest) = some (n, rest) := by
  unfold number?
  rw [trimStart_of_head (isBlank_head_paddedDigits 2 n)]
  exact digits?_paddedDigits (by decide) (by omega)

/-- Behind a sign a year has all its digits. -/
theorem digits?_signed (hrest : ∀ c ∈ rest.head?, c.isDigit = false) :
    digits? (paddedDigits width n ++ rest).length (paddedDigits width n ++ rest) =
      some (n, rest) := by
  rw [digits?_of_head (fun _ => Number.isDigit_of_mem_paddedDigits) (by simp)
    (paddedDigits_ne_nil width n) hrest, Number.ofDigits_paddedDigits]

theorem year?_yearText (year : Int) (hrest : ∀ c ∈ rest.head?, c.isDigit = false) :
    year? (Date.yearText year ++ rest) = some (year, rest) := by
  unfold Date.yearText
  split
  · -- Four digits without a sign.
    rename_i hyear
    have hhead : ∀ c ∈ (paddedDigits 4 year.natAbs ++ rest).head?, c.isDigit = true :=
      isDigit_head (fun _ => Number.isDigit_of_mem_paddedDigits) (paddedDigits_ne_nil 4 _)
    unfold year?
    rw [trimStart_of_head (isBlank_head_paddedDigits 4 _)]
    split
    · rename_i hsign
      rw [hsign] at hhead
      exact absurd (hhead '-' rfl) (by decide)
    · rename_i hsign
      rw [hsign] at hhead
      exact absurd (hhead '+' rfl) (by decide)
    · rw [digits?_paddedDigits (by decide) (by omega)]
      have hvalue : (year.natAbs : Int) = year := by omega
      exact congrArg (fun y => some (y, rest)) hvalue
  · -- A sign, behind which all digits are read.
    rename_i hyear
    rw [List.cons_append]
    split
    · rename_i hnegative
      have hvalue : -(year.natAbs : Int) = year := by omega
      show (digits? _ _).map _ = _
      rw [digits?_signed hrest]
      exact congrArg (fun y => some (y, rest)) hvalue
    · rename_i hpositive
      have hvalue : (year.natAbs : Int) = year := by omega
      show (digits? _ _).map _ = _
      rw [digits?_signed hrest]
      exact congrArg (fun y => some (y, rest)) hvalue

/-! ### Fractions -/

/-- A fraction of zero is not written, and without a point there is none. -/
theorem fraction?_of_head (hrest : ∀ c ∈ rest.head?, c.isDigit = false ∧ c ≠ '.') :
    fraction? rest = some (0, rest) := by
  unfold fraction?
  split
  · exact absurd rfl (hrest '.' rfl).2
  · rfl

theorem fraction?_fractionDigits (hn : n < 1000000000)
    (hrest : ∀ c ∈ rest.head?, c.isDigit = false ∧ c ≠ '.') :
    fraction? ((if n = 0 then [] else '.' :: fractionDigits n) ++ rest) =
      some (n, rest) := by
  split
  · rename_i hzero
    rw [hzero]
    exact fraction?_of_head hrest
  · have hdigit : ∀ c ∈ rest.head?, c.isDigit = false := fun c hc => (hrest c hc).1
    have hds : ∀ c ∈ fractionDigits n, c.isDigit = true := fun _ =>
      isDigit_of_mem_fractionDigits
    obtain ⟨hlength, hvalue⟩ := ofDigits_fractionDigits hn
    unfold fraction?
    simp only [List.cons_append, takeWhile_take_append hds hlength hdigit,
      if_neg (fractionDigits_ne_nil n), hvalue, dropWhile_append_of_head hds hdigit]

/-! ### What is written is read -/

/-- A part reads what it has written, if it has its end there. -/
theorem Item.read?_write (hf : f.Fits) (hrest : item.EndsBefore rest) :
    item.read? g (item.write f ++ rest) = some (item.store f g, rest) := by
  cases item with
  | year => exact congrArg (Option.map _) (year?_yearText f.year hrest)
  | month => exact congrArg (Option.map _) (number?_paddedDigits hf.month)
  | day => exact congrArg (Option.map _) (number?_paddedDigits hf.day)
  | hour => exact congrArg (Option.map _) (number?_paddedDigits hf.hour)
  | minute => exact congrArg (Option.map _) (number?_paddedDigits hf.minute)
  | second => exact congrArg (Option.map _) (number?_paddedDigits hf.second)
  | fraction => exact congrArg (Option.map _) (fraction?_fractionDigits hf.nanosecond hrest)
  | blanks => exact congrArg (fun cs => some (g, cs)) (trimStart_of_head hrest)
  | mark c => exact if_pos rfl

/-! ## Layouts -/

/-- What a layout writes of the numbers. -/
def write (items : List Item) (f : Fields) : List Char := items.flatMap (Item.write f)

theorem write_cons (item : Item) (items : List Item) (f : Fields) :
    write (item :: items) f = item.write f ++ write items f := List.flatMap_cons

theorem write_append (items more : List Item) (f : Fields) :
    write (items ++ more) f = write items f ++ write more f := List.flatMap_append

/-- Whether a part has its end where the next one begins. -/
def Item.endsAt : Item → Item → Bool
  | .year, .mark c => !c.isDigit
  | .fraction, .mark c => !c.isDigit && c != '.'
  | .blanks, .mark c => !isBlank c
  | .year, .blanks | .fraction, .blanks => true
  | .year, _ | .fraction, _ | .blanks, .blanks | .blanks, .fraction => false
  | _, _ => true

theorem Item.endsBefore_nil (item : Item) : item.EndsBefore [] := by
  cases item <;> simp [EndsBefore]

theorem isBlank_head_yearText (year : Int) :
    ∀ c ∈ (Date.yearText year ++ rest).head?, isBlank c = false := by
  unfold Date.yearText
  split
  · exact isBlank_head_paddedDigits _ _
  · split
    · simp
      decide
    · simp
      decide

theorem Item.endsBefore_write {next : Item} (h : item.endsAt next = true) (f : Fields)
    (rest : List Char) : item.EndsBefore (next.write f ++ rest) := by
  have hmark {c d : Char} (hd : d ∈ ((Item.mark c).write f ++ rest).head?) : d = c :=
    (Option.some.inj hd).symm
  have hblank {d : Char} (hd : d ∈ (Item.blanks.write f ++ rest).head?) : d = ' ' :=
    (Option.some.inj hd).symm
  cases item with
  | year =>
    cases next with
    | mark c => exact fun d hd => hmark hd ▸ (Bool.not_eq_true' _).mp h
    | blanks => exact fun d hd => hblank hd ▸ rfl
    | _ => cases h
  | fraction =>
    cases next with
    | mark c =>
      have hc : (!c.isDigit && c != '.') = true := h
      rw [Bool.and_eq_true, Bool.not_eq_true', bne_iff_ne] at hc
      exact fun d hd => hmark hd ▸ hc
    | blanks => exact fun d hd => hblank hd ▸ ⟨rfl, by decide⟩
    | _ => cases h
  | blanks =>
    cases next with
    | mark c => exact fun d hd => hmark hd ▸ (Bool.not_eq_true' _).mp h
    | year => exact isBlank_head_yearText f.year
    | blanks => cases h
    | fraction => cases h
    | _ => exact isBlank_head_paddedDigits 2 _
  | _ => trivial

theorem read?_cons {item : Item} {g : Fields} {cs rest : List Char}
    (h : item.read? f cs = some (g, rest)) : read? (item :: items) f cs = read? items g rest := by
  simp only [read?, h]

/-- What a layout writes it reads again, if each of its parts has its end before the next one and
the last one before what follows. There the parts behind the layout go on. -/
theorem read?_write_append {more : List Item}
    (hitems : items.IsChain fun item next => item.endsAt next = true)
    (hlast : ∀ item ∈ items.getLast?, item.EndsBefore rest) (hf : f.Fits) (g : Fields) :
    read? (items ++ more) g (write items f ++ rest) =
      read? more (items.foldl (fun g item => item.store f g) g) rest := by
  -- On the layout: what a part leaves of the text is what the parts behind it write.
  induction items generalizing g with
  | nil => rfl
  | cons item items ih =>
    have hrest : item.EndsBefore (write items f ++ rest) := by
      cases items with
      | nil => exact hlast item rfl
      | cons next items =>
        rw [write_cons, List.append_assoc]
        exact Item.endsBefore_write (List.isChain_cons_cons.mp hitems).1 f _
    have htail : ∀ last ∈ items.getLast?, last.EndsBefore rest := by
      intro last hmem
      apply hlast
      rw [List.getLast?_cons, Option.mem_some_iff, Option.mem_def.mp hmem]
      rfl
    rw [write_cons, List.append_assoc, List.cons_append, read?_cons (Item.read?_write hf hrest)]
    exact ih hitems.tail htail _

theorem read?_write (hitems : items.IsChain fun item next => item.endsAt next = true)
    (hf : f.Fits) (g : Fields) :
    read? items g (write items f) = some (items.foldl (fun g item => item.store f g) g) := by
  have hwhole : read? (items ++ []) g (write items f ++ []) = _ :=
    read?_write_append hitems (fun item _ => item.endsBefore_nil) hf g
  rwa [List.append_nil, List.append_nil] at hwhole

/-- The first layout of a list reads what it writes. -/
theorem readBy?_write {α : Type} {make? : Fields → Option α} {a : α}
    {layouts : List (List Item)} (hitems : items.IsChain fun item next => item.endsAt next = true)
    (hf : f.Fits) (hmake : make? (items.foldl (fun g item => item.store f g) .initial) = some a) :
    readBy? (items :: layouts) make? (write items f) = some a := by
  unfold readBy?
  rw [List.findSome?_cons, read?_write hitems hf, Option.bind_some, hmake]

end Layout

/-! ## Dates and times -/

theorem daysInMonth_bounds (year : Int) (month : Nat) :
    28 ≤ daysInMonth year month ∧ daysInMonth year month ≤ 31 := by
  unfold daysInMonth
  split
  · split <;> omega
  · split <;> omega

theorem isDay_iff {year : Int} {month day : Nat} :
    isDay year month day = true ↔
      (-262143 ≤ year ∧ year ≤ 262142) ∧ (1 ≤ month ∧ month ≤ 12) ∧
        1 ≤ day ∧ day ≤ daysInMonth year month := by
  simp only [isDay, Bool.and_eq_true, decide_eq_true_eq]
  omega

/-- The numbers of a date and a time of day. -/
def Layout.Fields.of (d : Date) (t : TimeOfDay) : Layout.Fields :=
  ⟨d.year, d.month, d.day, t.hour, t.minute, t.second, t.nanosecond % nanosPerSecond⟩

theorem Layout.Fields.fits_of (d : Date) (t : TimeOfDay) : (Layout.Fields.of d t).Fits := by
  have hmonth := (daysInMonth_bounds d.year d.month).2
  have hday := isDay_iff.mp d.valid
  have htime := t.secondOfDay_lt
  have hnanos := t.nanosecond_lt
  constructor <;>
    simp only [of, TimeOfDay.hour, TimeOfDay.minute, TimeOfDay.second, nanosPerSecond] <;>
    omega

namespace TimeOfDay

/-- A leap second is only counted in the last second of a minute. -/
def LeapsLast (t : TimeOfDay) : Prop :=
  nanosPerSecond ≤ t.nanosecond → t.secondOfDay % 60 = 59

instance (t : TimeOfDay) : Decidable t.LeapsLast :=
  inferInstanceAs (Decidable (_ → _))

/-- The time that the text of a time denotes. A leap second within a minute shows as the second
after it. -/
def shown (t : TimeOfDay) : TimeOfDay :=
  if h : nanosPerSecond ≤ t.nanosecond ∧ t.secondOfDay % 60 ≠ 59 then
    ⟨t.secondOfDay + 1, t.nanosecond - nanosPerSecond, by have := t.secondOfDay_lt; omega,
      by have := t.nanosecond_lt; omega⟩
  else t

theorem shown_of_leapsLast {t : TimeOfDay} (h : t.LeapsLast) : t.shown = t :=
  dif_neg fun hleap => hleap.2 (h hleap.1)

theorem shown_of_not_leapsLast {t : TimeOfDay} (h : ¬ t.LeapsLast) :
    ∃ hsecond hnanos,
      t.shown = ⟨t.secondOfDay + 1, t.nanosecond - nanosPerSecond, hsecond, hnanos⟩ :=
  ⟨_, _, dif_pos (Classical.not_imp.mp h)⟩

theorem shown_eq_self_iff {t : TimeOfDay} : t.shown = t ↔ t.LeapsLast := by
  refine ⟨fun heq => ?_, shown_of_leapsLast⟩
  by_contra h
  obtain ⟨_, _, hshown⟩ := shown_of_not_leapsLast h
  have hsecond : t.secondOfDay = t.secondOfDay + 1 := congrArg secondOfDay (heq.symm.trans hshown)
  omega

/-- The numbers that a text has of a time are those of the time that it shows. -/
theorem ofParts?_parts (t : TimeOfDay) :
    ofParts? t.hour t.minute t.second (t.nanosecond % nanosPerSecond) = some t.shown := by
  obtain ⟨seconds, nanos, hseconds, hnanos⟩ := t
  by_cases hleaps : LeapsLast ⟨seconds, nanos, hseconds, hnanos⟩
  · rw [shown_of_leapsLast hleaps]
    have hlast : 1000000000 ≤ nanos → seconds % 60 = 59 := hleaps
    unfold ofParts? hour minute second nanosPerSecond
    dsimp only
    rw [dif_pos (by omega)]
    -- The second shows as the sixtieth in a leap second and in no other one.
    split
    · simp
      omega
    · simp
      omega
  · have hlast : 1000000000 ≤ nanos ∧ seconds % 60 ≠ 59 := Classical.not_imp.mp hleaps
    obtain ⟨_, _, hshown⟩ := shown_of_not_leapsLast hleaps
    rw [hshown]
    unfold ofParts? hour minute second nanosPerSecond
    dsimp only
    rw [dif_pos (by omega), dif_neg (by omega)]
    refine congrArg some (TimeOfDay.ext ?_ ?_)
    · dsimp only
      omega
    · show nanos % 1000000000 = nanos - 1000000000
      omega

end TimeOfDay

/-- The instant that the text of an instant denotes. -/
def DateTime.shown (d : DateTime) : DateTime := ⟨d.date, d.time.shown⟩

theorem DateTime.shown_eq_self_iff {d : DateTime} : d.shown = d ↔ d.time.LeapsLast := by
  rw [← TimeOfDay.shown_eq_self_iff]
  exact ⟨fun h => congrArg DateTime.time h, fun h => congrArg (DateTime.mk d.date) h⟩

theorem Date.text_eq_write (d : Date) (t : TimeOfDay) :
    d.text = Layout.write (Layout.yearMonthDay '-') (.of d t) := by
  simp [text, Layout.write, Layout.yearMonthDay, Layout.Item.write, Layout.Fields.of]

theorem TimeOfDay.text_eq_write (d : Date) (t : TimeOfDay) :
    t.text = Layout.write (Layout.hourMinuteSecond ++ [.fraction]) (.of d t) := by
  simp [text, fractionText_eq, Layout.write, Layout.hourMinuteSecond, Layout.hourMinute,
    Layout.Item.write, Layout.Fields.of]

theorem DateTime.text_eq_write (d : DateTime) :
    d.text = Layout.write (Layout.yearMonthDay '-' ++ .blanks :: Layout.hourMinuteSecond ++
      [.fraction]) (.of d.date d.time) := by
  show _ = Layout.write (Layout.yearMonthDay '-' ++
    .blanks :: (Layout.hourMinuteSecond ++ [.fraction])) _
  rw [text, Date.text_eq_write d.date d.time, TimeOfDay.text_eq_write d.date d.time]
  exact (Layout.write_append _ (.blanks :: _) _).symm

theorem Date.read?_text (d : Date) : Date.read? d.text = some d := by
  rw [text_eq_write d .midnight]
  exact Layout.readBy?_write (by decide) (Layout.Fields.fits_of _ _) d.ofParts?_parts

theorem TimeOfDay.read?_text (t : TimeOfDay) : TimeOfDay.read? t.text = some t.shown := by
  rw [text_eq_write .epoch t]
  exact Layout.readBy?_write (by decide) (Layout.Fields.fits_of _ _) t.ofParts?_parts

/-- Beside a time of day a date makes an instant. -/
theorem Layout.Fields.dateTime?_of_time? {f : Layout.Fields} {t : TimeOfDay}
    (htime : f.time? = some t) : f.dateTime? = f.date?.map fun d => ⟨d, t⟩ := by
  unfold dateTime?
  rw [htime]
  cases f.date? with
  | none => rfl
  | some d => rfl

theorem Layout.Fields.dateTime?_of (d : DateTime) :
    (Layout.Fields.of d.date d.time).dateTime? = some d.shown := by
  have hdate : (Layout.Fields.of d.date d.time).date? = some d.date := d.date.ofParts?_parts
  have htime : (Layout.Fields.of d.date d.time).time? = some d.time.shown := d.time.ofParts?_parts
  rw [dateTime?_of_time? htime, hdate]
  rfl

theorem DateTime.read?_text (d : DateTime) : DateTime.read? d.text = some d.shown := by
  rw [text_eq_write d]
  exact Layout.readBy?_write (by decide) (Layout.Fields.fits_of _ _) (Layout.Fields.dateTime?_of d)

end TableDiff
