import TableDiff.Proofs.Calendar.Layout
import TableDiff.Proofs.Calendar.Writing

/-!
# Layouts tried in turn

Of a list of layouts the first that reads a text decides, so a layout is shadowed where one before
it reads what it writes. Whether a layout reads a text does not depend on the digits: with zeros for
all of them the text is read or not as before. What a layout writes without a fraction has the same
zeros for all dates and times, and so two layouts need to be compared on one text only.
-/

namespace TableDiff

namespace Layout

open Number (paddedDigits)
open Text (isBlank trimStart)

/-! ## Zeros for digits -/

def zeroDigit (c : Char) : Char := if c.isDigit then '0' else c

/-- A text with zeros for its digits. -/
def zeroed (cs : List Char) : List Char := cs.map zeroDigit

theorem isDigit_zeroDigit (c : Char) : (zeroDigit c).isDigit = c.isDigit := by
  unfold zeroDigit
  split
  · rename_i h
    rw [h]
    rfl
  · rfl

theorem isBlank_zeroDigit (c : Char) : isBlank (zeroDigit c) = isBlank c := by
  unfold zeroDigit
  split
  · rename_i h
    rw [Text.isBlank_of_isDigit h]
    rfl
  · rfl

theorem zeroDigit_eq_iff {c m : Char} (hm : m.isDigit = false) : zeroDigit c = m ↔ c = m := by
  unfold zeroDigit
  split
  · rename_i h
    have hzero : '0' ≠ m := by
      rintro rfl
      cases hm
    have hdigit : c ≠ m := by
      rintro rfl
      rw [h] at hm
      cases hm
    exact iff_of_false hzero hdigit
  · rfl

theorem takeWhile_isDigit_zeroed (cs : List Char) :
    (zeroed cs).takeWhile Char.isDigit = zeroed (cs.takeWhile Char.isDigit) := by
  unfold zeroed
  rw [List.takeWhile_map,
    show Char.isDigit ∘ zeroDigit = Char.isDigit from funext isDigit_zeroDigit]

theorem dropWhile_isDigit_zeroed (cs : List Char) :
    (zeroed cs).dropWhile Char.isDigit = zeroed (cs.dropWhile Char.isDigit) := by
  unfold zeroed
  rw [List.dropWhile_map,
    show Char.isDigit ∘ zeroDigit = Char.isDigit from funext isDigit_zeroDigit]

theorem trimStart_zeroed (cs : List Char) : trimStart (zeroed cs) = zeroed (trimStart cs) := by
  unfold trimStart zeroed
  rw [List.dropWhile_map, show isBlank ∘ zeroDigit = isBlank from funext isBlank_zeroDigit]

theorem zeroed_eq_nil_iff {cs : List Char} : zeroed cs = [] ↔ cs = [] := List.map_eq_nil_iff

/-- As many digits are read as before. -/
theorem digits?_zeroed (width : Nat) (cs : List Char) :
    (digits? width (zeroed cs)).map Prod.snd = ((digits? width cs).map Prod.snd).map zeroed := by
  have htake : (zeroed cs).take width = zeroed (cs.take width) := List.map_take.symm
  unfold digits?
  dsimp only
  rw [htake, takeWhile_isDigit_zeroed]
  by_cases hnone : (cs.take width).takeWhile Char.isDigit = []
  · rw [if_pos hnone, if_pos (zeroed_eq_nil_iff.mpr hnone)]
    rfl
  · rw [if_neg hnone, if_neg (fun h => hnone (zeroed_eq_nil_iff.mp h)), Option.map_some,
      Option.map_some, Option.map_some, zeroed, zeroed, List.length_map, ← List.map_drop]
    rfl

/-! ## Parts of a layout -/

variable {item : Item} {items : List Item} {f g : Fields} {cs : List Char}

/-- Where a number is stored does not matter for what is left of the text. -/
theorem map_snd_map {α β : Type} {o : Option (α × List Char)}
    {store : α × List Char → β × List Char} (hstore : ∀ p, (store p).2 = p.2) :
    (o.map store).map Prod.snd = o.map Prod.snd := by
  rw [Option.map_map, show Prod.snd ∘ store = Prod.snd from funext hstore]

theorem map_snd_zeroed {α β : Type} {o p : Option (α × List Char)}
    {store store' : α × List Char → β × List Char} (hstore : ∀ p, (store p).2 = p.2)
    (hstore' : ∀ p, (store' p).2 = p.2) (h : o.map Prod.snd = (p.map Prod.snd).map zeroed) :
    (o.map store).map Prod.snd = ((p.map store').map Prod.snd).map zeroed := by
  rw [map_snd_map hstore, map_snd_map hstore', h]

theorem number?_zeroed (cs : List Char) :
    (number? (zeroed cs)).map Prod.snd = ((number? cs).map Prod.snd).map zeroed := by
  unfold number?
  rw [trimStart_zeroed]
  exact digits?_zeroed 2 _

theorem map_snd_year?_of_unsigned (hminus : (trimStart cs).head? ≠ some '-')
    (hplus : (trimStart cs).head? ≠ some '+') :
    (year? cs).map Prod.snd = (digits? 4 (trimStart cs)).map Prod.snd := by
  unfold year?
  split
  · rename_i h
    rw [h] at hminus
    exact absurd rfl hminus
  · rename_i h
    rw [h] at hplus
    exact absurd rfl hplus
  · exact map_snd_map fun _ => rfl

theorem map_snd_year?_of_signed {sign : Char} {ds : List Char} (hsign : sign = '-' ∨ sign = '+')
    (h : trimStart cs = sign :: ds) :
    (year? cs).map Prod.snd = (digits? ds.length ds).map Prod.snd := by
  unfold year?
  rw [h]
  rcases hsign with rfl | rfl
  · exact map_snd_map fun _ => rfl
  · exact map_snd_map fun _ => rfl

theorem year?_zeroed (cs : List Char) :
    (year? (zeroed cs)).map Prod.snd = ((year? cs).map Prod.snd).map zeroed := by
  -- A sign lets the year have any number of digits, and zeros neither make a sign nor remove one.
  by_cases hsigned : ∃ sign ds, (sign = '-' ∨ sign = '+') ∧ trimStart cs = sign :: ds
  · obtain ⟨sign, ds, hsign, htrim⟩ := hsigned
    have hzero : zeroDigit sign = sign := by
      rcases hsign with rfl | rfl <;> rfl
    have hzeroed : trimStart (zeroed cs) = sign :: zeroed ds := by
      rw [trimStart_zeroed, htrim]
      exact congrArg (· :: zeroed ds) hzero
    rw [map_snd_year?_of_signed hsign htrim, map_snd_year?_of_signed hsign hzeroed, zeroed,
      List.length_map]
    exact digits?_zeroed _ _
  · have hunsigned : ∀ sign, sign = '-' ∨ sign = '+' → (trimStart cs).head? ≠ some sign := by
      intro sign hsign hhead
      obtain ⟨ds, htrim⟩ := List.head?_eq_some_iff.mp hhead
      exact hsigned ⟨sign, ds, hsign, htrim⟩
    have hzeroed : ∀ sign, sign = '-' ∨ sign = '+' → (trimStart (zeroed cs)).head? ≠ some sign := by
      intro sign hsign hhead
      rw [trimStart_zeroed, zeroed, List.head?_map, Option.map_eq_some_iff] at hhead
      obtain ⟨c, hc, hzero⟩ := hhead
      have hdigit : sign.isDigit = false := by
        rcases hsign with rfl | rfl <;> rfl
      exact hunsigned sign hsign ((zeroDigit_eq_iff hdigit).mp hzero ▸ hc)
    rw [map_snd_year?_of_unsigned (hunsigned _ (.inl rfl)) (hunsigned _ (.inr rfl)),
      map_snd_year?_of_unsigned (hzeroed _ (.inl rfl)) (hzeroed _ (.inr rfl)), trimStart_zeroed]
    exact digits?_zeroed 4 _

theorem fraction?_zeroed (cs : List Char) :
    (fraction? (zeroed cs)).map Prod.snd = ((fraction? cs).map Prod.snd).map zeroed := by
  cases cs with
  | nil => rfl
  | cons c rest =>
    by_cases hpoint : c = '.'
    · subst hpoint
      show (fraction? ('.' :: zeroed rest)).map Prod.snd = _
      have htake : (zeroed rest).take 9 = zeroed (rest.take 9) := List.map_take.symm
      simp only [fraction?, htake, takeWhile_isDigit_zeroed, dropWhile_isDigit_zeroed,
        zeroed_eq_nil_iff]
      split <;> rfl
    · have hnone : ∀ {c : Char} {rest : List Char}, c ≠ '.' →
          fraction? (c :: rest) = some (0, c :: rest) := by
        intro c rest hc
        unfold fraction?
        split
        · rename_i heq
          exact absurd (List.cons.inj heq).1 hc
        · rfl
      have hzero : zeroDigit c ≠ '.' := fun h => hpoint ((zeroDigit_eq_iff rfl).mp h)
      show (fraction? (zeroDigit c :: zeroed rest)).map Prod.snd = _
      rw [hnone hpoint, hnone hzero]
      rfl

/-- Whether a part is a mark that is a digit itself. -/
def Item.isDigitMark : Item → Bool
  | .mark c => c.isDigit
  | _ => false

/-- A part reads a text with zeros for its digits as far as the text itself. -/
theorem Item.read?_zeroed (hitem : item.isDigitMark = false) (f g : Fields) (cs : List Char) :
    (item.read? f (zeroed cs)).map Prod.snd = ((item.read? g cs).map Prod.snd).map zeroed := by
  cases item with
  | year => exact map_snd_zeroed (fun _ => rfl) (fun _ => rfl) (year?_zeroed cs)
  | month | day | hour | minute | second =>
    exact map_snd_zeroed (fun _ => rfl) (fun _ => rfl) (number?_zeroed cs)
  | fraction => exact map_snd_zeroed (fun _ => rfl) (fun _ => rfl) (fraction?_zeroed cs)
  | blanks => exact congrArg some (trimStart_zeroed cs)
  | mark m =>
    cases cs with
    | nil => rfl
    | cons c rest =>
      show ((Item.mark m).read? f (zeroDigit c :: zeroed rest)).map Prod.snd = _
      simp only [read?, zeroDigit_eq_iff hitem]
      split <;> rfl

/-! ## Layouts -/

/-- Whether a text is read does not depend on its digits. -/
theorem read?_zeroed_eq_none_iff (hitems : items.any Item.isDigitMark = false) (f g : Fields)
    (cs : List Char) : read? items f (zeroed cs) = none ↔ read? items g cs = none := by
  -- On the layout: each part leaves the same text, with zeros for its digits.
  induction items generalizing f g cs with
  | nil =>
    cases cs with
    | nil => exact iff_of_false nofun nofun
    | cons c rest => exact Iff.rfl
  | cons item items ih =>
    rw [List.any_cons, Bool.or_eq_false_iff] at hitems
    have hleft := Item.read?_zeroed hitems.1 f g cs
    cases hread : item.read? g cs with
    | none =>
      rw [hread, Option.map_none, Option.map_none, Option.map_eq_none_iff] at hleft
      simp only [read?, hread, hleft]
    | some p =>
      rw [hread, Option.map_some, Option.map_some, Option.map_eq_some_iff] at hleft
      obtain ⟨⟨f', rest⟩, hzeroed, rfl⟩ := hleft
      simp only [read?, hread, hzeroed]
      exact ih hitems.2 f' p.1 p.2

/-! ## Texts of dates and times with zeros -/

/-- Whether a part is always written with the same number of digits, for years of four. -/
def Item.isSteady : Item → Bool
  | .fraction => false
  | .mark c => !c.isDigit
  | _ => true

theorem zeroed_append (cs ds : List Char) : zeroed (cs ++ ds) = zeroed cs ++ zeroed ds :=
  List.map_append

theorem zeroed_paddedDigits {width n : Nat} (hwidth : 0 < width) (hn : n < 10 ^ width) :
    zeroed (paddedDigits width n) = paddedDigits width 0 := by
  have hzeros : ∀ k < 10 ^ width, zeroed (paddedDigits width k) = List.replicate width '0' := by
    intro k hk
    refine List.eq_replicate_iff.mpr ⟨?_, fun c hc => ?_⟩
    · exact (List.length_map _).trans (Number.length_padded (by decide) hwidth hk)
    · obtain ⟨d, hd, rfl⟩ := List.mem_map.mp hc
      exact if_pos (Number.isDigit_of_mem_paddedDigits hd)
  have hzero : paddedDigits width 0 = List.replicate width '0' := by
    obtain ⟨w, rfl⟩ := Nat.exists_eq_succ_of_ne_zero hwidth.ne'
    show List.replicate w '0' ++ ['0'] = _
    exact List.replicate_succ'.symm
  rw [hzeros n hn, hzero]

theorem Item.zeroed_write (hitem : item.isSteady = true) (hf : f.Fits)
    (hyear : 0 ≤ f.year ∧ f.year ≤ 9999) : zeroed (item.write f) = item.write .initial := by
  cases item with
  | year =>
    -- Of these years alone the text has neither a sign nor more than four digits.
    have htext : Date.yearText f.year = paddedDigits 4 f.year.natAbs := if_pos hyear
    show zeroed (Date.yearText f.year) = _
    rw [htext]
    exact zeroed_paddedDigits (by decide) (by omega)
  | month => exact zeroed_paddedDigits (by decide) hf.month
  | day => exact zeroed_paddedDigits (by decide) hf.day
  | hour => exact zeroed_paddedDigits (by decide) hf.hour
  | minute => exact zeroed_paddedDigits (by decide) hf.minute
  | second => exact zeroed_paddedDigits (by decide) hf.second
  | fraction => cases hitem
  | blanks => rfl
  | mark c =>
    exact congrArg (fun d => [d]) ((zeroDigit_eq_iff ((Bool.not_eq_true' _).mp hitem)).mpr rfl)

theorem zeroed_write (hitems : items.all Item.isSteady = true) (hf : f.Fits)
    (hyear : 0 ≤ f.year ∧ f.year ≤ 9999) : zeroed (write items f) = write items .initial := by
  induction items with
  | nil => rfl
  | cons item items ih =>
    rw [List.all_cons, Bool.and_eq_true] at hitems
    rw [write_cons, zeroed_append, Item.zeroed_write hitems.1 hf hyear, ih hitems.2, ← write_cons]

/-- A layout reads what another one writes for one date and time or for all of them. -/
theorem read?_write_eq_none_iff {earlier : List Item}
    (hearlier : earlier.any Item.isDigitMark = false) (hitems : items.all Item.isSteady = true)
    (hf : f.Fits) (hyear : 0 ≤ f.year ∧ f.year ≤ 9999) :
    read? earlier g (write items f) = none ↔
      read? earlier .initial (write items .initial) = none := by
  rw [← zeroed_write hitems hf hyear]
  exact (read?_zeroed_eq_none_iff hearlier _ _ _).symm

/-! ## The first layout that reads a text -/

variable {α : Type} {make? : Fields → Option α} {a : α} {before after : List (List Item)}

/-- Whether none of the layouts reads what another one writes of zeros. -/
def unreadBy (layouts : List (List Item)) (items : List Item) : Bool :=
  layouts.all fun earlier =>
    !earlier.any Item.isDigitMark && (read? earlier .initial (write items .initial)).isNone

theorem read?_write_eq_none (hunread : unreadBy before items = true)
    (hitems : items.all Item.isSteady = true) (hf : f.Fits) (hyear : 0 ≤ f.year ∧ f.year ≤ 9999)
    {earlier : List Item} (hearlier : earlier ∈ before) :
    read? earlier .initial (write items f) = none := by
  have hzeros := List.all_eq_true.mp hunread earlier hearlier
  rw [Bool.and_eq_true, Bool.not_eq_true', Option.isNone_iff_eq_none] at hzeros
  exact (read?_write_eq_none_iff hzeros.1 hitems hf hyear).mpr hzeros.2

/-- Layouts that make nothing of a text leave it to those behind them. -/
theorem readBy?_append_of_none
    (hbefore : ∀ earlier ∈ before, (read? earlier .initial cs).bind make? = none) :
    readBy? (before ++ after) make? cs = readBy? after make? cs := by
  unfold readBy?
  rw [List.findSome?_append, List.findSome?_eq_none_iff.mpr hbefore, Option.none_or]

theorem readBy?_of_read? (before : List (List Item))
    (hbefore : ∀ earlier ∈ before, (read? earlier .initial cs).bind make? = none)
    (hread : read? items .initial cs = some g) (hmake : make? g = some a) :
    readBy? (before ++ items :: after) make? cs = some a := by
  rw [readBy?_append_of_none hbefore]
  unfold readBy?
  rw [List.findSome?_cons, hread, Option.bind_some, hmake]

/-- A layout reads what it writes if none of those before it does. -/
theorem readBy?_write_of_unread (before : List (List Item))
    (hunread : unreadBy before items = true) (hsteady : items.all Item.isSteady = true)
    (hitems : items.IsChain fun item next => item.endsAt next = true) (hf : f.Fits)
    (hyear : 0 ≤ f.year ∧ f.year ≤ 9999)
    (hmake : make? (items.foldl (fun g item => item.store f g) .initial) = some a) :
    readBy? (before ++ items :: after) make? (write items f) = some a := by
  have hnone : ∀ earlier ∈ before,
      (read? earlier .initial (write items f)).bind make? = none := by
    intro earlier hearlier
    rw [read?_write_eq_none hunread hsteady hf hyear hearlier, Option.bind_none]
  exact readBy?_of_read? before hnone (read?_write hitems hf _) hmake

/-! ## Day and month -/

/-- The numbers with day and month exchanged. -/
def Fields.exchanged (f : Fields) : Fields := { f with month := f.day, day := f.month }

theorem Fields.Fits.exchanged (hf : f.Fits) : f.exchanged.Fits :=
  { hf with
    month := hf.day
    day := hf.month }

/-- A text with the month first is one with the day first and the two exchanged. -/
theorem write_monthDayYear (sep : Char) (f : Fields) :
    write (monthDayYear sep) f = write (dayMonthYear sep) f.exchanged := rfl

/-- Where both readings are tried, the one with the day first comes before the one with the month
first, unless it makes nothing. -/
theorem readBy?_write_monthDayYear (before : List (List Item)) {sep : Char} (tail : List Item)
    (hunread : unreadBy before (dayMonthYear sep ++ tail) = true)
    (hsteady : (dayMonthYear sep ++ tail).all Item.isSteady = true)
    (hday : (dayMonthYear sep ++ tail).IsChain fun item next => item.endsAt next = true)
    (hmonth : (monthDayYear sep ++ tail).IsChain fun item next => item.endsAt next = true)
    (htail : write tail f.exchanged = write tail f) (hf : f.Fits)
    (hyear : 0 ≤ f.year ∧ f.year ≤ 9999)
    (hmake : make? ((monthDayYear sep ++ tail).foldl (fun g item => item.store f g) .initial) =
      some a) :
    readBy? (before ++ (dayMonthYear sep ++ tail) :: (monthDayYear sep ++ tail) :: after) make?
      (write (monthDayYear sep ++ tail) f) =
        some ((make? ((dayMonthYear sep ++ tail).foldl
          (fun g item => item.store f.exchanged g) .initial)).getD a) := by
  have htext :
      write (monthDayYear sep ++ tail) f = write (dayMonthYear sep ++ tail) f.exchanged := by
    rw [write_append, write_append, write_monthDayYear, htail]
  have hread := read?_write hday hf.exchanged .initial
  rw [← htext] at hread
  rw [readBy?_append_of_none]
  · unfold readBy?
    rw [List.findSome?_cons, hread, Option.bind_some]
    -- The reading with the day first always ends well, but there may be no such date.
    cases make? _ with
    | some b => rfl
    | none => exact readBy?_write hmonth hf hmake
  · intro earlier hearlier
    rw [htext, read?_write_eq_none hunread hsteady hf.exchanged hyear hearlier, Option.bind_none]

/-! ## Fractions of a second -/

/-- The texts that stand for so many nanoseconds behind the seconds: none, or a point and digits, of
which the first nine count, with zeros for those that are missing. -/
inductive IsFraction : Nat → List Char → Prop where
  | none : IsFraction 0 []
  | digits {ds : List Char} (hne : ds ≠ []) (hds : ∀ c ∈ ds, c.isDigit = true) :
    IsFraction (Number.ofDigits ((ds ++ List.replicate 9 '0').take 9)) ('.' :: ds)

theorem fraction?_of_isFraction {n : Nat} {cs : List Char} (h : IsFraction n cs) :
    fraction? cs = some (n, []) := by
  cases h with
  | none => rfl
  | @digits ds hne hds =>
    have hfirst : (ds.take 9).takeWhile Char.isDigit = ds.take 9 :=
      List.takeWhile_eq_self_iff.mpr fun c hc => hds c (List.mem_of_mem_take hc)
    have hrest : ds.dropWhile Char.isDigit = [] := List.dropWhile_eq_nil_iff.mpr hds
    have hsome : ds.take 9 ≠ [] := by simpa using hne
    have hzeros : (ds ++ List.replicate 9 '0').take 9 =
        ds.take 9 ++ List.replicate (9 - (ds.take 9).length) '0' := by
      rw [List.take_append, List.take_replicate, List.length_take]
      congr 2
      omega
    simp only [fraction?, hfirst, if_neg hsome, hrest, hzeros,
      Number.ofDigits_append_replicate_zero]

theorem read?_write_fraction (hitems : items.IsChain fun item next => item.endsAt next = true)
    (hlast : ∀ item ∈ items.getLast?, item = .second) (hf : f.Fits) {n : Nat} {fraction : List Char}
    (h : IsFraction n fraction) :
    read? (items ++ [.fraction]) .initial (write items f ++ fraction) =
      some { items.foldl (fun g item => item.store f g) .initial with nanosecond := n } := by
  rw [read?_write_append hitems (fun item hmem => hlast item hmem ▸ trivial) hf]
  simp only [read?, Item.read?, fraction?_of_isFraction h]
  rfl

/-- A text with a character that no part reads is not read. -/
theorem read?_eq_none_of_mem {c : Char} (hc : c ∈ cs)
    (hitems : items.all (fun item => !item.admits c) = true) : read? items f cs = none := by
  cases hread : read? items f cs with
  | none => rfl
  | some g =>
    obtain ⟨item, hitem, hadmits⟩ := exists_admits_of_read? hread hc
    have hnot := List.all_eq_true.mp hitems item hitem
    rw [hadmits] at hnot
    cases hnot

end Layout

/-! ## Dates -/

open Layout (write yearMonthDay dayMonthYear monthDayYear hourMinute hourMinuteSecond IsFraction)

namespace Date

theorem isDay_exchanged (d : Date) (h : d.day ≤ 12) : isDay d.year d.day d.month = true := by
  have hmonth := (daysInMonth_bounds d.year d.day).1
  have hvalid := isDay_iff.mp d.valid
  rw [isDay_iff]
  omega

/-- The date with day and month exchanged, where the day may be the number of a month. -/
def exchanged (d : Date) : Date :=
  if h : d.day ≤ 12 then ⟨d.year, d.day, d.month, d.isDay_exchanged h⟩ else d

theorem ofParts?_exchanged (d : Date) : (ofParts? d.year d.day d.month).getD d = d.exchanged := by
  unfold ofParts? exchanged
  by_cases h : d.day ≤ 12
  · rw [dif_pos (d.isDay_exchanged h), dif_pos h]
    rfl
  · have hnone : ¬isDay d.year d.day d.month = true := by
      rw [isDay_iff]
      omega
    rw [dif_neg hnone, dif_neg h]
    rfl

variable {d : Date} (hyear : 0 ≤ d.year ∧ d.year ≤ 9999) (t : TimeOfDay)
include hyear

theorem read?_write_of_mem {layout : List Layout.Item}
    (hlayout : layout ∈ [yearMonthDay '-', dayMonthYear '/', yearMonthDay '/', dayMonthYear '-']) :
    read? (write layout (.of d t)) = some d := by
  have hfits := Layout.Fields.fits_of d t
  have hmake : ofParts? d.year d.month d.day = some d := d.ofParts?_parts
  simp only [List.mem_cons, List.not_mem_nil, or_false] at hlayout
  -- For each layout those before it are tried on zeros.
  rcases hlayout with rfl | rfl | rfl | rfl
  · exact Layout.readBy?_write (by decide) hfits hmake
  · exact Layout.readBy?_write_of_unread [yearMonthDay '-'] (by decide) (by decide)
      (by decide) hfits hyear hmake
  · exact Layout.readBy?_write_of_unread
      [yearMonthDay '-', dayMonthYear '/', monthDayYear '/'] (by decide) (by decide)
      (by decide) hfits hyear hmake
  · exact Layout.readBy?_write_of_unread
      [yearMonthDay '-', dayMonthYear '/', monthDayYear '/', yearMonthDay '/']
      (by decide) (by decide) (by decide) hfits hyear hmake

theorem read?_write_monthDayYear :
    read? (write (monthDayYear '/') (.of d t)) = some d.exchanged := by
  have hmake : ofParts? d.year d.month d.day = some d := d.ofParts?_parts
  have hfirst : read? (write (monthDayYear '/') (.of d t)) =
      some ((ofParts? d.year d.day d.month).getD d) :=
    Layout.readBy?_write_monthDayYear [yearMonthDay '-'] [] (by decide) (by decide) (by decide)
      (by decide) rfl (Layout.Fields.fits_of d t) hyear hmake
  rwa [d.ofParts?_exchanged] at hfirst

end Date

/-! ## Instants -/

namespace DateTime

variable {d : Date} {t : TimeOfDay}

/-- Year first, and the seconds with or without a fraction. -/
theorem read?_write_fraction {sep : Layout.Item} (hsep : sep ∈ [.blanks, .mark 'T'])
    {fraction : List Char} (hfraction : IsFraction (t.nanosecond % nanosPerSecond) fraction) :
    read? (write (yearMonthDay '-' ++ sep :: hourMinuteSecond) (.of d t) ++ fraction) =
      some ⟨d, t.shown⟩ := by
  have hfits := Layout.Fields.fits_of d t
  have hmake : (Layout.Fields.of d t).dateTime? = some ⟨d, t.shown⟩ :=
    Layout.Fields.dateTime?_of ⟨d, t⟩
  simp only [List.mem_cons, List.not_mem_nil, or_false] at hsep
  rcases hsep with rfl | rfl
  · have hread : Layout.read? (yearMonthDay '-' ++ .blanks :: hourMinuteSecond ++ [.fraction])
        .initial _ = some (.of d t) :=
      Layout.read?_write_fraction (by decide) (by decide) hfits hfraction
    exact Layout.readBy?_of_read? [] nofun hread hmake
  · have hread : Layout.read? (yearMonthDay '-' ++ .mark 'T' :: hourMinuteSecond ++ [.fraction])
        .initial _ = some (.of d t) :=
      Layout.read?_write_fraction (by decide) (by decide) hfits hfraction
    -- The layout with a blank reads no letter, whatever the fraction may be.
    have hletter : 'T' ∈ write (yearMonthDay '-' ++ .mark 'T' :: hourMinuteSecond) (.of d t) ++
        fraction := by
      rw [Layout.write_append, Layout.write_cons]
      simp [Layout.Item.write]
    refine Layout.readBy?_of_read?
      [yearMonthDay '-' ++ .blanks :: hourMinuteSecond ++ [.fraction]] ?_ hread hmake
    intro earlier hearlier
    rw [List.mem_singleton.mp hearlier, Layout.read?_eq_none_of_mem hletter (by decide),
      Option.bind_none]

/-- Year first, and the time without seconds. -/
theorem read?_write_minutes {sep : Layout.Item} (hsep : sep ∈ [.blanks, .mark 'T'])
    (hyear : 0 ≤ d.year ∧ d.year ≤ 9999) (hsecond : t.second = 0) (hnanos : t.nanosecond = 0) :
    read? (write (yearMonthDay '-' ++ sep :: hourMinute) (.of d t)) = some ⟨d, t⟩ := by
  have hfits := Layout.Fields.fits_of d t
  have hmake : Layout.Fields.dateTime? ⟨d.year, d.month, d.day, t.hour, t.minute, 0, 0⟩ =
      some ⟨d, t⟩ := by
    have hof := Layout.Fields.dateTime?_of ⟨d, t⟩
    have hleaps : t.LeapsLast := fun hleap => absurd (hnanos ▸ hleap) (by decide)
    unfold Layout.Fields.of DateTime.shown at hof
    rwa [hsecond, hnanos, TimeOfDay.shown_of_leapsLast hleaps] at hof
  simp only [List.mem_cons, List.not_mem_nil, or_false] at hsep
  rcases hsep with rfl | rfl
  · exact Layout.readBy?_write_of_unread (Layout.dateTimeLayouts.take 4) (by decide)
      (by decide) (by decide) hfits hyear hmake
  · exact Layout.readBy?_write_of_unread (Layout.dateTimeLayouts.take 5) (by decide)
      (by decide) (by decide) hfits hyear hmake

section WholeSeconds

variable (hyear : 0 ≤ d.year ∧ d.year ≤ 9999) (hnanos : t.nanosecond % nanosPerSecond = 0)
include hyear hnanos

theorem read?_write_dayMonthYear :
    read? (write (dayMonthYear '/' ++ .blanks :: hourMinuteSecond) (.of d t)) =
      some ⟨d, t.shown⟩ := by
  have hmake : Layout.Fields.dateTime? ⟨d.year, d.month, d.day, t.hour, t.minute, t.second, 0⟩ =
      some ⟨d, t.shown⟩ := by
    have hof := Layout.Fields.dateTime?_of ⟨d, t⟩
    unfold Layout.Fields.of at hof
    rwa [hnanos] at hof
  exact Layout.readBy?_write_of_unread (Layout.dateTimeLayouts.take 2) (by decide)
    (by decide) (by decide) (Layout.Fields.fits_of d t) hyear hmake

theorem read?_write_monthDayYear :
    read? (write (monthDayYear '/' ++ .blanks :: hourMinuteSecond) (.of d t)) =
      some ⟨d.exchanged, t.shown⟩ := by
  have htime : TimeOfDay.ofParts? t.hour t.minute t.second 0 = some t.shown := by
    rw [← hnanos]
    exact t.ofParts?_parts
  have hmake (month day : Nat) : Layout.Fields.dateTime?
      ⟨d.year, month, day, t.hour, t.minute, t.second, 0⟩ =
        (Date.ofParts? d.year month day).map fun d => ⟨d, t.shown⟩ :=
    Layout.Fields.dateTime?_of_time? htime
  have hmonth : Layout.Fields.dateTime? ⟨d.year, d.month, d.day, t.hour, t.minute, t.second, 0⟩ =
      some ⟨d, t.shown⟩ := by
    rw [hmake, d.ofParts?_parts]
    rfl
  have hfirst : read? (write (monthDayYear '/' ++ .blanks :: hourMinuteSecond) (.of d t)) =
      some ((Layout.Fields.dateTime? ⟨d.year, d.day, d.month, t.hour, t.minute, t.second, 0⟩).getD
        ⟨d, t.shown⟩) :=
    Layout.readBy?_write_monthDayYear (Layout.dateTimeLayouts.take 2) (.blanks :: hourMinuteSecond)
      (by decide) (by decide) (by decide) (by decide) rfl (Layout.Fields.fits_of d t) hyear hmonth
  rwa [hmake, Option.getD_map, d.ofParts?_exchanged] at hfirst

end WholeSeconds

end DateTime

/-! ## Dates and instants by their layouts -/

/-- Dates of four-digit years, and instants on them, are read as themselves in every layout with the
year or the day first. With the month first they are read as themselves if the day is beyond twelve,
and otherwise as if day and month were exchanged. A leap second within a minute, whose text is that
of the second after it, is read as that. -/
theorem Layout.not_shadowed (d : Date) (t : TimeOfDay) (hyear : 0 ≤ d.year ∧ d.year ≤ 9999) :
    (∀ layout ∈ [yearMonthDay '-', dayMonthYear '/', yearMonthDay '/', dayMonthYear '-'],
      Date.read? (write layout (.of d t)) = some d) ∧
    Date.read? (write (monthDayYear '/') (.of d t)) = some d.exchanged ∧
    (∀ sep ∈ [.blanks, .mark 'T'],
      (∀ fraction, IsFraction (t.nanosecond % nanosPerSecond) fraction →
        DateTime.read? (write (yearMonthDay '-' ++ sep :: hourMinuteSecond) (.of d t) ++ fraction) =
          some ⟨d, t.shown⟩) ∧
      (t.second = 0 → t.nanosecond = 0 →
        DateTime.read? (write (yearMonthDay '-' ++ sep :: hourMinute) (.of d t)) = some ⟨d, t⟩)) ∧
    (t.nanosecond % nanosPerSecond = 0 →
      DateTime.read? (write (dayMonthYear '/' ++ .blanks :: hourMinuteSecond) (.of d t)) =
        some ⟨d, t.shown⟩ ∧
      DateTime.read? (write (monthDayYear '/' ++ .blanks :: hourMinuteSecond) (.of d t)) =
        some ⟨d.exchanged, t.shown⟩) ∧
    (t.shown = t ↔ t.LeapsLast) := by
  refine ⟨fun layout hlayout => Date.read?_write_of_mem hyear t hlayout,
    Date.read?_write_monthDayYear hyear t, fun sep hsep => ⟨fun fraction hfraction => ?_,
      fun hsecond hnanos => ?_⟩, fun hnanos => ⟨?_, ?_⟩, TimeOfDay.shown_eq_self_iff⟩
  · exact DateTime.read?_write_fraction hsep hfraction
  · exact DateTime.read?_write_minutes hsep hyear hsecond hnanos
  · exact DateTime.read?_write_dayMonthYear hyear hnanos
  · exact DateTime.read?_write_monthDayYear hyear hnanos

/-- The second of December of the year 7. -/
def Date.earlyDecember : Date := ⟨7, 12, 2, by decide⟩

/-- The leap second before noon. -/
def TimeOfDay.leapSecond : TimeOfDay := ⟨43199, 1000000000, by decide, by decide⟩

/-- The second of December is taken for the twelfth of February where the month comes first. -/
theorem Layout.not_shadowed_exchange :
    (0 ≤ Date.earlyDecember.year ∧ Date.earlyDecember.year ≤ 9999) ∧
    Date.read? "02-12-0007".toList = some .earlyDecember ∧
    Date.read? "12/02/0007".toList = some ⟨7, 2, 12, by decide⟩ ∧
    DateTime.read? "0007-12-02T11:59:60.0000000000".toList = some ⟨.earlyDecember, .leapSecond⟩ ∧
    DateTime.read? "12/02/0007 11:59:60".toList = some ⟨⟨7, 2, 12, by decide⟩, .leapSecond⟩ := by
  have hyear : 0 ≤ Date.earlyDecember.year ∧ Date.earlyDecember.year ≤ 9999 := by decide
  obtain ⟨hdates, hmonthFirst, hinstants, hwhole, -⟩ :=
    Layout.not_shadowed .earlyDecember .leapSecond hyear
  have hdigit : ∀ c ∈ List.replicate 10 '0', c.isDigit = true := fun c hc =>
    List.eq_of_mem_replicate hc ▸ rfl
  have hfraction : IsFraction 0 ('.' :: List.replicate 10 '0') := .digits (by decide) hdigit
  have hdayFirst := hdates (dayMonthYear '-') (by decide)
  have hletter := (hinstants (.mark 'T') (by decide)).1 _ hfraction
  have hslashes := (hwhole (by decide)).2
  exact ⟨hyear, hdayFirst, hmonthFirst, hletter, hslashes⟩

end TableDiff
