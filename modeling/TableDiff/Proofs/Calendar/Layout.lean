import Mathlib.Data.List.TakeWhile
import TableDiff.Calendar.Layout

/-!
# The texts that layouts read

Each part of a layout reads characters of its own from the start of a text, and a whole layout
leaves nothing over. So every character of a text that is read as a date or time is one that some
part reads, every mark of the layout stands in the text, and the first mark follows a number.
-/

namespace TableDiff.Layout

open Text (isBlank trimStart)

/-! ## Parts -/

/-- The characters that a part may read. -/
def Item.admits : Item → Char → Bool
  | .year, c => isBlank c || c.isDigit || c == '-' || c == '+'
  | .fraction, c => c.isDigit || c == '.'
  | .blanks, c => isBlank c
  | .mark m, c => c == m
  | _, c => isBlank c || c.isDigit

/-- The parts that read a number. -/
def Item.isNumber : Item → Bool
  | .fraction | .blanks | .mark _ => false
  | _ => true

/-- Where a number is stored does not matter for what is left of the text. -/
theorem exists_of_map_eq_some {α β : Type} {o : Option (α × List Char)}
    {store : α × List Char → β × List Char} {b : β} {rest : List Char}
    (h : o.map store = some (b, rest)) (hstore : ∀ p, (store p).2 = p.2) :
    ∃ n, o = some (n, rest) := by
  obtain ⟨⟨n, more⟩, hn, heq⟩ := Option.map_eq_some_iff.mp h
  have hrest : rest = more := (congrArg Prod.snd heq).symm.trans (hstore _)
  exact ⟨n, hrest ▸ hn⟩

theorem eq_append_of_digits? {width n : Nat} {cs rest : List Char}
    (h : digits? width cs = some (n, rest)) :
    ∃ ds, cs = ds ++ rest ∧ ds ≠ [] ∧ ∀ c ∈ ds, c.isDigit = true := by
  unfold digits? at h
  dsimp only at h
  split at h
  · cases h
  · rename_i hne
    cases h
    have hstart : (cs.take width).takeWhile Char.isDigit <+: cs :=
      (List.takeWhile_prefix _).trans (List.take_prefix width cs)
    exact ⟨_, (List.prefix_iff_eq_append.mp hstart).symm, hne, fun c hc =>
      List.mem_takeWhile_imp hc⟩

theorem eq_append_trimStart (cs : List Char) :
    ∃ bs, cs = bs ++ trimStart cs ∧ ∀ c ∈ bs, isBlank c = true :=
  ⟨cs.takeWhile isBlank, List.takeWhile_append_dropWhile.symm, fun _ hc =>
    List.mem_takeWhile_imp hc⟩

theorem eq_append_of_number? {n : Nat} {cs rest : List Char} (h : number? cs = some (n, rest)) :
    ∃ pre, cs = pre ++ rest ∧ pre ≠ [] ∧ ∀ c ∈ pre, (isBlank c || c.isDigit) = true := by
  obtain ⟨bs, hcs, hbs⟩ := eq_append_trimStart cs
  obtain ⟨ds, hrest, hne, hds⟩ := eq_append_of_digits? h
  refine ⟨bs ++ ds, by rw [hcs, hrest, List.append_assoc], by simp [hne], fun c hc => ?_⟩
  rcases List.mem_append.mp hc with hc | hc
  · simp [hbs c hc]
  · simp [hds c hc]

theorem eq_append_of_year? {n : Int} {cs rest : List Char} (h : year? cs = some (n, rest)) :
    ∃ pre, cs = pre ++ rest ∧ pre ≠ [] ∧ ∀ c ∈ pre, Item.year.admits c = true := by
  obtain ⟨bs, hcs, hbs⟩ := eq_append_trimStart cs
  have hblank : ∀ c ∈ bs, Item.year.admits c = true := fun c hc => by simp [Item.admits, hbs c hc]
  have hdigit : ∀ c : Char, c.isDigit = true → Item.year.admits c = true := fun c hc => by
    simp [Item.admits, hc]
  -- After the blanks stand the digits of the year, perhaps behind a sign.
  have hsigned : ∃ signed, trimStart cs = signed ++ rest ∧ signed ≠ [] ∧
      ∀ c ∈ signed, Item.year.admits c = true := by
    unfold year? at h
    split at h
    · rename_i more htrim
      obtain ⟨m, hm⟩ := exists_of_map_eq_some h fun _ => rfl
      obtain ⟨ds, hds, -, hall⟩ := eq_append_of_digits? hm
      refine ⟨'-' :: ds, by rw [htrim, hds]; rfl, by simp, ?_⟩
      exact List.forall_mem_cons.mpr ⟨rfl, fun c hc => hdigit c (hall c hc)⟩
    · rename_i more htrim
      obtain ⟨m, hm⟩ := exists_of_map_eq_some h fun _ => rfl
      obtain ⟨ds, hds, -, hall⟩ := eq_append_of_digits? hm
      refine ⟨'+' :: ds, by rw [htrim, hds]; rfl, by simp, ?_⟩
      exact List.forall_mem_cons.mpr ⟨rfl, fun c hc => hdigit c (hall c hc)⟩
    · obtain ⟨m, hm⟩ := exists_of_map_eq_some h fun _ => rfl
      obtain ⟨ds, hds, hne, hall⟩ := eq_append_of_digits? hm
      exact ⟨ds, hds, hne, fun c hc => hdigit c (hall c hc)⟩
  obtain ⟨signed, htrim, hne, hall⟩ := hsigned
  refine ⟨bs ++ signed, by rw [hcs, htrim, List.append_assoc], by simp [hne], fun c hc => ?_⟩
  rcases List.mem_append.mp hc with hc | hc
  · exact hblank c hc
  · exact hall c hc

theorem eq_append_of_fraction? {n : Nat} {cs rest : List Char}
    (h : fraction? cs = some (n, rest)) :
    ∃ pre, cs = pre ++ rest ∧ ∀ c ∈ pre, Item.fraction.admits c = true := by
  unfold fraction? at h
  split at h
  · rename_i more
    dsimp only at h
    split at h
    · cases h
    · cases h
      refine ⟨'.' :: more.takeWhile Char.isDigit, ?_, ?_⟩
      · rw [List.cons_append, List.takeWhile_append_dropWhile]
      · refine List.forall_mem_cons.mpr ⟨rfl, fun c hc => ?_⟩
        simp [Item.admits, List.mem_takeWhile_imp hc]
  · cases h
    exact ⟨[], rfl, by simp⟩

theorem Item.read?_mark_eq_some {m : Char} {f g : Fields} {cs rest : List Char}
    (h : (Item.mark m).read? f cs = some (g, rest)) : g = f ∧ cs = m :: rest := by
  cases cs with
  | nil => cases h
  | cons d ds =>
    simp only [Item.read?] at h
    split at h
    · rename_i hd
      cases h
      exact ⟨rfl, hd ▸ rfl⟩
    · cases h

/-- A part reads characters that it admits from the start of a text, and a number has at least one
of them. -/
theorem Item.eq_append_of_read? {item : Item} {f g : Fields} {cs rest : List Char}
    (h : item.read? f cs = some (g, rest)) :
    ∃ pre, cs = pre ++ rest ∧ (item.isNumber = true → pre ≠ []) ∧
      ∀ c ∈ pre, item.admits c = true := by
  cases item with
  | year =>
    obtain ⟨n, hn⟩ := exists_of_map_eq_some h fun _ => rfl
    obtain ⟨pre, hcs, hne, hall⟩ := eq_append_of_year? hn
    exact ⟨pre, hcs, fun _ => hne, hall⟩
  | month | day | hour | minute | second =>
    obtain ⟨n, hn⟩ := exists_of_map_eq_some h fun _ => rfl
    obtain ⟨pre, hcs, hne, hall⟩ := eq_append_of_number? hn
    exact ⟨pre, hcs, fun _ => hne, hall⟩
  | fraction =>
    obtain ⟨n, hn⟩ := exists_of_map_eq_some h fun _ => rfl
    obtain ⟨pre, hcs, hall⟩ := eq_append_of_fraction? hn
    exact ⟨pre, hcs, nofun, hall⟩
  | blanks =>
    cases h
    obtain ⟨bs, hcs, hall⟩ := eq_append_trimStart cs
    exact ⟨bs, hcs, nofun, hall⟩
  | mark m =>
    obtain ⟨-, rfl⟩ := Item.read?_mark_eq_some h
    exact ⟨[m], rfl, nofun, by simp [Item.admits]⟩

/-! ## Layouts -/

variable {items : List Item} {item : Item} {f g : Fields} {cs : List Char}

theorem exists_read?_of_cons (h : read? (item :: items) f cs = some g) :
    ∃ next rest, item.read? f cs = some (next, rest) ∧ read? items next rest = some g := by
  unfold read? at h
  split at h
  · rename_i next rest hitem
    exact ⟨next, rest, hitem, h⟩
  · cases h

/-- Every character of a text that is read is read by a part. -/
theorem exists_admits_of_read? (h : read? items f cs = some g) {c : Char} (hc : c ∈ cs) :
    ∃ item ∈ items, item.admits c = true := by
  -- One part after the other takes its characters from the start of the text.
  induction items generalizing f cs with
  | nil =>
    cases cs with
    | nil => cases hc
    | cons d ds => cases h
  | cons item items ih =>
    obtain ⟨next, rest, hitem, hrest⟩ := exists_read?_of_cons h
    obtain ⟨pre, rfl, -, hall⟩ := Item.eq_append_of_read? hitem
    rcases List.mem_append.mp hc with hc | hc
    · exact ⟨item, List.mem_cons_self, hall c hc⟩
    · obtain ⟨other, hother, hadmits⟩ := ih hrest hc
      exact ⟨other, List.mem_cons_of_mem item hother, hadmits⟩

/-- Every mark of a layout stands in the text. -/
theorem mem_of_mark_mem {m : Char} (h : read? items f cs = some g) (hm : .mark m ∈ items) :
    m ∈ cs := by
  induction items generalizing f cs with
  | nil => cases hm
  | cons item items ih =>
    obtain ⟨next, rest, hitem, hrest⟩ := exists_read?_of_cons h
    rcases List.mem_cons.mp hm with rfl | hm
    · obtain ⟨-, rfl⟩ := Item.read?_mark_eq_some hitem
      exact List.mem_cons_self
    · obtain ⟨pre, rfl, -, -⟩ := Item.eq_append_of_read? hitem
      exact List.mem_append_right pre (ih hrest hm)

/-- A mark behind a first number follows characters that the number admits. -/
theorem eq_append_cons_of_read? {m : Char} (hnumber : item.isNumber = true)
    (h : read? (item :: .mark m :: items) f cs = some g) :
    ∃ pre post, cs = pre ++ m :: post ∧ pre ≠ [] ∧ ∀ c ∈ pre, item.admits c = true := by
  obtain ⟨next, rest, hitem, hrest⟩ := exists_read?_of_cons h
  obtain ⟨pre, rfl, hne, hall⟩ := Item.eq_append_of_read? hitem
  obtain ⟨after, post, hmark, -⟩ := exists_read?_of_cons hrest
  obtain ⟨-, rfl⟩ := Item.read?_mark_eq_some hmark
  exact ⟨pre, post, rfl, hne hnumber, hall⟩

/-! ## Texts of dates and times -/

/-- The characters of dates and times. -/
def isTemporalChar (c : Char) : Bool :=
  isBlank c || c.isDigit || c == '-' || c == '+' || c == '/' || c == ':' || c == '.' || c == 'T'

/-- What the texts of dates and times have in common: a mark follows a number, and there is no point
before it. -/
structure IsTemporal (cs : List Char) : Prop where
  all_temporal : ∀ c ∈ cs, isTemporalChar c = true
  marked : ∃ pre m post, cs = pre ++ m :: post ∧ pre ≠ [] ∧ '.' ∉ pre ∧ m ∈ ['-', '/', ':']

theorem IsTemporal.not_mem {c : Char} (h : IsTemporal cs) (hc : isTemporalChar c = false) :
    c ∉ cs := fun hmem => by
  simp [h.all_temporal c hmem] at hc

/-- The parts that read characters of dates and times only. -/
def Item.isTemporal : Item → Bool
  | .mark m => isTemporalChar m
  | _ => true

/-- A layout that starts with a number and a mark. -/
def startsMarked : List Item → Bool
  | item :: .mark m :: _ => item.isNumber && ['-', '/', ':'].contains m
  | _ => false

theorem Item.isTemporalChar_of_admits {c : Char} (hitem : item.isTemporal = true)
    (h : item.admits c = true) : isTemporalChar c = true := by
  cases item with
  | mark m =>
    have heq : c = m := by simpa [admits] using h
    exact heq ▸ hitem
  | _ =>
    simp only [admits, Bool.or_eq_true, beq_iff_eq] at h
    simp only [isTemporalChar, Bool.or_eq_true, beq_iff_eq]
    grind

/-- No number has a point in it. -/
theorem Item.ne_point_of_admits {c : Char} (hnumber : item.isNumber = true)
    (h : item.admits c = true) : c ≠ '.' := by
  rintro rfl
  cases item with
  | fraction | blanks | mark m => cases hnumber
  | _ => revert h; decide

theorem isTemporal_of_read? (hparts : items.all Item.isTemporal = true)
    (hstarts : startsMarked items = true) (h : read? items f cs = some g) : IsTemporal cs := by
  refine ⟨fun c hc => ?_, ?_⟩
  · obtain ⟨item, hitem, hadmits⟩ := exists_admits_of_read? h hc
    exact Item.isTemporalChar_of_admits (List.all_eq_true.mp hparts item hitem) hadmits
  · unfold startsMarked at hstarts
    split at hstarts
    · rename_i item m rest
      obtain ⟨hnumber, hm⟩ := (Bool.and_eq_true _ _).mp hstarts
      obtain ⟨pre, post, hcs, hne, hall⟩ := eq_append_cons_of_read? hnumber h
      refine ⟨pre, m, post, hcs, hne, fun hpoint => ?_, by simpa using hm⟩
      exact Item.ne_point_of_admits hnumber (hall _ hpoint) rfl
    · cases hstarts

theorem exists_read?_of_readBy? {α : Type} {layouts : List (List Item)}
    {make? : Fields → Option α} {x : α} (h : readBy? layouts make? cs = some x) :
    ∃ layout ∈ layouts, ∃ g, read? layout Fields.initial cs = some g := by
  obtain ⟨layout, hlayout, hbind⟩ := List.exists_of_findSome?_eq_some h
  obtain ⟨g, hread, -⟩ := Option.bind_eq_some_iff.mp hbind
  exact ⟨layout, hlayout, g, hread⟩

theorem isTemporal_of_readBy? {α : Type} {layouts : List (List Item)} {make? : Fields → Option α}
    {x : α} (hlayouts : layouts.all (fun items => items.all Item.isTemporal && startsMarked items))
    (h : readBy? layouts make? cs = some x) : IsTemporal cs := by
  obtain ⟨layout, hlayout, g, hread⟩ := exists_read?_of_readBy? h
  obtain ⟨hparts, hstarts⟩ := (Bool.and_eq_true _ _).mp (List.all_eq_true.mp hlayouts _ hlayout)
  exact isTemporal_of_read? hparts hstarts hread

end TableDiff.Layout

namespace TableDiff

variable {cs : List Char}

theorem Date.isTemporal_of_read? {d : Date} (h : Date.read? cs = some d) : Layout.IsTemporal cs :=
  Layout.isTemporal_of_readBy? (by decide) h

theorem DateTime.isTemporal_of_read? {d : DateTime} (h : DateTime.read? cs = some d) :
    Layout.IsTemporal cs :=
  Layout.isTemporal_of_readBy? (by decide) h

theorem TimeOfDay.isTemporal_of_read? {t : TimeOfDay} (h : TimeOfDay.read? cs = some t) :
    Layout.IsTemporal cs :=
  Layout.isTemporal_of_readBy? (by decide) h

/-- A date with a time of day has a colon. -/
theorem DateTime.colon_mem_of_read? {d : DateTime} (h : DateTime.read? cs = some d) : ':' ∈ cs := by
  obtain ⟨layout, hlayout, g, hread⟩ := Layout.exists_read?_of_readBy? h
  have hcolon : ∀ layout ∈ Layout.dateTimeLayouts, Layout.Item.mark ':' ∈ layout := by decide
  exact Layout.mem_of_mark_mem hread (hcolon layout hlayout)

end TableDiff
