import TableDiff.Proofs.Calendar.Layout
import TableDiff.Proofs.Number.Notation
import TableDiff.Proofs.Table.Lookup
import TableDiff.Proofs.Value.Reading

/-!
# Casts

A cast leads to a value of the datatype, which needs no cast any more. What is read as a date or
time is never read as a number, so a value that has a cast of the one kind has none of the other.
-/

namespace TableDiff

namespace Value

variable {v w : Value} {t : Datatype} {s : String}

/-! ## The kind of a cast -/

theorem datatype_of_convert? (h : v.convert? t = some w) : w.datatype = t := by
  unfold convert? at h
  split at h
  · split at h
    · obtain ⟨i, -, rfl⟩ := Option.map_eq_some_iff.mp h
      rfl
    · cases h
  · split at h
    · obtain ⟨i, -, rfl⟩ := Option.map_eq_some_iff.mp h
      rfl
    · cases h
  · cases h
    rfl
  · obtain ⟨d, -, rfl⟩ := Option.map_eq_some_iff.mp h
    rfl
  · obtain ⟨d, -, rfl⟩ := Option.map_eq_some_iff.mp h
    rfl
  · split at h
    · cases h
      rfl
    · split at h
      · cases h
        rfl
      · cases h
  · cases h
    rfl
  · cases h
    rfl
  · cases h
    rfl
  · cases h

/-- Everything can become a text. -/
theorem cast_string (v : Value) : v.cast .string = .ok (.text v.display) := by
  unfold cast
  by_cases htext : v.datatype = .string
  · rw [if_pos (.inr htext)]
    cases v with
    | text s => rfl
    | _ => cases htext
  · rw [if_neg (by simp [htext]), if_pos rfl]

/-- A value that is no text is converted, if it is not of the datatype already. -/
theorem cast_eq_ok_iff (hknown : t ≠ .unknown) (hstring : t ≠ .string)
    (htext : v.datatype ≠ .string) (hkind : v.datatype ≠ t) :
    v.cast t = .ok w ↔ v.convert? t = some w := by
  unfold cast
  rw [if_neg (not_or.mpr ⟨hknown, hkind⟩), if_neg hstring]
  cases v with
  | text s => exact absurd rfl htext
  | _ =>
    dsimp only
    split <;> simp [*]

/-- A cast to a known datatype leads to a value of it. -/
theorem datatype_of_cast (hknown : t ≠ .unknown) (h : v.cast t = .ok w) : w.datatype = t := by
  by_cases hkind : v.datatype = t
  · have hself : v.cast t = .ok v := if_pos (.inr hkind)
    rw [hself, Except.ok.injEq] at h
    exact h ▸ hkind
  by_cases hstring : t = .string
  · subst hstring
    unfold cast at h
    rw [if_neg (not_or.mpr ⟨hknown, hkind⟩), if_pos rfl] at h
    cases h
    rfl
  by_cases htext : v.datatype = .string
  · cases v with
    | text s =>
      have hread := ((cast_text_eq_ok_iff hknown hstring).mp h).2
      rw [datatype_of_read hread, Datatype.kind, if_neg hknown]
    | _ => cases htext
  · exact datatype_of_convert? ((cast_eq_ok_iff hknown hstring htext hkind).mp h)

/-- A cast needs no cast any more. -/
theorem cast_of_cast (h : v.cast t = .ok w) : w.cast t = .ok w := by
  by_cases hknown : t = .unknown
  · exact if_pos (.inl hknown)
  · exact if_pos (.inr (datatype_of_cast hknown h))

/-! ## Casts and readings -/

theorem cell_read_eq_ok_iff_cast (hs : s ≠ "") {c : Cell} :
    Cell.read s t = .ok c ↔ ∃ w, c = some w ∧ (text s).cast t = .ok w := by
  rw [Cell.read_eq_ok_iff]
  constructor
  · rintro (⟨hempty, -⟩ | ⟨-, w, hw, rfl⟩)
    · exact absurd hempty hs
    · exact ⟨w, rfl, (cast_text_eq_ok_iff_read hs).mpr hw⟩
  · rintro ⟨w, rfl, hw⟩
    exact .inr ⟨hs, w, (cast_text_eq_ok_iff_read hs).mp hw, rfl⟩

theorem cell_read_eq_ok_none_iff : Cell.read s t = .ok none ↔ s = "" := by
  rw [Cell.read_eq_ok_iff]
  simp

/-- Casts to one datatype are of one kind, and so they are ordered. -/
theorem exists_compare?_of_casts {x y : Value} (hknown : t ≠ .unknown) (hx : v.cast t = .ok x)
    (hy : w.cast t = .ok y) : ∃ o, x.compare? y = some o := by
  have hkind : x.datatype = y.datatype :=
    (datatype_of_cast hknown hx).trans (datatype_of_cast hknown hy).symm
  obtain ⟨o, ho, -⟩ := compares_rank hkind
  exact ⟨o, ho⟩

/-- A cast to a known datatype leads to a value of it, and a second cast changes nothing. Texts are
cast as they are read, and what is read of a text that is not empty is of the kind. So the casts of
any two values have an order between them. -/
theorem cast_lands_in_kind (hknown : t ≠ .unknown) :
    (∀ v w : Value, v.cast t = .ok w → w.datatype = t ∧ w.cast t = .ok w) ∧
    (∀ s, s ≠ "" → ∀ c, Cell.read s t = .ok c ↔ ∃ w, c = some w ∧ (text s).cast t = .ok w) ∧
    (∀ s u, (Cell.read s u = .ok none ↔ s = "") ∧
      ∀ w, Cell.read s u = .ok (some w) → w.datatype = u.kind) ∧
    (∀ v w x y : Value, v.cast t = .ok x → w.cast t = .ok y → ∃ o, x.compare? y = some o) := by
  refine ⟨fun v w h => ⟨datatype_of_cast hknown h, cast_of_cast h⟩,
    fun s hs c => cell_read_eq_ok_iff_cast hs, fun s u => ⟨cell_read_eq_ok_none_iff, ?_⟩, ?_⟩
  · intro w hw
    exact Cell.isOf_some.mp (Cell.isOf_of_read hw)
  · intro v w x y hx hy
    exact exists_compare?_of_casts hknown hx hy

/-- A text and a truth value have casts to `integer`, which are ordered. -/
theorem cast_lands_in_kind_integer :
    (text " +1 ").cast .integer = .ok (.integer 1) ∧
    (boolean false).cast .integer = .ok (.integer 0) ∧
    (integer 1).cast .integer = .ok (.integer 1) ∧
    Cell.read " +1 " .integer = .ok (some (.integer 1)) ∧
    ∃ o, (integer 1).compare? (integer 0) = some o := by
  have hknown : Datatype.integer ≠ .unknown := by decide
  have htext : (text " +1 ").cast .integer = .ok (.integer 1) := by decide +kernel
  have hfalse : (boolean false).cast .integer = .ok (.integer 0) := rfl
  obtain ⟨hlands, hread, -, hordered⟩ := cast_lands_in_kind hknown
  exact ⟨htext, hfalse, (hlands _ _ htext).2, (hread _ (by decide) _).mpr ⟨_, rfl, htext⟩,
    hordered _ _ _ _ htext hfalse⟩

end Value

/-! ## Dates and times are not numbers -/

namespace Value

variable {v w : Value} {t : Datatype} {s : String} {cs : List Char}

/-- The text of a date or time is no decimal number. -/
theorem readDecimal_of_isTemporal (h : Layout.IsTemporal cs) (d : Decimal) :
    readDecimal cs ≠ .ok d := by
  intro hread
  rcases readPositional_of_readDecimal hread with ⟨c, hc, hmark⟩ | hpositional
  · have hletter : c = 'e' ∨ c = 'E' := by simpa [Decimal.isExponentMark] using hmark
    rcases hletter with rfl | rfl
    · exact h.not_mem (by decide) hc
    · exact h.not_mem (by decide) hc
  · obtain ⟨pre, m, post, rfl, hpre, hpoint, hm⟩ := h.marked
    have hmarks : m = '-' ∨ m = '/' ∨ m = ':' := by simpa using hm
    have hne : m ≠ '.' := by rcases hmarks with rfl | rfl | rfl <;> decide
    have hchar := Decimal.digit_or_separator_of_readPositional hpre hpoint hne hpositional
    rcases hmarks with rfl | rfl | rfl <;> exact absurd hchar (by decide)

theorem eq_u_of_toLower {c : Char} (h : c.toLower = 'u') : c = 'u' ∨ c = 'U' := by
  by_cases hupper : c.isUpper
  · have hbound := Text.toNat_le_of_isUpper hupper
    have hvalid : (c.toNat + 32).isValidChar := by
      unfold Nat.isValidChar
      omega
    have hcode : 'u'.toNat = c.toNat + 32 := by
      rw [← h, Char.toLower_eq_of_isUpper hupper, Char.toNat_ofNat, if_pos hvalid]
    refine .inr (Char.toNat_inj.mp ?_)
    have hu : 'u'.toNat = 'U'.toNat + 32 := by decide
    omega
  · rw [Char.toLower_eq_of_not_isUpper hupper] at h
    exact .inl h

/-- The text of a date or time is no uniform resource name. -/
theorem dropUrn?_of_isTemporal (h : Layout.IsTemporal cs) : Guid.dropUrn? cs = none := by
  unfold Guid.dropUrn?
  rw [if_neg]
  intro hurn
  cases cs with
  | nil => cases hurn
  | cons c rest =>
    have hletter : c.toLower = 'u' := (List.cons.inj hurn).1
    rcases eq_u_of_toLower hletter with rfl | rfl
    · exact h.not_mem (by decide) List.mem_cons_self
    · exact h.not_mem (by decide) List.mem_cons_self

theorem readGuid_of_not_mem (hopen : '\x7b' ∉ cs) (hclose : '\x7d' ∉ cs) :
    readGuid cs = Guid.read cs := by
  have hkeep : ∀ xs : List Char, '\x7b' ∉ xs → '\x7d' ∉ xs →
      xs.dropWhile (fun c => c == '\x7b' || c == '\x7d') = xs := by
    intro xs hopen hclose
    cases xs with
    | nil => rfl
    | cons c rest =>
      refine List.dropWhile_cons_of_neg ?_
      simpa using And.intro (List.ne_of_not_mem_cons hopen).symm
        (List.ne_of_not_mem_cons hclose).symm
  unfold readGuid
  dsimp only
  rw [hkeep cs hopen hclose, hkeep cs.reverse (by simpa using hopen) (by simpa using hclose),
    List.reverse_reverse]

/-- Nor does it stand in braces. -/
theorem readGuid_of_isTemporal (h : Layout.IsTemporal cs) : readGuid cs = Guid.read cs :=
  readGuid_of_not_mem (h.not_mem (by decide)) (h.not_mem (by decide))

/-- What is read as a date with a time of day is not read as a number, a truth value or an
identifier, none of which has a colon. -/
theorem read_ne_ok_of_readDateTime {d : DateTime}
    (hkind : t ∈ [.integer, .float, .decimal, .boolean, .guid])
    (h : DateTime.read? (Text.trim s.toList) = some d) : Value.read s t ≠ .ok w := by
  have hcolon := DateTime.colon_mem_of_read? h
  have htemporal := DateTime.isTemporal_of_read? h
  intro hread
  simp only [List.mem_cons, List.not_mem_nil, or_false] at hkind
  rcases hkind with rfl | rfl | rfl | rfl | rfl
  · obtain ⟨i, hi, -⟩ := exists_of_map_eq_ok hread
    rcases Number.isDigit_or_sign_of_readInteger hi ':' hcolon with h | h | h
    · revert h; decide
    · revert h; decide
    · revert h; decide
  · obtain ⟨x, hx, -⟩ := exists_of_map_eq_ok hread
    exact Binary64.colon_not_mem_of_read hx hcolon
  · obtain ⟨x, hx, -⟩ := exists_of_map_eq_ok hread
    exact readDecimal_of_isTemporal htemporal x hx
  · obtain ⟨b, hb, -⟩ := exists_of_elim_eq_ok hread
    exact colon_not_mem_of_readBoolean? hb hcolon
  · obtain ⟨g, hg, -⟩ := exists_of_map_eq_ok hread
    rw [readGuid_of_isTemporal htemporal] at hg
    exact Guid.colon_not_mem_of_read (dropUrn?_of_isTemporal htemporal) hg hcolon

/-- What is read as a date or time is not read as a decimal number. -/
theorem readDecimal_ne_ok_of_read {d : Decimal} (htemporal : t.isTemporal = true)
    (h : Value.read s t = .ok w) : readDecimal (Text.trim s.toList) ≠ .ok d := by
  apply readDecimal_of_isTemporal
  cases t with
  | date =>
    obtain ⟨d, hd, -⟩ := exists_of_elim_eq_ok h
    exact Date.isTemporal_of_read? hd
  | datetime =>
    obtain ⟨d, hd, -⟩ := exists_of_elim_eq_ok h
    exact DateTime.isTemporal_of_read? hd
  | time =>
    obtain ⟨u, hu, -⟩ := exists_of_elim_eq_ok h
    exact TimeOfDay.isTemporal_of_read? hu
  | _ => cases htemporal

end Value

end TableDiff
