import TableDiff.Number.Decimal.Reader
import TableDiff.Proofs.Number.Notation
import TableDiff.Proofs.Number.Padding

/-!
# Numbers and identifiers from their texts

The text of an integer, a decimal number or an identifier is read as what it shows. Only the sign of
a decimal zero is not read.
-/

namespace TableDiff

/-! ## Integers -/

namespace Number

variable {cs ds : List Char}

/-- Digits behind a number do not make it less. -/
theorem le_ofDigitChars (ds : List Char) (acc : Nat) : acc ≤ Nat.ofDigitChars 10 ds acc := by
  induction ds generalizing acc with
  | nil => exact le_rfl
  | cons c ds ih =>
    rw [Nat.ofDigitChars_cons]
    exact le_trans (by omega) (ih _)

theorem readMagnitude_digits {limit acc : Nat} {overflow : IntegerError}
    (hds : ∀ c ∈ ds, c.isDigit = true) (hlimit : Nat.ofDigitChars 10 ds acc ≤ limit) :
    readMagnitude limit overflow acc ds = .ok (Nat.ofDigitChars 10 ds acc) := by
  -- On the digits: what has been read on the way is not above the number that comes out.
  induction ds generalizing acc with
  | nil => rfl
  | cons c ds ih =>
    obtain ⟨hc, hds⟩ := List.forall_mem_cons.mp hds
    rw [Nat.ofDigitChars_cons, Nat.mul_comm] at hlimit ⊢
    unfold readMagnitude
    rw [if_pos hc]
    exact (if_pos (le_trans (le_ofDigitChars ds _) hlimit)).trans (ih hds hlimit)

theorem readUnsigned_digits {limit n : Nat} (overflow : IntegerError) (hn : n ≤ limit) :
    readUnsigned limit overflow (digits n) = .ok n := by
  have hvalue : Nat.ofDigitChars 10 (digits n) 0 = n := ofDigits_digits n
  unfold readUnsigned
  rw [if_neg (digits_ne_nil n), readMagnitude_digits (fun _ => isDigit_of_mem_digits)
    (by rwa [hvalue]), hvalue]

/-- Digits do not begin with a sign. -/
theorem ne_sign_cons {sign : Char} (hsign : sign.isDigit = false)
    (hds : ∀ c ∈ ds, c.isDigit = true) (rest : List Char) : ds ≠ sign :: rest := by
  rintro rfl
  rw [hds sign List.mem_cons_self] at hsign
  cases hsign

theorem readInteger_intText (i : Int64) : readInteger (intText i.toInt) = .ok i := by
  have hlow := i.le_toInt
  have hhigh := i.toInt_lt
  have hbound : twoPow 63 = 9223372036854775808 := by decide
  unfold intText
  split
  · rename_i hneg
    have hread : readUnsigned int64Floor .tooSmall (digits i.toInt.natAbs) = .ok i.toInt.natAbs :=
      readUnsigned_digits _ (by unfold int64Floor; omega)
    have hvalue : -(i.toInt.natAbs : Int) = i.toInt := by omega
    simp only [readInteger, hread]
    show Except.ok (Int64.ofInt (-(i.toInt.natAbs : Int))) = _
    rw [hvalue, Int64.ofInt_toInt]
  · rename_i hneg
    have hread : readUnsigned int64Ceiling .tooLarge (digits i.toInt.natAbs) = .ok i.toInt.natAbs :=
      readUnsigned_digits _ (by unfold int64Ceiling; omega)
    have hvalue : (i.toInt.natAbs : Int) = i.toInt := by omega
    have hds : ∀ c ∈ digits i.toInt.natAbs, c.isDigit = true := fun _ => isDigit_of_mem_digits
    unfold readInteger
    split
    · rename_i hnil
      exact absurd hnil (digits_ne_nil _)
    · rename_i hsign
      exact absurd hsign (ne_sign_cons (by decide) hds _)
    · rename_i hsign
      exact absurd hsign (ne_sign_cons (by decide) hds _)
    · rw [hread]
      show Except.ok (Int64.ofInt (i.toInt.natAbs : Int)) = _
      rw [hvalue, Int64.ofInt_toInt]

end Number

/-! ## Decimal numbers -/

namespace Decimal

namespace Progress

/-- What has been read of a number when only the sign has been. -/
abbrev start (negative : Bool) : Progress := ⟨negative, 0, 0, false, false⟩

/-- What has been read when digits follow. -/
def push (p : Progress) (ds : List Char) : Progress :=
  { p with
    mantissa := Nat.ofDigitChars 10 ds p.mantissa
    scale := if p.hasPoint then p.scale + ds.length else p.scale
    hasDigit := p.hasDigit || !ds.isEmpty }

theorem push_nil (p : Progress) : p.push [] = p := by
  simp [push]

theorem push_cons (p : Progress) (c : Char) (ds : List Char) :
    p.push (c :: ds) = (p.push [c]).push ds := by
  unfold push
  simp only [Nat.ofDigitChars_cons, Nat.ofDigitChars_nil, List.length_cons, List.length_nil]
  split
  · simp [*]
    omega
  · simp [*]

end Progress

variable {p : Progress} {c : Char} {ds rest : List Char}

theorem mantissa_push_cons_nil : (p.push [c]).mantissa = p.mantissa * 10 + Number.digitValue c := by
  show Nat.ofDigitChars 10 [c] p.mantissa = _
  rw [Nat.ofDigitChars_cons, Nat.ofDigitChars_nil, Nat.mul_comm]
  rfl

/-- A digit that the number has room for is read. -/
theorem readFrom_cons_digit (hc : c.isDigit = true)
    (hmantissa : (p.push [c]).mantissa < mantissaBound)
    (hroom : p.hasPoint = true → rest ≠ [] → p.scale + 1 < maxScale) :
    readFrom p (c :: rest) = readFrom (p.push [c]) rest := by
  have hnext : p.push [c] = { p with
      mantissa := p.mantissa * 10 + Number.digitValue c
      scale := if p.hasPoint then p.scale + 1 else p.scale
      hasDigit := true } := by
    rw [← mantissa_push_cons_nil]
    simp [Progress.push]
  rw [mantissa_push_cons_nil] at hmantissa
  conv_lhs => unfold readFrom
  rw [if_pos hc, hnext]
  dsimp only
  rw [if_neg (by omega)]
  cases rest with
  | nil => rfl
  | cons d rest =>
    -- Nothing is rounded before the last place that there is room for.
    refine if_neg ?_
    rintro ⟨hpoint, hscale⟩
    rw [if_pos hpoint] at hscale
    have := hroom hpoint (List.cons_ne_nil d rest)
    omega

/-- Digits are read as long as the number has room. -/
theorem readFrom_append_digits (hds : ∀ c ∈ ds, c.isDigit = true)
    (hmantissa : (p.push ds).mantissa < mantissaBound)
    (hroom : p.hasPoint = true → rest = [] ∧ p.scale + ds.length ≤ maxScale) :
    readFrom p (ds ++ rest) = readFrom (p.push ds) rest := by
  -- On the digits: there is room for each of them, as there is for all.
  induction ds generalizing p with
  | nil => rw [Progress.push_nil, List.nil_append]
  | cons c ds ih =>
    obtain ⟨hc, hds⟩ := List.forall_mem_cons.mp hds
    rw [Progress.push_cons] at hmantissa ⊢
    have hhead : (p.push [c]).mantissa < mantissaBound :=
      lt_of_le_of_lt (Number.le_ofDigitChars ds _) hmantissa
    rw [List.cons_append, readFrom_cons_digit hc hhead]
    · refine ih hds hmantissa fun hpoint => ?_
      have hpoint : p.hasPoint = true := hpoint
      obtain ⟨hrest, hlength⟩ := hroom hpoint
      rw [List.length_cons] at hlength
      refine ⟨hrest, ?_⟩
      show (if p.hasPoint then p.scale + 1 else p.scale) + ds.length ≤ maxScale
      rw [if_pos hpoint]
      omega
    · intro hpoint hne
      obtain ⟨rfl, hlength⟩ := hroom hpoint
      have hds : 0 < ds.length := List.length_pos_iff.mpr (by simpa using hne)
      rw [List.length_cons] at hlength
      omega

/-! ### What is written is read -/

/-- The number as its text is read: a zero has no sign. -/
def withoutZeroSign (d : Decimal) : Decimal :=
  { d with negative := d.negative && d.mantissa != 0 }

theorem numerator_withoutZeroSign (d : Decimal) : d.withoutZeroSign.numerator = d.numerator := by
  unfold numerator withoutZeroSign
  by_cases hzero : d.mantissa = 0 <;> simp [hzero]

/-- The digits of a number with the point among them. -/
def unsignedText (d : Decimal) : List Char :=
  let ds := Number.paddedDigits (d.scale + 1) d.mantissa
  if d.scale = 0 then ds
  else ds.take (ds.length - d.scale) ++ '.' :: ds.drop (ds.length - d.scale)

theorem text_eq (d : Decimal) :
    d.text = if d.negative then '-' :: d.unsignedText else d.unsignedText := rfl

/-- The digits of a number, with a point where it has places. -/
theorem exists_unsignedText_eq (d : Decimal) : ∃ front back,
    Number.paddedDigits (d.scale + 1) d.mantissa = front ++ back ∧ front ≠ [] ∧
      back.length = d.scale ∧
      d.unsignedText = if d.scale = 0 then front else front ++ '.' :: back := by
  have hlength : d.scale + 1 ≤ (Number.paddedDigits (d.scale + 1) d.mantissa).length := by
    unfold Number.paddedDigits
    rw [List.length_append, List.length_replicate]
    omega
  unfold unsignedText
  dsimp only
  generalize Number.paddedDigits (d.scale + 1) d.mantissa = ds at hlength ⊢
  -- There is one digit more than places, so one stands before the point.
  refine ⟨ds.take (ds.length - d.scale), ds.drop (ds.length - d.scale),
    (List.take_append_drop _ ds).symm, ?_, ?_, ?_⟩
  · rw [Ne, List.take_eq_nil_iff]
    rintro (hnone | rfl)
    · omega
    · simp at hlength
  · rw [List.length_drop]
    omega
  · split
    · rename_i hscale
      rw [hscale, Nat.sub_zero, List.take_length]
    · rfl

theorem Progress.finish_of_parts {d : Decimal} (hdigit : p.hasDigit = true)
    (hnegative : p.negative = d.negative) (hmantissa : p.mantissa = d.mantissa)
    (hscale : p.scale = d.scale) : p.finish = .ok d.withoutZeroSign := by
  unfold finish ofParts? withoutZeroSign
  rw [hdigit, hnegative, hmantissa, hscale, dif_pos ⟨d.mantissa_lt, d.scale_le⟩]
  rfl

theorem readFrom_point (hpoint : p.hasPoint = false) :
    readFrom p ('.' :: rest) = readFrom { p with hasPoint := true } rest := by
  rw [readFrom, if_neg (by decide), if_pos ⟨rfl, by rw [hpoint]; rfl⟩]

theorem readFrom_unsignedText (d : Decimal) :
    readFrom (.start d.negative) d.unsignedText = .ok d.withoutZeroSign := by
  obtain ⟨front, back, hds, hfront, hback, htext⟩ := exists_unsignedText_eq d
  have hdigits : ∀ c ∈ front ++ back, c.isDigit = true := fun c hc =>
    Number.isDigit_of_mem_paddedDigits (hds ▸ hc)
  have hvalue : Nat.ofDigitChars 10 back (Nat.ofDigitChars 10 front 0) = d.mantissa := by
    rw [← Nat.ofDigitChars_append, ← hds]
    exact Number.ofDigits_paddedDigits _ _
  have hmantissa : Nat.ofDigitChars 10 front 0 < mantissaBound :=
    lt_of_le_of_lt (Number.le_ofDigitChars back _) (hvalue ▸ d.mantissa_lt)
  have hbefore (rest : List Char) :
      readFrom (.start d.negative) (front ++ rest) =
        readFrom ((Progress.start d.negative).push front) rest :=
    readFrom_append_digits (fun c hc => hdigits c (List.mem_append_left _ hc)) hmantissa (by simp)
  have hdigit : ((Progress.start d.negative).push front).hasDigit = true := by
    simp [Progress.push, hfront]
  rw [htext]
  split
  · -- Without places there is no point, and nothing stands behind it.
    rename_i hscale
    obtain rfl : back = [] := List.length_eq_zero_iff.mp (hback.trans hscale)
    rw [← List.append_nil front, hbefore]
    exact Progress.finish_of_parts hdigit rfl hvalue hscale.symm
  · rw [hbefore, readFrom_point rfl, ← List.append_nil back, readFrom_append_digits]
    · refine Progress.finish_of_parts ?_ rfl hvalue ?_
      · exact Bool.or_eq_true_iff.mpr (.inl hdigit)
      · show 0 + back.length = d.scale
        rw [hback, Nat.zero_add]
    · exact fun c hc => hdigits c (List.mem_append_right _ hc)
    · show Nat.ofDigitChars 10 back (Nat.ofDigitChars 10 front 0) < mantissaBound
      exact hvalue ▸ d.mantissa_lt
    · intro _
      refine ⟨rfl, ?_⟩
      show 0 + back.length ≤ maxScale
      rw [hback, Nat.zero_add]
      exact d.scale_le

theorem exists_unsignedText_eq_cons (d : Decimal) :
    ∃ c rest, d.unsignedText = c :: rest ∧ c.isDigit = true := by
  obtain ⟨front, back, hds, hfront, -, htext⟩ := exists_unsignedText_eq d
  obtain ⟨c, rest, rfl⟩ := List.exists_cons_of_ne_nil hfront
  have hmem : c ∈ Number.paddedDigits (d.scale + 1) d.mantissa := hds ▸ List.mem_cons_self
  have hc := Number.isDigit_of_mem_paddedDigits hmem
  rw [htext]
  split
  · exact ⟨c, rest, rfl, hc⟩
  · exact ⟨c, rest ++ '.' :: back, rfl, hc⟩

theorem readPositional_text (d : Decimal) : readPositional d.text = .ok d.withoutZeroSign := by
  have hread := readFrom_unsignedText d
  rw [text_eq]
  split
  · rename_i hnegative
    rw [hnegative] at hread
    exact hread
  · rename_i hnegative
    rw [Bool.not_eq_true] at hnegative
    rw [hnegative] at hread
    obtain ⟨c, rest, htext, hc⟩ := exists_unsignedText_eq_cons d
    rw [htext] at hread ⊢
    unfold readPositional
    split
    · rename_i hnil
      cases hnil
    · rename_i hsign
      obtain ⟨rfl, -⟩ := List.cons.inj hsign
      cases hc
    · rename_i hsign
      obtain ⟨rfl, -⟩ := List.cons.inj hsign
      cases hc
    · exact hread

end Decimal

/-! ## Identifiers -/

namespace Number

theorem ofHex?_append_singleton (cs : List Char) (c : Char) :
    ofHex? (cs ++ [c]) = (ofHex? cs).bind fun n => (hexValue? c).map (n * 16 + ·) := by
  unfold ofHex?
  rw [List.foldlM_append]
  simp

theorem ofHex?_padded {w n : Nat} (hw : 0 < w) (hn : n < 16 ^ w) :
    ofHex? (padded 16 w n) = some n := by
  have hdigit : ∀ d < 16, hexValue? d.digitChar = some d := by decide
  induction w, hw using Nat.le_induction generalizing n with
  | base =>
    have hn : n < 16 := by simpa using hn
    rw [padded_of_lt hn]
    simp [ofHex?, hdigit n hn]
  | succ w hw ih =>
    have hquotient : n / 16 < 16 ^ w := Nat.div_lt_of_lt_mul (by rwa [pow_succ'] at hn)
    rw [padded_succ (by decide) hw, ofHex?_append_singleton, ih hquotient, Option.bind_some,
      hdigit _ (Nat.mod_lt n (by decide)), Option.map_some, Nat.div_add_mod']

end Number

namespace Guid

variable {ns : List Nat} {cs ds : List Char}

theorem ofHex?_hexDigits (g : Guid) : Number.ofHex? g.hexDigits = some g.value :=
  Number.ofHex?_padded (by omega) g.value_lt

theorem splitGroups_append (hcs : cs.length = n) :
    splitGroups (n :: ns) (cs ++ ds) = cs :: splitGroups ns ds := by
  subst hcs
  rw [splitGroups, List.take_left, List.drop_left]

theorem map_length_splitGroups (hlength : cs.length = ns.sum) :
    (splitGroups ns cs).map List.length = ns := by
  induction ns generalizing cs with
  | nil => rfl
  | cons n ns ih =>
    rw [List.sum_cons] at hlength
    rw [splitGroups, List.map_cons, List.length_take, ih (by rw [List.length_drop]; omega)]
    congr 1
    omega

/-- The five groups of the digits, with hyphens between them. -/
theorem exists_text_eq (g : Guid) : ∃ a b c d e : List Char,
    a.length = 8 ∧ b.length = 4 ∧ c.length = 4 ∧ d.length = 4 ∧ e.length = 12 ∧
      g.hexDigits = a ++ b ++ c ++ d ++ e ∧
      g.text = a ++ (['-'] ++ (b ++ (['-'] ++ (c ++ (['-'] ++ (d ++ (['-'] ++ e))))))) := by
  have hgroups : (splitGroups groupLengths g.hexDigits).map List.length = groupLengths :=
    map_length_splitGroups g.length_hexDigits
  have hflatten : (splitGroups groupLengths g.hexDigits).flatten = g.hexDigits :=
    (flatten_splitGroups _ _).trans (List.take_of_length_le g.length_hexDigits.le)
  unfold text
  generalize splitGroups groupLengths g.hexDigits = groups at hgroups hflatten ⊢
  rw [← hflatten]
  unfold groupLengths at hgroups
  obtain ⟨a, _, rfl, ha, hgroups⟩ := List.map_eq_cons_iff.mp hgroups
  obtain ⟨b, _, rfl, hb, hgroups⟩ := List.map_eq_cons_iff.mp hgroups
  obtain ⟨c, _, rfl, hc, hgroups⟩ := List.map_eq_cons_iff.mp hgroups
  obtain ⟨d, _, rfl, hd, hgroups⟩ := List.map_eq_cons_iff.mp hgroups
  obtain ⟨e, _, rfl, he, hgroups⟩ := List.map_eq_cons_iff.mp hgroups
  rw [List.map_eq_nil_iff.mp hgroups]
  exact ⟨a, b, c, d, e, ha, hb, hc, hd, he, by simp, by simp [List.intercalate]⟩

theorem length_text (g : Guid) : g.text.length = 36 := by
  obtain ⟨a, b, c, d, e, ha, hb, hc, hd, he, -, htext⟩ := g.exists_text_eq
  rw [htext]
  simp [ha, hb, hc, hd, he]

theorem ungroup?_text (g : Guid) : ungroup? g.text = some g.hexDigits := by
  obtain ⟨a, b, c, d, e, ha, hb, hc, hd, he, hdigits, htext⟩ := g.exists_text_eq
  have hhyphen : ['-'].length = 1 := rfl
  rw [hdigits, htext]
  unfold ungroup?
  nth_rewrite 1 [← List.append_nil e]
  rw [splitGroups_append ha, splitGroups_append hhyphen, splitGroups_append hb,
    splitGroups_append hhyphen, splitGroups_append hc, splitGroups_append hhyphen,
    splitGroups_append hd, splitGroups_append hhyphen, splitGroups_append he]
  rfl

/-- An identifier is written in hexadecimal digits and hyphens. -/
theorem forall_mem_text {P : Char → Prop} (hdigit : ∀ d < 16, P d.digitChar) (hhyphen : P '-')
    (g : Guid) : ∀ c ∈ g.text, P c := by
  intro c hc
  rcases mem_of_ungroup? g.length_text.le g.ungroup?_text hc with hc | rfl
  · rw [Number.hexDigits_eq] at hc
    have hvalue : g.value < 16 ^ 32 := g.value_lt
    obtain ⟨d, hd, rfl⟩ := Number.exists_of_mem_padded (by omega) (by omega) hvalue hc
    exact hdigit d hd
  · exact hhyphen

theorem byteLength_of_utf8Size (hcs : ∀ c ∈ cs, c.utf8Size = 1) : byteLength cs = cs.length := by
  have hfrom : ∀ n, cs.foldl (fun n c => n + c.utf8Size) n = n + cs.length := by
    induction cs with
    | nil => intro n; rfl
    | cons c cs ih =>
      obtain ⟨hc, hcs⟩ := List.forall_mem_cons.mp hcs
      intro n
      rw [List.foldl_cons, ih hcs, hc, List.length_cons]
      omega
  exact (hfrom 0).trans (Nat.zero_add _)

theorem read_text (g : Guid) : read g.text = .ok g := by
  have hbytes : byteLength g.text = 36 :=
    (byteLength_of_utf8Size (forall_mem_text (by decide) (by decide) g)).trans g.length_text
  have hbody : (if byteLength g.text = 45 then (dropUrn? g.text).getD g.text else g.text) =
      g.text := if_neg (by omega)
  unfold read
  dsimp only
  rw [hbody, if_neg (by omega), if_pos hbytes, ungroup?_text, Option.bind_some, ofHex?_hexDigits,
    Option.bind_some, ofNat?, dif_pos g.value_lt]

end Guid

end TableDiff
