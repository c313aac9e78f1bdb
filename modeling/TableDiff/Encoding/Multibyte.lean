import TableDiff.Encoding.Table.Big5
import TableDiff.Encoding.Table.Gb18030
import TableDiff.Encoding.Table.Gb18030Runs
import TableDiff.Encoding.Table.JisX0208
import TableDiff.Encoding.Table.JisX0212
import TableDiff.Encoding.Table.KsX1001

/-!
# Encodings of one or more bytes

A byte is a character by itself, or it leads a code of two or more bytes that stands for one
character, or in a few cases for two.
-/

namespace TableDiff.Encoding

/-- Whether a byte lies in a range. -/
def within (low high b : UInt8) : Bool := low ≤ b && b ≤ high

/-- The character of an ASCII byte. -/
def ascii? (b : UInt8) : Option Char := if b < 0x80 then some (Char.ofNat b.toNat) else none

/-- Decodes an encoding of one or two bytes for each code. -/
def decodePairs? (single : UInt8 → Option Char) (pair : UInt8 → UInt8 → Option (List Char)) :
    List UInt8 → Option (List Char)
  | [] => some []
  | b :: rest =>
    match single b with
    | some c => (decodePairs? single pair rest).map (c :: ·)
    | none =>
      match rest with
      | [] => none
      | trail :: rest =>
        match pair b trail with
        | some cs => (decodePairs? single pair rest).map (cs ++ ·)
        | none => none

/-- The place of a trail byte among those from `low` on, of which `gap` are left out behind 0x7E. -/
def trailColumn (low gap trail : UInt8) : Nat :=
  if trail < 0x7F then trail.toNat - low.toNat else trail.toNat - low.toNat - gap.toNat

/-! ## Chinese -/

/-- The codes of Big5 that stand for a letter and an accent. -/
def big5Accented : List (UInt8 × UInt8 × List Char) :=
  [(0x88, 0x62, ['\u00ca', '\u0304']), (0x88, 0x64, ['\u00ca', '\u030c']),
    (0x88, 0xA3, ['\u00ea', '\u0304']), (0x88, 0xA5, ['\u00ea', '\u030c'])]

def big5Pair? (lead trail : UInt8) : Option (List Char) :=
  if within 0x81 0xFE lead && (within 0x40 0x7E trail || within 0xA1 0xFE trail) then
    match big5Accented.find? fun e => e.1 == lead && e.2.1 == trail with
    | some e => some e.2.2
    | none =>
      (Table.big5.char? (lead.toNat - 0x81) (trailColumn 0x40 0x22 trail)).map fun c => [c]
  else none

def decodeBig5? : List UInt8 → Option (List Char) := decodePairs? ascii? big5Pair?

/-- The code point at a number of the four-byte codes: the last run that starts at or before the
number holds it. -/
def runCode (n : Nat) : List (Nat × Nat) → Nat → Nat
  | [], code => code
  | (first, start) :: rest, code => if n < first then code else runCode n rest (start + n - first)

/-- The character of a four-byte code. -/
def gb18030Four? (a b c d : UInt8) : Option Char :=
  if within 0x81 0xFE a && within 0x30 0x39 b && within 0x81 0xFE c && within 0x30 0x39 d then
    let n := ((a.toNat - 0x81) * 10 + (b.toNat - 0x30)) * 1260 + (c.toNat - 0x81) * 10 +
      (d.toNat - 0x30)
    -- One code of the first plane stands outside the order of the runs.
    if n = 7457 then some '\ue7c7'
    else if n ≤ 39419 then some (Char.ofNat (runCode n Table.gb18030Runs 0))
    else if 189000 ≤ n ∧ n ≤ 1237575 then some (Char.ofNat (0x10000 + (n - 189000)))
    else none
  else none

/-- The character of a two-byte code. -/
def gb18030Two? (lead trail : UInt8) : Option Char :=
  if within 0x81 0xFE lead && (within 0x40 0x7E trail || within 0x80 0xFE trail) then
    Table.gb18030.char? (lead.toNat - 0x81) (trailColumn 0x40 1 trail)
  else none

/-- Decodes GB 18030; the byte 0x80 is the sign of the euro. -/
def decodeGb18030? : List UInt8 → Option (List Char)
  | [] => some []
  | b :: rest =>
    match if b = 0x80 then some '\u20ac' else ascii? b with
    | some x => (decodeGb18030? rest).map (x :: ·)
    | none =>
      match rest with
      | [] => none
      | trail :: rest =>
        match gb18030Two? b trail with
        | some x => (decodeGb18030? rest).map (x :: ·)
        | none =>
          match rest with
          | c :: d :: rest =>
            match gb18030Four? b trail c d with
            | some x => (decodeGb18030? rest).map (x :: ·)
            | none => none
          | _ => none

/-! ## Korean -/

def eucKrPair? (lead trail : UInt8) : Option (List Char) :=
  if within 0x81 0xFE lead && within 0x41 0xFE trail then
    (Table.ksX1001.char? (lead.toNat - 0x81) (trail.toNat - 0x41)).map fun c => [c]
  else none

def decodeEucKr? : List UInt8 → Option (List Char) := decodePairs? ascii? eucKrPair?

/-! ## Japanese -/

/-- The half-width katakana of a byte from `first` on. -/
def katakana (first b : UInt8) : Char := Char.ofNat (0xFF61 + (b.toNat - first.toNat))

/-- A byte below 0x81 that is a character, or half-width katakana. -/
def shiftJisSingle? (b : UInt8) : Option Char :=
  if b ≤ 0x80 then some (Char.ofNat b.toNat)
  else if within 0xA1 0xDF b then some (katakana 0xA1 b)
  else none

/-- A code of two bytes; some of the codes are free for private use. -/
def shiftJisPair? (lead trail : UInt8) : Option (List Char) :=
  if (within 0x81 0x9F lead || within 0xE0 0xFC lead) &&
      (within 0x40 0x7E trail || within 0x80 0xFC trail) then
    let row := lead.toNat - (if lead < 0xA0 then 0x81 else 0xC1)
    let n := row * 188 + trailColumn 0x40 1 trail
    if 8836 ≤ n ∧ n ≤ 10715 then some [Char.ofNat (0xE000 + (n - 8836))]
    else (Table.jisX0208.charOfNumber? n).map fun c => [c]
  else none

def decodeShiftJis? : List UInt8 → Option (List Char) := decodePairs? shiftJisSingle? shiftJisPair?

/-- A code of two bytes in EUC-JP. -/
def eucJpPair? (lead trail : UInt8) : Option Char :=
  if lead = 0x8E ∧ within 0xA1 0xDF trail then some (katakana 0xA1 trail)
  else if within 0xA1 0xFE lead && within 0xA1 0xFE trail then
    Table.jisX0208.char? (lead.toNat - 0xA1) (trail.toNat - 0xA1)
  else none

/-- A code of EUC-JP in the supplementary set, behind its first byte. -/
def eucJpSupplement? (b c : UInt8) : Option Char :=
  if within 0xA1 0xFE b && within 0xA1 0xFE c then
    Table.jisX0212.char? (b.toNat - 0xA1) (c.toNat - 0xA1)
  else none

def decodeEucJp? : List UInt8 → Option (List Char)
  | [] => some []
  | a :: rest =>
    match ascii? a with
    | some x => (decodeEucJp? rest).map (x :: ·)
    | none =>
      match rest with
      | [] => none
      | b :: rest =>
        if a = 0x8F then
          match rest with
          | [] => none
          | c :: rest =>
            match eucJpSupplement? b c with
            | some x => (decodeEucJp? rest).map (x :: ·)
            | none => none
        else
          match eucJpPair? a b with
          | some x => (decodeEucJp? rest).map (x :: ·)
          | none => none

/-! ### ISO-2022-JP -/

/-- The sets of characters between which escapes switch. -/
inductive JapaneseSet where
  | ascii
  | roman
  | katakana
  | kanji
deriving DecidableEq

/-- The set that an escape selects. -/
def JapaneseSet.ofEscape? (a b : UInt8) : Option JapaneseSet :=
  if a = 0x28 ∧ b = 0x42 then some .ascii
  else if a = 0x28 ∧ b = 0x4A then some .roman
  else if a = 0x28 ∧ b = 0x49 then some .katakana
  else if a = 0x24 ∧ (b = 0x40 ∨ b = 0x42) then some .kanji
  else none

/-- The character of a byte in a set of single bytes. -/
def JapaneseSet.single? (s : JapaneseSet) (b : UInt8) : Option Char :=
  let plain := if b = 0x0E ∨ b = 0x0F ∨ b = 0x1B then none else ascii? b
  match s with
  | .ascii => plain
  | .roman => if b = 0x5C then some '\u00a5' else if b = 0x7E then some '\u203e' else plain
  | .katakana => if within 0x21 0x5F b then some (Encoding.katakana 0x21 b) else none
  | .kanji => none

def kanji? (a b : UInt8) : Option Char :=
  if within 0x21 0x7E a && within 0x21 0x7E b then
    Table.jisX0208.char? (a.toNat - 0x21) (b.toNat - 0x21)
  else none

/-- Decodes ISO-2022-JP. An escape may not follow another one at once. -/
def decodeIso2022Jp? (s : JapaneseSet) (escaped : Bool) : List UInt8 → Option (List Char)
  | [] => some []
  | a :: rest =>
    if a = 0x1B then
      match rest with
      | b :: c :: rest =>
        match JapaneseSet.ofEscape? b c with
        | some s => if escaped then none else decodeIso2022Jp? s true rest
        | none => none
      | _ => none
    else if s = .kanji then
      match rest with
      | [] => none
      | b :: rest =>
        match kanji? a b with
        | some x => (decodeIso2022Jp? s false rest).map (x :: ·)
        | none => none
    else
      match s.single? a with
      | some x => (decodeIso2022Jp? s false rest).map (x :: ·)
      | none => none

end TableDiff.Encoding
