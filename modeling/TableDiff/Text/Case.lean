import TableDiff.Text.CaseData

/-!
# Letter case

Full upper-casing and lower-casing of text, and simple case folding of single characters.
Upper-casing may lengthen a text (`ß` becomes `SS`). Lower-casing depends on the neighbours only
for the capital sigma, which has a form of its own at the end of a word.
-/

namespace TableDiff.Text

/-! ## Upper case -/

/-- The upper-case form of one character. -/
def upperChar (c : Char) : List Char :=
  match upperExpansions.find? (·.1 == c.toNat) with
  | some (_, codes) => codes.map Char.ofNat
  | none => [Char.ofNat (mapByRuns c.toNat upperRuns)]

/-- The upper-case form of a text, character by character. -/
def upper (cs : List Char) : List Char :=
  cs.flatMap fun c => if c.toNat < 0x80 then [c.toUpper] else upperChar c

/-! ## Lower case -/

/-- Whether a letter is the next character that is not passed over by case rules. -/
def startsWithCased (cs : List Char) : Bool :=
  match cs.dropWhile (fun c => inRanges c.toNat caseIgnorableRanges) with
  | c :: _ => inRanges c.toNat casedRanges
  | [] => false

/-- The lower-case form of a character that stands between `before`, nearest first, and `after`.
The capital sigma is final when a letter precedes it and none follows. -/
def lowerChar (before : List Char) (c : Char) (after : List Char) : List Char :=
  if c.toNat < 0x80 then [c.toLower]
  else if c = 'Σ' then
    [if startsWithCased before && !startsWithCased after then 'ς' else 'σ']
  else if c = 'İ' then ['i', '\u0307']
  else [Char.ofNat (mapByRuns c.toNat lowerRuns)]

/-- The lower-case form of `cs` where the characters of `before` precede it, nearest first. -/
def lowerFrom (before : List Char) : List Char → List Char
  | [] => []
  | c :: rest => lowerChar before c rest ++ lowerFrom (c :: before) rest

/-- The lower-case form of a text. -/
def lower (cs : List Char) : List Char := lowerFrom [] cs

/-- The text with the letters `A` to `Z` in lower case and everything else as it is. -/
def lowerAscii (cs : List Char) : List Char := cs.map Char.toLower

/-! ## Folding -/

/-- The least character of the class of `c` under simple case folding. -/
def foldChar (c : Char) : Char := Char.ofNat (mapByRuns c.toNat foldRuns)

/-- Two characters that differ at most in case. -/
def sameLetter (a b : Char) : Bool := foldChar a == foldChar b

end TableDiff.Text
