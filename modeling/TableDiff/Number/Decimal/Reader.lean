import TableDiff.Number.Decimal

/-!
# Decimal numbers from text

Positional notation is an optional sign, digits with at most one point, and underscores as
separators after the first digit. The exponent notation adds `e` and an exponent. In positional
notation, places beyond the twenty-eighth, or beyond what the mantissa holds, are rounded on the
first digit left out, and what follows that digit is not looked at; an exponent that leads to
more than 28 places has the number rounded to 28.
-/

namespace TableDiff.Decimal

/-- Why a text is no decimal number. -/
inductive ReadError where
  | empty
  | noDigits
  | secondPoint
  | leadingSeparator
  | unknownCharacter
  | tooManyDigits
  | roundingOverflow
  | badExponent
  | scaleTooLarge (scale : Nat)
  | tooLarge
deriving DecidableEq

def ReadError.message : ReadError → String
  | .empty => "Invalid decimal: empty"
  | .noDigits => "Invalid decimal: no digits found"
  | .secondPoint => "Invalid decimal: two decimal points"
  | .leadingSeparator => "Invalid decimal: must start lead with a number"
  | .unknownCharacter => "Invalid decimal: unknown character"
  | .tooManyDigits => "Invalid decimal: overflow from too many digits"
  | .roundingOverflow => "Invalid decimal: overflow from mantissa after rounding"
  | .badExponent => "Failed to parse"
  | .scaleTooLarge scale =>
    "Scale exceeds the maximum precision allowed: " ++ toString scale ++ " > 28"
  | .tooLarge => "Number exceeds maximum value that can be represented."

/-! ## Positional notation -/

/-- What has been read of a number. -/
structure Progress where
  negative : Bool
  mantissa : Nat
  scale : Nat
  hasDigit : Bool
  hasPoint : Bool

/-- The number read; a zero has no sign. -/
def Progress.finish (p : Progress) : Except ReadError Decimal :=
  if !p.hasDigit then .error .noDigits
  else match ofParts? (p.negative && p.mantissa != 0) p.mantissa p.scale with
    | some d => .ok d
    | none => .error .tooManyDigits

/-- The error for a character that cannot stand where it does. -/
def misplaced (c : Char) : ReadError :=
  if c = '.' then .secondPoint
  else if c = '_' then .leadingSeparator
  else .unknownCharacter

/-- Ends the number one unit of the last place higher. -/
def Progress.finishAbove (p : Progress) : Except ReadError Decimal :=
  let mantissa := p.mantissa + 1
  if mantissa < mantissaBound then Progress.finish { p with mantissa := mantissa }
  else if p.scale = 0 then .error .roundingOverflow
  else Progress.finish { p with mantissa := (mantissa + 4) / 10, scale := p.scale - 1 }

/-- Ends the number at its last place by rounding on the next character. -/
def Progress.roundOn (p : Progress) (c : Char) : Except ReadError Decimal :=
  if c.isDigit then
    if 5 ≤ Number.digitValue c then p.finishAbove else p.finish
  else if c = '_' ∨ c = '.' then p.finish
  else .error (misplaced c)

/-- Reads the characters after the sign. -/
def readFrom (p : Progress) : List Char → Except ReadError Decimal
  | [] => p.finish
  | c :: rest =>
    if c.isDigit then
      let mantissa := p.mantissa * 10 + Number.digitValue c
      if mantissaBound ≤ mantissa then
        -- Digits behind the point can be rounded away, those before it cannot.
        if p.hasPoint then p.roundOn c else .error .tooManyDigits
      else
        let scale := if p.hasPoint then p.scale + 1 else p.scale
        let next := { p with mantissa := mantissa, scale := scale, hasDigit := true }
        match rest with
        | [] => next.finish
        | d :: _ => if p.hasPoint ∧ maxScale ≤ scale then next.roundOn d else readFrom next rest
    else if c = '.' ∧ !p.hasPoint then readFrom { p with hasPoint := true } rest
    else if c = '_' ∧ p.hasDigit then readFrom p rest
    else .error (misplaced c)

/-- Reads a number in positional notation. -/
def readPositional : List Char → Except ReadError Decimal
  | [] => .error .empty
  | '-' :: rest => readFrom ⟨true, 0, 0, false, false⟩ rest
  | '+' :: rest => readFrom ⟨false, 0, 0, false, false⟩ rest
  | cs => readFrom ⟨false, 0, 0, false, false⟩ cs

/-! ## Exponent notation -/

/-- The number `d` with another scale, which must be in range. -/
def withScale (d : Decimal) (scale : Nat) : Except ReadError Decimal :=
  match ofParts? d.negative d.mantissa scale with
  | some r => .ok r
  | none => .error (.scaleTooLarge scale)

/-- The number `d * 10 ^ exponent`. Only as many zeros are written as the scale lacks. -/
def scaleUp (d : Decimal) (exponent : Nat) : Except ReadError Decimal :=
  if exponent ≤ d.scale then d.withScale (d.scale - exponent)
  else if maxScale < exponent then .error (.scaleTooLarge exponent)
  else match ofParts? d.negative (d.mantissa * Number.tenPow (exponent - d.scale)) 0 with
    | some r => .ok r
    | none => .error .tooLarge

/-- The quotient `n / 10 ^ places` rounded to a natural number, half upward. -/
def dropPlaces (n places : Nat) : Nat :=
  (2 * n + Number.tenPow places) / (2 * Number.tenPow places)

/-- The number `d / 10 ^ exponent`. Places beyond the greatest scale are rounded, half away from
zero. -/
def scaleDown (d : Decimal) (exponent : Nat) : Except ReadError Decimal :=
  let scale := d.scale + exponent
  if maxScale < exponent then .error (.scaleTooLarge exponent)
  else if scale ≤ maxScale then d.withScale scale
  else match ofParts? d.negative (dropPlaces d.mantissa (scale - maxScale)) maxScale with
    | some r => .ok r
    | none => .error .tooLarge

/-- The magnitude of an exponent; it is below 2 ^ 32. -/
def readExponent (cs : List Char) : Except ReadError Nat :=
  let ds := match cs with
    | '+' :: rest => rest
    | cs => cs
  match Number.readUnsigned (Number.twoPow 32 - 1) .tooLarge ds with
  | .ok n => .ok n
  | .error _ => .error .badExponent

/-- Whether a character starts an exponent. -/
def isExponentMark (c : Char) : Bool := c == 'e' || c == 'E'

/-- Reads a number in exponent notation, in which the exponent is not optional. -/
def readScientific (cs : List Char) : Except ReadError Decimal :=
  match cs.dropWhile (!isExponentMark ·) with
  | [] => .error .badExponent
  | _ :: exponent => do
    let d ← readPositional (cs.takeWhile (!isExponentMark ·))
    match exponent with
    | '-' :: ds => do
      let n ← readExponent ds
      d.scaleDown n
    | ds => do
      let n ← readExponent ds
      d.scaleUp n

/-- Reads a number in the notation that the presence of an exponent mark selects. -/
def read (cs : List Char) : Except ReadError Decimal :=
  if cs.any isExponentMark then readScientific cs else readPositional cs

end TableDiff.Decimal
