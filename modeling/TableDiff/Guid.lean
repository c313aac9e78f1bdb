import TableDiff.Number.Hex
import TableDiff.Number.Power

/-!
# Globally unique identifiers

Identifiers of 128 bits. They are written as 32 hexadecimal digits, in one group or in five
groups joined by hyphens, and the latter also after `urn:uuid:`.
-/

namespace TableDiff

/-- An identifier of 128 bits. -/
structure Guid where
  value : Nat
  value_lt : value < Number.twoPow 128
deriving DecidableEq

namespace Guid

/-- Why a text is no identifier. Positions count bytes. -/
inductive ReadError where
  | invalidCharacter (c : Char) (position : Nat)
  | invalidLength (length : Nat)
  | groupCount (count : Nat)
  | groupLength (group expected length : Nat)
deriving DecidableEq

/-- The identifier of a number, if it has at most 128 bits. -/
def ofNat? (n : Nat) : Option Guid :=
  if h : n < Number.twoPow 128 then some ⟨n, h⟩ else none

/-! ## Text -/

/-- The lengths of the five groups. -/
def groupLengths : List Nat := [8, 4, 4, 4, 12]

/-- Splits a list into parts of the given lengths. -/
def splitGroups : List Nat → List Char → List (List Char)
  | [], _ => []
  | n :: ns, cs => cs.take n :: splitGroups ns (cs.drop n)

/-- The 32 digits, in lower case. -/
def hexDigits (g : Guid) : List Char :=
  let ds := Nat.toDigits 16 g.value
  List.replicate (32 - ds.length) '0' ++ ds

/-- The five groups with hyphens. -/
def text (g : Guid) : List Char :=
  ['-'].intercalate (splitGroups groupLengths g.hexDigits)

/-! ## Reading -/

/-- The prefix of an identifier that is written as a uniform resource name, in any case. -/
def urnPrefix : List Char := "urn:uuid:".toList

/-- The text after the prefix, if it has it. -/
def dropUrn? (cs : List Char) : Option (List Char) :=
  if (cs.take urnPrefix.length).map Char.toLower = urnPrefix then some (cs.drop urnPrefix.length)
  else none

/-- The length of a text in bytes of UTF-8. -/
def byteLength (cs : List Char) : Nat := cs.foldl (fun n c => n + c.utf8Size) 0

/-- The first character that is neither a digit nor a hyphen, and its position. -/
def badCharacter? (position : Nat) : List Char → Option (Char × Nat)
  | [] => none
  | c :: rest =>
    if c = '-' ∨ (Number.hexValue? c).isSome then badCharacter? (position + c.utf8Size) rest
    else some (c, position)

/-- The positions of the hyphens. -/
def hyphens (position : Nat) : List Char → List Nat
  | [] => []
  | c :: rest =>
    if c = '-' then position :: hyphens (position + 1) rest else hyphens (position + 1) rest

/-- Why a text of wrong shape is refused: a character that cannot occur, else the length of a text
without hyphens, else the number of groups, else the first group of another length than its own.
The length of the last group is taken to be what the four others leave of the text. -/
def diagnose (cs : List Char) : ReadError :=
  let (offset, body, simple) := match dropUrn? cs with
    | some body => (urnPrefix.length, body, false)
    | none => (0, cs, true)
  match badCharacter? offset body, hyphens 0 body with
  | some (c, position), _ => .invalidCharacter c position
  | none, [a, b, c, d] =>
    if a ≠ 8 then .groupLength 0 8 a
    else if b ≠ 13 then .groupLength 1 4 (b - 9)
    else if c ≠ 18 then .groupLength 2 4 (c - 14)
    else if d ≠ 23 then .groupLength 3 4 (d - 19)
    else .groupLength 4 12 (cs.length - 24)
  | none, marks =>
    if marks = [] ∧ simple then .invalidLength cs.length else .groupCount (marks.length + 1)

/-- The digits of five groups that are joined by hyphens. -/
def ungroup? (cs : List Char) : Option (List Char) :=
  match splitGroups [8, 1, 4, 1, 4, 1, 4, 1, 12] cs with
  | [a, ['-'], b, ['-'], c, ['-'], d, ['-'], e] => some (a ++ b ++ c ++ d ++ e)
  | _ => none

/-- Reads an identifier; the length tells the form. -/
def read (cs : List Char) : Except ReadError Guid :=
  let body := if byteLength cs = 45 then (dropUrn? cs).getD cs else cs
  let ds :=
    if byteLength body = 32 ∧ byteLength cs = 32 then some body
    else if byteLength body = 36 then ungroup? body
    else none
  match (ds.bind Number.ofHex?).bind ofNat? with
  | some g => .ok g
  | none => .error (diagnose body)

def ReadError.message : ReadError → String
  | .invalidCharacter c position =>
    "invalid character: found `" ++ toString c ++ "` at " ++ toString position
  | .invalidLength length => "invalid length: found " ++ toString length
  | .groupCount count => "invalid group count: expected 5, found " ++ toString count
  | .groupLength group expected length =>
    "invalid group length in group " ++ toString group ++ ": expected " ++ toString expected ++
      ", found " ++ toString length

end Guid

end TableDiff
