import TableDiff.Json

/-!
# JSON text

Values as JSON text, on one line or indented by two spaces. In a text only the quote, the
backslash and the controls are escaped.
-/

namespace TableDiff.Json

/-- A control by its number in four hexadecimal digits. -/
def escapeControl (c : Char) : List Char :=
  let ds := Nat.toDigits 16 c.toNat
  ['\\', 'u'] ++ List.replicate (4 - ds.length) '0' ++ ds

def escapeChar (c : Char) : List Char :=
  match c with
  | '"' => ['\\', '"']
  | '\\' => ['\\', '\\']
  | '\n' => ['\\', 'n']
  | '\r' => ['\\', 'r']
  | '\t' => ['\\', 't']
  | '\x08' => ['\\', 'b']
  | '\x0c' => ['\\', 'f']
  | c => if c.toNat < 0x20 then escapeControl c else [c]

/-- A text between quotes. -/
def quoted (s : String) : List Char := '"' :: s.toList.flatMap escapeChar ++ ['"']

/-- A value without parts. -/
def scalarText : Json → List Char
  | .null => "null".toList
  | .boolean b => if b then "true".toList else "false".toList
  | .integer i => Number.intText i
  | .float x => if x.isFinite then x.scientificText else "null".toList
  | .text s => quoted s
  | .list _ => []
  | .object _ => []

/-- The parts of a value between brackets, on lines of their own if `margin?` gives the
indentation of the brackets. -/
def bracketed (margin? : Option Nat) (opening closing : Char) (parts : List (List Char)) :
    List Char :=
  match margin?, parts with
  | _, [] => [opening, closing]
  | none, parts => opening :: [','].intercalate parts ++ [closing]
  | some margin, parts =>
    let lineStart := '\n' :: List.replicate (margin + 2) ' '
    opening :: lineStart ++ (',' :: lineStart).intercalate parts ++
      '\n' :: List.replicate margin ' ' ++ [closing]

mutual

/-- The text of a value; with a margin it is indented. -/
def textFrom (margin? : Option Nat) : Json → List Char
  | .list items => bracketed margin? '[' ']' (itemTexts (margin?.map (· + 2)) items)
  | .object members =>
    bracketed margin? '\x7b' '\x7d' (memberTexts (margin?.map (· + 2)) members)
  | v => scalarText v

def itemTexts (margin? : Option Nat) : List Json → List (List Char)
  | [] => []
  | v :: rest => textFrom margin? v :: itemTexts margin? rest

def memberTexts (margin? : Option Nat) : List (String × Json) → List (List Char)
  | [] => []
  | (name, v) :: rest =>
    (quoted name ++ (if margin?.isSome then [':', ' '] else [':']) ++ textFrom margin? v) ::
      memberTexts margin? rest

end

/-- The text of a value on one line. -/
def compact (v : Json) : String := String.ofList (textFrom none v)

/-- The text of a value with every part on a line of its own. -/
def pretty (v : Json) : String := String.ofList (textFrom (some 0) v)

end TableDiff.Json
