import TableDiff.Text.PrintableData

/-!
# Quoted text

A text between double quotes, as error messages show file names and the values of a
configuration: the usual controls by a letter, other characters without a visible form by number.
-/

namespace TableDiff.Text

/-- Whether a character has a visible form of its own. -/
def isPrintable (c : Char) : Bool := !inRanges c.toNat invisibleRanges

/-- Whether a character attaches to the one before it. -/
def isGraphemeExtend (c : Char) : Bool := inRanges c.toNat graphemeExtendRanges

/-- A code point by number, in hexadecimal digits between braces. -/
def escapeByNumber (c : Char) : List Char :=
  "\\u\x7b".toList ++ Nat.toDigits 16 c.toNat ++ ['\x7d']

/-- One character of a quoted text; the single quote is escaped if `single` says so. -/
def escapeChar (single : Bool) (c : Char) : List Char :=
  match c with
  | '\x00' => ['\\', '0']
  | '\t' => ['\\', 't']
  | '\r' => ['\\', 'r']
  | '\n' => ['\\', 'n']
  | '\\' => ['\\', '\\']
  | '"' => ['\\', '"']
  | '\'' => if single then ['\\', '\''] else ['\'']
  | c =>
    if c.toNat < 0x80 && isPrintable c then [c]
    else if isGraphemeExtend c || !isPrintable c then escapeByNumber c
    else [c]

/-- A text in double quotes. -/
def quote (s : String) : String :=
  String.ofList ('"' :: s.toList.flatMap (escapeChar false) ++ ['"'])

/-- A file name in double quotes; single quotes are escaped in it as well. -/
def quotePath (s : String) : String :=
  String.ofList ('"' :: s.toList.flatMap (escapeChar true) ++ ['"'])

end TableDiff.Text
