import TableDiff.Json
import TableDiff.Number.Binary64.Reader
import TableDiff.Number.Hex

/-!
# JSON from text

Reads JSON text. The members of an object are sorted by name, and the last of several members of
one name stays. The reader takes a bound on the nesting and on the number of parts; the length of
the text is bound enough.
-/

namespace TableDiff.Json

def isSpace (c : Char) : Bool := c == ' ' || c == '\n' || c == '\r' || c == '\t'

def skipSpace (cs : List Char) : List Char := cs.dropWhile isSpace

/-- A hexadecimal number of four digits. -/
def hex4? (cs : List Char) : Option (Nat × List Char) :=
  let ds := cs.take 4
  if ds.length = 4 then (Number.ofHex? ds).map fun n => (n, cs.drop 4) else none

/-- The character of an escape, whose backslash has been read; two escapes may form one. -/
def readEscape? : List Char → Option (Char × List Char)
  | '"' :: rest => some ('"', rest)
  | '\\' :: rest => some ('\\', rest)
  | '/' :: rest => some ('/', rest)
  | 'b' :: rest => some ('\x08', rest)
  | 'f' :: rest => some ('\x0c', rest)
  | 'n' :: rest => some ('\n', rest)
  | 'r' :: rest => some ('\r', rest)
  | 't' :: rest => some ('\t', rest)
  | 'u' :: rest => do
    let (high, more) ← hex4? rest
    if 0xD800 ≤ high ∧ high < 0xDC00 then
      match more with
      | '\\' :: 'u' :: more =>
        let (low, more) ← hex4? more
        if 0xDC00 ≤ low ∧ low < 0xE000 then
          return (Char.ofNat (0x10000 + (high - 0xD800) * 0x400 + (low - 0xDC00)), more)
        else none
      | _ => none
    else if 0xDC00 ≤ high ∧ high < 0xE000 then none
    else return (Char.ofNat high, more)
  | _ => none

/-- The characters of a text up to its closing quote, and what follows. -/
def readTextBody? : Nat → List Char → List Char → Option (String × List Char)
  | _, acc, '"' :: rest => some (String.ofList acc.reverse, rest)
  | fuel + 1, acc, '\\' :: rest => do
    let (c, more) ← readEscape? rest
    readTextBody? fuel (c :: acc) more
  | fuel + 1, acc, c :: rest => if c.toNat < 0x20 then none else readTextBody? fuel (c :: acc) rest
  | _, _, _ => none

/-- Whether a character can be part of a number. -/
def isNumberChar (c : Char) : Bool :=
  c.isDigit || c == '-' || c == '+' || c == '.' || c == 'e' || c == 'E'

/-- A number: digits alone are an integer, unless it is too large or a negative zero. -/
def ofNumber? (cs : List Char) : Option Json :=
  let digits := match cs with
    | '-' :: rest => rest
    | cs => cs
  let negative := digits.length < cs.length
  if digits ≠ [] ∧ digits.all Char.isDigit then
    let n := Number.ofDigits digits
    if negative ∧ 0 < n ∧ n ≤ Number.twoPow 63 then some (.integer (-n))
    else if !negative ∧ n < Number.twoPow 64 then some (.integer n)
    else (Binary64.readUnsigned? negative digits).map .float
  else (Binary64.readUnsigned? negative digits).map .float

/-- The object of the given members, sorted by name; of one name the last member stays. -/
def objectOf (members : List (String × Json)) : Json :=
  let insert (m : String × Json) : List (String × Json) → List (String × Json) :=
    fun sorted =>
      sorted.takeWhile (fun e => decide (e.1 < m.1)) ++
        m :: (sorted.dropWhile (fun e => decide (e.1 < m.1))).filter (fun e => e.1 != m.1)
  .object (members.foldl (fun sorted m => insert m sorted) [])

mutual

/-- A value at the start of a text, and what follows. -/
def readValue? : Nat → List Char → Option (Json × List Char)
  | 0, _ => none
  | fuel + 1, cs =>
    match skipSpace cs with
    | 'n' :: 'u' :: 'l' :: 'l' :: rest => some (.null, rest)
    | 't' :: 'r' :: 'u' :: 'e' :: rest => some (.boolean true, rest)
    | 'f' :: 'a' :: 'l' :: 's' :: 'e' :: rest => some (.boolean false, rest)
    | '"' :: rest => (readTextBody? rest.length [] rest).map fun (s, more) => (.text s, more)
    | '[' :: rest =>
      match skipSpace rest with
      | ']' :: more => some (.list [], more)
      | more => (readItems? fuel [] more).map fun (items, more) => (.list items, more)
    | '\x7b' :: rest =>
      match skipSpace rest with
      | '\x7d' :: more => some (.object [], more)
      | more => (readMembers? fuel [] more).map fun (members, more) => (objectOf members, more)
    | cs =>
      (ofNumber? (cs.takeWhile isNumberChar)).map fun v => (v, cs.dropWhile isNumberChar)

/-- The items of a list that is not empty, up to its bracket. -/
def readItems? : Nat → List Json → List Char → Option (List Json × List Char)
  | 0, _, _ => none
  | fuel + 1, acc, cs => do
    let (v, more) ← readValue? fuel cs
    match skipSpace more with
    | ',' :: more => readItems? fuel (v :: acc) more
    | ']' :: more => return ((v :: acc).reverse, more)
    | _ => none

/-- The members of an object that is not empty, up to its brace. -/
def readMembers? : Nat → List (String × Json) → List Char →
    Option (List (String × Json) × List Char)
  | 0, _, _ => none
  | fuel + 1, acc, cs =>
    match skipSpace cs with
    | '"' :: rest => do
      let (name, more) ← readTextBody? rest.length [] rest
      match skipSpace more with
      | ':' :: more =>
        let (v, more) ← readValue? fuel more
        match skipSpace more with
        | ',' :: more => readMembers? fuel ((name, v) :: acc) more
        | '\x7d' :: more => return (((name, v) :: acc).reverse, more)
        | _ => none
      | _ => none
    | _ => none

end

/-- Reads a text that is one value. -/
def read? (text : String) : Option Json := do
  let cs := text.toList
  let (v, rest) ← readValue? (cs.length + 1) cs
  if skipSpace rest = [] then return v else none

end TableDiff.Json
